import ServiceProbe.Proofs.Json.Literals
import ServiceProbe.Proofs.Number.Shortest

/-!
The text of a value as a number that can be read. Its digits are those of the
shortest decimal without the zeros at the end; the place of the point decides
whether zeros are added on one side of it or an exponent is written.
-/

namespace ServiceProbe.Json

open Number Binary64

seal Binary64.scale Decimal.scale

/-! ### Digits of numbers -/

theorem natOf_toDigits (n : Nat) : natOf (Nat.toDigits 10 n) = n := Nat.ofDigitChars_ten_toDigits

theorem isDigit_toDigits {n : Nat} {c : Char} (h : c ∈ Nat.toDigits 10 n) : c.isDigit = true :=
  Nat.isDigit_of_mem_toDigits (by decide) (by decide) h

theorem head_toDigits_ne {n : Nat} (hn : n ≠ 0) : (Nat.toDigits 10 n).head? ≠ some '0' := by
  induction n using Nat.strongRecOn with
  | ind n ih =>
    rcases Nat.lt_or_ge n 10 with hlt | hge
    · rw [Nat.toDigits_of_lt_base hlt]
      interval_cases n <;> simp_all
    · rw [Nat.toDigits_of_base_le (by decide) hge,
        List.head?_append_of_ne_nil _ Nat.toDigits_ne_nil]
      exact ih (n / 10) (by omega) (by omega)

theorem natOf_replicate (k : Nat) : natOf (List.replicate k '0') = 0 := by
  rw [natOf, Nat.ofDigitChars_replicate_zero, Nat.mul_zero]

/-- The digits without the zeros at their end. -/
def trimZeros (digits : List Char) : List Char := (digits.reverse.dropWhile (· == '0')).reverse

theorem eq_trimZeros_append (digits : List Char) :
    ∃ k, digits = trimZeros digits ++ List.replicate k '0' := by
  refine ⟨(digits.reverse.takeWhile (· == '0')).length, ?_⟩
  have hzeros : digits.reverse.takeWhile (· == '0') =
      List.replicate (digits.reverse.takeWhile (· == '0')).length '0' := by
    rw [List.eq_replicate_iff]
    exact ⟨rfl, fun c hc => by simpa using List.mem_takeWhile_imp hc⟩
  rw [trimZeros, ← List.reverse_replicate, ← List.reverse_append, ← hzeros,
    List.takeWhile_append_dropWhile, List.reverse_reverse]

/-! ### Literals from digits and the place of the point -/

/-- The exponent of a text with one digit before the point. -/
def exponentOf (point : ℤ) : Exponent :=
  ⟨'e', if point - 1 < 0 then .minus else .plus, Nat.toDigits 10 (point - 1).natAbs⟩

/-- How digits are written whose point is some places after the front of them. -/
inductive Layout (digits : List Char) : ℤ → Literal → Prop where
  | before (k : ℕ) : Layout digits (-k) ⟨false, ['0'], List.replicate k '0' ++ digits, none⟩
  | inside (k : ℕ) (h : k < digits.length) (hk : 0 < k) :
      Layout digits k ⟨false, digits.take k, digits.drop k, none⟩
  | after (k : ℕ) :
      Layout digits (digits.length + k) ⟨false, digits ++ List.replicate k '0', ['0'], none⟩
  | scientific (point : ℤ) :
      Layout digits point ⟨false, digits.take 1, digits.drop 1, some (exponentOf point)⟩

section Layouts

variable {digits : List Char} {point : ℤ} {l : Literal}

theorem exponentOf_wellFormed (point : ℤ) : (exponentOf point).WellFormed :=
  ⟨.inl rfl, fun _ hc => isDigit_toDigits hc, Nat.toDigits_ne_nil⟩

theorem power_exponentOf (point : ℤ) : (exponentOf point).power = point - 1 := by
  unfold Exponent.power exponentOf
  simp only [natOf_toDigits]
  by_cases h : point - 1 < 0
  · rw [if_pos h, if_pos rfl]
    omega
  · rw [if_neg h, if_neg (by decide)]
    omega

theorem Layout.wellFormed (h : Layout digits point l) (hd : ∀ c ∈ digits, c.isDigit = true)
    (hne : digits ≠ []) (hhead : digits.head? ≠ some '0') : l.WellFormed := by
  have hzero : ∀ k, ∀ c ∈ List.replicate k '0', c.isDigit = true := by
    intro k c hc
    rw [List.eq_of_mem_replicate hc]
    decide
  obtain ⟨c, s, rfl⟩ := List.exists_cons_of_ne_nil hne
  have hc : c ≠ '0' := by simpa using hhead
  cases h with
  | before k =>
    refine ⟨by simp, .inl rfl, fun d hd' => ?_, by simp⟩
    exact (List.mem_append.1 hd').elim (hzero k d) (hd d)
  | inside k hlt hk =>
    obtain ⟨k, rfl⟩ := Nat.exists_eq_succ_of_ne_zero hk.ne'
    refine ⟨fun d hd' => hd d (List.mem_of_mem_take hd'), .inr ⟨by simp, by simpa using hc⟩,
      fun d hd' => hd d (List.mem_of_mem_drop hd'), by simp⟩
  | after k =>
    refine ⟨fun d hd' => ?_, .inr ⟨by simp, by simpa using hc⟩, by simp, by simp⟩
    exact (List.mem_append.1 hd').elim (hd d) (hzero k d)
  | scientific =>
    refine ⟨fun d hd' => hd d (List.mem_of_mem_take hd'), .inr ⟨by simp, by simpa using hc⟩,
      fun d hd' => hd d (List.mem_of_mem_drop hd'), fun e he => ?_⟩
    cases he
    exact exponentOf_wellFormed point

theorem Layout.size (h : Layout digits point l) (hne : digits ≠ []) :
    l.size = natOf digits * (10 : ℚ) ^ (point - digits.length) := by
  have hten : (10 : ℚ) ≠ 0 := by norm_num
  have hlength : 1 ≤ digits.length := List.length_pos_of_ne_nil hne
  cases h with
  | before k =>
    have hvalue : natOf (['0'] ++ (List.replicate k '0' ++ digits)) = natOf digits := by
      rw [natOf_append, natOf_append, natOf_replicate]
      simp [natOf, Nat.ofDigitChars]
    rw [Literal.size, Literal.mantissa, hvalue, Literal.power]
    simp only [Option.map_none, Option.getD_none, zpow_zero, mul_one, List.length_append,
      List.length_replicate]
    congr 2
    push_cast
    ring
  | inside k hlt hk =>
    rw [Literal.size, Literal.mantissa, List.take_append_drop, Literal.power]
    simp only [Option.map_none, Option.getD_none, zpow_zero, mul_one, List.length_drop]
    congr 2
    omega
  | after k =>
    have hvalue :
        natOf (digits ++ List.replicate k '0' ++ ['0']) = natOf digits * 10 ^ (k + 1) := by
      rw [natOf_append, natOf_append, natOf_replicate]
      simp only [List.length_replicate, List.length_singleton, pow_succ]
      simp [natOf, Nat.ofDigitChars, Nat.mul_assoc]
    rw [Literal.size, Literal.mantissa, hvalue, Literal.power]
    simp only [Option.map_none, Option.getD_none, zpow_zero, mul_one, List.length_singleton]
    rw [Nat.cast_mul, mul_assoc, Nat.cast_pow, Nat.cast_ofNat, ← zpow_natCast,
      ← zpow_add₀ hten]
    congr 2
    push_cast
    ring
  | scientific =>
    rw [Literal.size, Literal.mantissa, List.take_append_drop, Literal.power]
    simp only [Option.map_some, Option.getD_some, power_exponentOf, List.length_drop]
    rw [mul_assoc, ← zpow_add₀ hten]
    congr 2
    omega

end Layouts

/-- The text of a value is laid out from its digits and the place of the point. -/
theorem jsonText_layout {x : Binary64} (hx : x.units ≠ 0)
    (hne : (x.digitsAndPoint .even).1 ≠ []) :
    ∃ l, Layout (x.digitsAndPoint .even).1 (x.digitsAndPoint .even).2 l ∧
      x.jsonText.toList = l.text := by
  unfold jsonText
  rw [if_neg hx]
  generalize x.digitsAndPoint .even = p at hne ⊢
  obtain ⟨digits, point⟩ := p
  simp only at hne ⊢
  split
  · unfold positional
    split
    · next hpoint =>
      refine ⟨_, by
        have h : Layout digits _ _ := .before (-point).toNat
        rwa [Int.toNat_of_nonneg (by omega), neg_neg] at h, ?_⟩
      simp [Literal.text, Literal.unsigned, Literal.fractionText, Literal.exponentText, hne]
    · next hpoint =>
      rcases Nat.lt_or_ge point.toNat digits.length with hlt | hge
      · refine ⟨_, by
          have h : Layout digits _ _ := .inside point.toNat hlt (by omega)
          rwa [Int.toNat_of_nonneg (by omega)] at h, ?_⟩
        have hdrop : digits.drop point.toNat ≠ [] := by
          rw [ne_eq, List.drop_eq_nil_iff]
          omega
        have hzero : point.toNat - digits.length = 0 := by omega
        simp [Literal.text, Literal.unsigned, Literal.fractionText, Literal.exponentText, hdrop,
          hzero]
      · refine ⟨_, by
          have h : Layout digits _ _ := .after (point.toNat - digits.length)
          rwa [show ((digits.length : ℤ) + (point.toNat - digits.length : ℕ)) = point by omega]
            at h, ?_⟩
        have hdrop : digits.drop point.toNat = [] := List.drop_eq_nil_iff.2 hge
        simp [Literal.text, Literal.unsigned, Literal.fractionText, Literal.exponentText, hdrop,
          List.take_of_length_le hge]
  · refine ⟨_, .scientific point, ?_⟩
    obtain ⟨c, s, rfl⟩ := List.exists_cons_of_ne_nil hne
    have hsign : (if point < 1 then "-" else "+").toList =
        (if point < 1 then Sign.minus else Sign.plus).text := by
      split <;> rfl
    cases s with
    | nil => simp [Literal.text, Literal.unsigned, Literal.fractionText, Literal.exponentText,
        exponentOf, Exponent.text, hsign]
    | cons d s => simp [Literal.text, Literal.unsigned, Literal.fractionText,
        Literal.exponentText, exponentOf, Exponent.text, hsign]

section Values

variable {x : Binary64}

/-- The digits and the place of the point are those of the shortest decimal. -/
theorem value_shortest (x : Binary64) (tie : Tie) :
    (x.shortest tie).value =
      natOf (x.digitsAndPoint tie).1 *
        (10 : ℚ) ^ ((x.digitsAndPoint tie).2 - (x.digitsAndPoint tie).1.length) := by
  have hten : (10 : ℚ) ≠ 0 := by norm_num
  unfold digitsAndPoint
  simp only
  generalize x.shortest tie = d
  obtain ⟨k, hk⟩ := eq_trimZeros_append (Nat.toDigits 10 d.digits)
  change d.value = natOf (trimZeros (Nat.toDigits 10 d.digits)) *
    (10 : ℚ) ^ (((Nat.toDigits 10 d.digits).length : ℤ) + d.exponent - Decimal.scale -
      (trimZeros (Nat.toDigits 10 d.digits)).length)
  have hvalue : d.digits = natOf (trimZeros (Nat.toDigits 10 d.digits)) * 10 ^ k := by
    have h := congrArg natOf hk
    rwa [natOf_toDigits, natOf_append, natOf_replicate, List.length_replicate, Nat.add_zero] at h
  have hlength : (Nat.toDigits 10 d.digits).length =
      (trimZeros (Nat.toDigits 10 d.digits)).length + k := by
    have h := congrArg List.length hk
    rwa [List.length_append, List.length_replicate] at h
  generalize trimZeros (Nat.toDigits 10 d.digits) = significant at hvalue hlength ⊢
  rw [hlength, Decimal.value]
  nth_rewrite 1 [hvalue]
  rw [Nat.cast_mul, Nat.cast_pow, Nat.cast_ofNat, div_eq_mul_inv, mul_assoc, mul_assoc,
    ← zpow_natCast, ← zpow_natCast, ← zpow_natCast, ← zpow_neg, ← zpow_add₀ hten,
    ← zpow_add₀ hten]
  congr 2
  push_cast
  ring

theorem digits_ne_zero (h : 0 < (x.shortest .even).value) : (x.shortest .even).digits ≠ 0 := by
  intro hzero
  rw [Decimal.value, hzero, Nat.cast_zero, zero_mul, zero_div] at h
  exact lt_irrefl _ h

/-- The first digit is not zero. -/
theorem significant_spec (h : 0 < (x.shortest .even).value) :
    (∀ c ∈ (x.digitsAndPoint .even).1, c.isDigit = true) ∧ (x.digitsAndPoint .even).1 ≠ [] ∧
      (x.digitsAndPoint .even).1.head? ≠ some '0' := by
  have hne := digits_ne_zero h
  have hhead := head_toDigits_ne hne
  change (∀ c ∈ trimZeros (Nat.toDigits 10 (x.shortest .even).digits), c.isDigit = true) ∧
    trimZeros (Nat.toDigits 10 (x.shortest .even).digits) ≠ [] ∧
    (trimZeros (Nat.toDigits 10 (x.shortest .even).digits)).head? ≠ some '0'
  obtain ⟨k, hk⟩ := eq_trimZeros_append (Nat.toDigits 10 (x.shortest .even).digits)
  have hnil : trimZeros (Nat.toDigits 10 (x.shortest .even).digits) ≠ [] := by
    intro hnil
    have hvalue := natOf_toDigits (x.shortest .even).digits
    rw [hk, hnil, List.nil_append, natOf_replicate] at hvalue
    exact hne hvalue.symm
  refine ⟨fun c hc => ?_, hnil, ?_⟩
  · refine isDigit_toDigits (n := (x.shortest .even).digits) ?_
    rw [hk]
    exact List.mem_append_left _ hc
  · rw [hk, List.head?_append_of_ne_nil _ hnil] at hhead
    exact hhead

theorem pow_le_of_ne_zero {n : Nat} (hn : n ≠ 0) : 10 ^ ((Nat.toDigits 10 n).length - 1) ≤ n := by
  rcases Nat.eq_zero_or_pos ((Nat.toDigits 10 n).length - 1) with hzero | hpos
  · rw [hzero]
    exact Nat.one_le_iff_ne_zero.2 hn
  · have h := Nat.length_toDigits_le_iff (n := n) (by decide : 1 < 10) hpos
    exact not_lt.1 fun hlt => by
      have := h.2 hlt
      omega

/-- The point of a value that is not very large is not far to the right. -/
theorem point_bounds (h : 0 < (x.shortest .even).value)
    (hle : (x.shortest .even).value < 10 ^ 40) :
    -400 ≤ (x.digitsAndPoint .even).2 ∧ (x.digitsAndPoint .even).2 ≤ 40 := by
  have hscale : Decimal.scale = 400 := by decide +kernel
  have hpow := pow_le_of_ne_zero (digits_ne_zero h)
  change -400 ≤ ((Nat.toDigits 10 (x.shortest .even).digits).length : ℤ) +
      (x.shortest .even).exponent - Decimal.scale ∧
    ((Nat.toDigits 10 (x.shortest .even).digits).length : ℤ) +
      (x.shortest .even).exponent - Decimal.scale ≤ 40
  refine ⟨by omega, ?_⟩
  by_contra hlt
  refine absurd hle (not_lt.2 ?_)
  generalize x.shortest .even = d at hpow hlt ⊢
  have hplaces : Decimal.scale + 40 ≤ (Nat.toDigits 10 d.digits).length - 1 + d.exponent := by omega
  have hcast : (10 : ℚ) ^ ((Nat.toDigits 10 d.digits).length - 1) ≤ d.digits := by
    exact_mod_cast hpow
  rw [Decimal.value, le_div_iff₀ (by positivity)]
  calc (10 : ℚ) ^ 40 * 10 ^ Decimal.scale = 10 ^ (Decimal.scale + 40) := by ring
    _ ≤ 10 ^ ((Nat.toDigits 10 d.digits).length - 1 + d.exponent) :=
      pow_le_pow_right₀ (by norm_num) hplaces
    _ = 10 ^ ((Nat.toDigits 10 d.digits).length - 1) * 10 ^ d.exponent := pow_add _ _ _
    _ ≤ d.digits * 10 ^ d.exponent := by gcongr

theorem Layout.moderate {digits : List Char} {point : ℤ} {l : Literal} (h : Layout digits point l)
    (hpoint : -400 ≤ point ∧ point ≤ 40) : l.Moderate ∧ l.isNegative = false := by
  cases h with
  | scientific =>
    refine ⟨.inl fun e he => ?_, rfl⟩
    cases he
    rw [exponentOf, natOf_toDigits, maxExponentDigits]
    omega
  | _ => exact ⟨by simp [Literal.Moderate], rfl⟩

/-- The text of a value is a number one rounding away from it. -/
theorem exists_literal_jsonText {r : ℚ} (h : Rounds r x) (hx : Ordinary x.value)
    (hlarge : x.value ≤ 10 ^ 30) :
    ∃ l : Literal, l.WellFormed ∧ l.Moderate ∧ l.isNegative = false ∧
      x.jsonText.toList = l.text ∧ Close 1 l.size x.value := by
  by_cases hunits : x.units = 0
  · refine ⟨⟨false, ['0'], ['0'], none⟩, ⟨by simp, .inl rfl, by simp, by simp⟩,
      by simp [Literal.Moderate], rfl, ?_, ?_⟩
    · rw [jsonText, if_pos hunits]
      rfl
    · have hvalue := value_eq_zero_iff.2 hunits
      have hsize : (⟨false, ['0'], ['0'], none⟩ : Literal).size = 0 := by
        simp [Literal.size, Literal.mantissa, natOf, Nat.ofDigitChars]
      rw [hsize, hvalue]
      exact (Close.refl le_rfl).mono (by decide)
  · have hpos := value_eq_zero_iff.not.2 hunits
    have hclose := h.close_shortest (hx.resolve_left hpos) .even
    have hdecimal : 0 < (x.shortest .even).value :=
      lt_of_le_of_ne hclose.nonneg fun hzero => hpos (hzero ▸ hclose).symm.eq_zero
    obtain ⟨hdigits, hne, hhead⟩ := significant_spec hdecimal
    have hbound : (x.shortest .even).value < 10 ^ 40 := by
      linarith [hclose.symm.half_le (by decide)]
    obtain ⟨l, hlayout, htext⟩ := jsonText_layout hunits hne
    obtain ⟨hmoderate, hsign⟩ := hlayout.moderate (point_bounds hdecimal hbound)
    refine ⟨l, hlayout.wellFormed hdigits hne hhead, hmoderate, hsign, htext, ?_⟩
    rw [hlayout.size hne, ← value_shortest]
    exact hclose

end Values

end ServiceProbe.Json
