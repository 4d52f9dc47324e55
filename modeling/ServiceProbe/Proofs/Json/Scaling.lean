import ServiceProbe.Proofs.Json.Literals
import ServiceProbe.Proofs.Number.Nearness

/-!
What becomes of a number that is read as a fraction. Its significand is rounded,
the power of ten is, and so is their product or quotient: three roundings, unless
the number is so small that it is divided in several steps, when only its being
small remains. A bound that is a value stays one through all of this, which
matters at the longest time that a settings file may give.
-/

namespace ServiceProbe.Json

open Number Binary64

seal Binary64.scale

namespace Stands

variable {n : ℕ} {e : ℤ} {v : ℚ}

/-- Leaving out digits is an error of less than one rounding. -/
theorem close (h : Stands n e v) : Close 1 (n * 10 ^ e) v := by
  cases h with
  | exact h =>
    rw [h]
    refine (Close.refl ?_).mono (Nat.zero_le 1)
    rw [← h]
    positivity
  | cut p j large read written order =>
    have hpos : (0 : ℚ) < 10 ^ j := by positivity
    have hp : (1 - roundoff) * ((p : ℚ) + 1) ≤ p := by
      have hcast : (10 : ℚ) ^ 18 ≤ p := by exact_mod_cast large
      norm_num [roundoff]
      linarith
    have hplace := mul_le_mul_of_nonneg_right hp hpos.le
    rw [mul_assoc] at hplace
    have hfactor := Close.factor_nonneg
    refine ⟨by positivity, ?_, ?_⟩ <;> rw [pow_one]
    · exact (mul_le_mul_of_nonneg_left written.2.le hfactor).trans (hplace.trans read.1)
    · exact (mul_le_mul_of_nonneg_left read.2.le hfactor).trans (hplace.trans written.1)

/-- A number of seconds that is at most a day is not read as more than one: a day
ends in zeros in every place that could have been left out. -/
theorem le_day (h : Stands n e v) (hv : v ≤ 86400) : (n : ℚ) * 10 ^ e ≤ 86400 := by
  cases h with
  | exact h => exact h.trans_le hv
  | cut p j large read written order =>
    refine order.elim (fun hle => hle.trans hv) fun hzero => ?_
    by_contra hlt
    have hten : (10 : ℚ) ≠ 0 := by norm_num
    have hcast : (10 : ℚ) ^ 18 ≤ p := by exact_mod_cast large
    have hbelow : (p : ℚ) * 10 ^ j ≤ 86400 := written.1.trans hv
    have habove : (86400 : ℚ) < (p + 1) * 10 ^ j := (not_le.1 hlt).trans read.2
    rcases lt_or_ge j 0 with hneg | hnonneg
    · obtain ⟨k, rfl⟩ : ∃ k : ℕ, j = -((k + 1 : ℕ) : ℤ) := ⟨(-j - 1).toNat, by omega⟩
      have hpow : (0 : ℚ) < 10 ^ (k + 1) := by positivity
      rw [zpow_neg, zpow_natCast, ← div_eq_mul_inv] at hbelow habove
      rw [div_le_iff₀ hpow] at hbelow
      rw [lt_div_iff₀ hpow] at habove
      have hle : p ≤ 86400 * 10 ^ (k + 1) := by exact_mod_cast hbelow
      have hlt' : 86400 * 10 ^ (k + 1) < p + 1 := by exact_mod_cast habove
      rw [pow_succ] at hle hlt'
      omega
    · have hone : (1 : ℚ) ≤ 10 ^ j := one_le_zpow₀ (by norm_num) hnonneg
      nlinarith

end Stands

/-! ### Powers of ten -/

theorem tenPow_isSome {k : ℕ} (hk : k ≤ maxTenPow) : (tenPow k).isSome = true := by
  rcases hk.eq_or_lt with rfl | hlt
  · decide +kernel
  · have hlast : (Nat.pow 10 (maxTenPow - 1) * scale).log2 < 2097 := by decide +kernel
    generalize hj : maxTenPow - 1 = j at hlast
    have hpow : Nat.pow 10 k ≤ Nat.pow 10 j := Nat.pow_le_pow_right (by decide) (by omega)
    have hsome : ∃ p, ofRatio (Nat.pow 10 k) 1 = some p := by
      refine exists_ofRatio_of_log2 ?_
      rw [Nat.div_one]
      rw [Nat.log2_eq_log_two] at hlast ⊢
      exact (Nat.log_mono_right (Nat.mul_le_mul_right scale hpow)).trans_lt hlast
    exact Option.isSome_iff_exists.2 hsome

theorem exists_tenPow {k : ℕ} (hk : k ≤ maxTenPow) :
    ∃ p, tenPow k = some p ∧ Close 1 p.value (10 ^ k) := by
  obtain ⟨p, hp⟩ := Option.isSome_iff_exists.1 (tenPow_isSome hk)
  refine ⟨p, hp, ?_⟩
  have hround := (rounds_of_ofNat hp).close_one (ordinary_natCast _) (Nat.cast_nonneg _)
  rw [Nat.pow_eq] at hround
  exact_mod_cast hround

/-- Small powers of ten are values. -/
theorem tenPow_eq {k : ℕ} {p : Binary64} (hk : k ≤ 22) (hp : tenPow k = some p) :
    p.value = 10 ^ k := by
  have hsize : 5 ^ k < 2 ^ 53 := (Nat.pow_le_pow_right (by decide) hk).trans_lt (by norm_num)
  have hten : (10 : ℚ) ^ k = ((5 ^ k * 2 ^ k : ℕ) : ℚ) := by
    rw [← mul_pow]
    norm_num
  rw [hten]
  have hround := rounds_of_ofNat hp
  rw [Nat.pow_eq] at hround
  refine Rounds.eq ?_ (isValue_whole k hsize)
  rw [← hten]
  exact_mod_cast hround

/-! ### Scaling -/

/-- What is read for a number: it is a few roundings away, or both are next to
nothing. -/
def Near (k : ℕ) (y w : ℚ) : Prop :=
  Close k y w ∨ (0 ≤ y ∧ y ≤ 2 ^ k / 10 ^ 100) ∧ 0 < w ∧ w ≤ 2 ^ k / 10 ^ 100

theorem Near.eq_zero {k : ℕ} {y : ℚ} (h : Near k y 0) : y = 0 :=
  h.elim Close.eq_zero fun h => absurd h.2.1 (lt_irrefl 0)

theorem Near.le {y w : ℚ} (h : Near 3 y w) : y ≤ 2 * w + 1 := by
  rcases h with h | ⟨⟨-, hy⟩, hw, -⟩
  · linarith [h.symm.half_le (by decide), h.nonneg_right]
  · have : (2 : ℚ) ^ 3 / 10 ^ 100 ≤ 1 := by norm_num
    linarith

theorem Near.trans_one {k : ℕ} {y w v : ℚ} (h : Near k y w) (hv : Close 1 w v) :
    Near (k + 1) y v := by
  have hpow : (2 : ℚ) ^ (k + 1) / 10 ^ 100 = 2 * (2 ^ k / 10 ^ 100) := by ring
  have hpos : (0 : ℚ) < 2 ^ k / 10 ^ 100 := by positivity
  rcases h with h | ⟨⟨hy0, hy⟩, hw0, hw⟩
  · exact .inl (h.trans hv)
  · have hhalf := hv.half_le (by decide)
    have hhalf' := hv.symm.half_le (by decide)
    exact .inr ⟨⟨hy0, by linarith⟩, by linarith, by linarith⟩

/-- Within a day, what is read is less than a sixteenth of a nanosecond off. -/
theorem Near.abs_sub_le {y v : ℚ} (h : Near 4 y v) (hv : v ≤ 86400) :
    |y * 10 ^ 9 - v * 10 ^ 9| ≤ 1 / 16 := by
  rw [← sub_mul, abs_mul, abs_of_pos (by norm_num : (0 : ℚ) < 10 ^ 9)]
  rcases h with h | ⟨⟨hy0, hy⟩, hw0, hw⟩
  · calc |y - v| * 10 ^ 9 ≤ ((4 : ℕ) + 1) * roundoff * v * 10 ^ 9 := by
          gcongr
          exact h.abs_sub_le (by decide)
      _ ≤ ((4 : ℕ) + 1) * roundoff * 86400 * 10 ^ 9 := by
          gcongr
          norm_num [roundoff]
      _ ≤ 1 / 16 := by norm_num [roundoff]
  · have habs : |y - v| ≤ 2 ^ 4 / 10 ^ 100 := by
      rw [abs_le]
      constructor <;> linarith
    calc |y - v| * 10 ^ 9 ≤ 2 ^ 4 / 10 ^ 100 * 10 ^ 9 := by gcongr
      _ ≤ 1 / 16 := by norm_num

theorem near_of_rounds {r w : ℚ} {y : Binary64} (h : Rounds r y) (hr : Close 2 r w) :
    Near 3 y.value w := by
  by_cases hw : Ordinary w
  · exact .inl (h.close_succ hr hw (by decide))
  · have hsmall : w ≤ 1 / 10 ^ 200 := by
      unfold Ordinary at hw
      rw [not_or] at hw
      exact (not_le.1 hw.2).le
    have hdouble := hr.symm.half_le (by decide)
    have hpos : 0 < w := lt_of_le_of_ne hr.nonneg_right fun hzero => hw (.inl hzero.symm)
    refine .inr ⟨⟨y.value_nonneg, ?_⟩, hpos, hsmall.trans (by norm_num)⟩
    calc y.value ≤ 2 * r := h.le_double
      _ ≤ 4 * w := by linarith
      _ ≤ 4 * (1 / 10 ^ 200) := by gcongr
      _ ≤ 2 ^ 3 / 10 ^ 100 := by norm_num

section Steps

variable {x y : Binary64}

/-- One division by the largest power. -/
theorem exists_divide (hx : x.value ≤ 10 ^ 100) :
    ∃ y, (tenPow maxTenPow).bind x.div = some y ∧ y.value ≤ x.value / 10 ^ 200 := by
  obtain ⟨p, hp, hclose⟩ := exists_tenPow (le_refl maxTenPow)
  have hlarge : (10 : ℚ) ^ 250 ≤ p.value := by
    have hpow : (10 : ℚ) ^ 251 ≤ 10 ^ maxTenPow :=
      pow_le_pow_right₀ (by norm_num) (by decide)
    have hhalf := hclose.half_le (by decide)
    calc (10 : ℚ) ^ 250 ≤ 10 ^ 251 / 2 := by norm_num
      _ ≤ 10 ^ maxTenPow / 2 := by gcongr
      _ ≤ p.value := hhalf
  have hpos : (0 : ℚ) < p.value := lt_of_lt_of_le (by norm_num) hlarge
  have hquotient : x.value / p.value ≤ x.value / 10 ^ 250 := by
    have := x.value_nonneg
    gcongr
  have hsmall : x.value / 10 ^ 250 ≤ x.value := div_le_self x.value_nonneg (by norm_num)
  obtain ⟨y, hy⟩ := exists_div hpos.ne' (hquotient.trans (hsmall.trans (hx.trans (by norm_num))))
  refine ⟨y, by rw [hp, Option.bind_some, hy], ?_⟩
  calc y.value ≤ 2 * (x.value / p.value) := (rounds_of_div hy).le_double
    _ ≤ 2 * (x.value / 10 ^ 250) := by gcongr
    _ = x.value / (10 ^ 250 / 2) := by ring
    _ ≤ x.value / 10 ^ 200 := by
      have := x.value_nonneg
      gcongr
      norm_num

theorem exists_divideRepeatedly (times : ℕ) (hx : x.value ≤ 10 ^ 100) :
    ∃ y, divideRepeatedly times x = some y ∧ y.value ≤ x.value ∧
      (times ≠ 0 → y.value ≤ x.value / 10 ^ 200) := by
  induction times generalizing x with
  | zero => exact ⟨x, rfl, le_rfl, fun h => absurd rfl h⟩
  | succ times ih =>
    rw [divideRepeatedly]
    split
    · next hzero =>
      have hvalue := value_eq_zero_iff.2 hzero
      exact ⟨x, rfl, le_rfl, fun _ => by simp [hvalue]⟩
    · obtain ⟨y, hy, hle⟩ := exists_divide hx
      have hself : x.value / 10 ^ 200 ≤ x.value := div_le_self x.value_nonneg (by norm_num)
      obtain ⟨z, hz, hzle, -⟩ := ih (hle.trans (hself.trans hx))
      refine ⟨z, by rw [hy, Option.bind_some, hz], (hzle.trans hle).trans hself, fun _ => ?_⟩
      exact hzle.trans hle

end Steps

/-! ### Significands -/

section Significand

variable {n : ℕ} {x y : Binary64}

theorem scaleTen_natCast (x : Binary64) (k : ℕ) :
    scaleTen x k =
      if k ≤ maxTenPow then (tenPow k).bind x.mul else if x.units = 0 then some x else none := by
  rw [scaleTen, if_pos (Int.natCast_nonneg k), Int.natAbs_natCast]

theorem scaleTen_neg (x : Binary64) {k : ℕ} (hk : 0 < k) :
    scaleTen x (-(k : ℤ)) =
      (divideRepeatedly ((k - 1) / maxTenPow) x).bind fun y =>
        (tenPow (k - (k - 1) / maxTenPow * maxTenPow)).bind y.div := by
  rw [scaleTen, if_neg (by omega), Int.natAbs_neg, Int.natAbs_natCast]

theorem ofNat_close (hx : ofNat n = some x) : Close 1 x.value n :=
  (rounds_of_ofNat hx).close_one (ordinary_natCast n) (Nat.cast_nonneg n)

theorem ofNat_le (hn : n ≤ maxSignificand) (hx : ofNat n = some x) : x.value ≤ 10 ^ 30 := by
  have hcast : (n : ℚ) ≤ 10 ^ 20 := by exact_mod_cast hn.trans (by decide)
  have hhalf := (ofNat_close hx).symm.half_le (by decide)
  linarith

theorem scaleTen_up (hn : n ≤ maxSignificand) (hx : ofNat n = some x) (k : ℕ) :
    (∃ y, scaleTen x k = some y ∧ Near 3 y.value (n * 10 ^ k)) ∨
      scaleTen x k = none ∧ (10 : ℚ) ^ 100 ≤ n * 10 ^ k := by
  have hclose := ofNat_close hx
  rw [scaleTen_natCast]
  by_cases hk : k ≤ maxTenPow
  · obtain ⟨p, hp, hpclose⟩ := exists_tenPow hk
    have hproduct := hclose.mul hpclose
    rw [if_pos hk, hp, Option.bind_some]
    cases hy : x.mul p with
    | some y => exact .inl ⟨y, rfl, near_of_rounds (rounds_of_mul hy) hproduct⟩
    | none =>
      refine .inr ⟨rfl, ?_⟩
      have hlarge : 10 ^ 200 < x.value * p.value := by
        by_contra hle
        obtain ⟨y, hy'⟩ := exists_mul (not_lt.1 hle)
        rw [hy] at hy'
        cases hy'
      have hhalf := hproduct.symm.half_le (by decide)
      calc (10 : ℚ) ^ 100 ≤ 10 ^ 200 / 2 := by norm_num
        _ ≤ x.value * p.value / 2 := by gcongr
        _ ≤ n * 10 ^ k := hhalf
  · rw [if_neg hk]
    split
    · next hzero =>
      have hvalue := value_eq_zero_iff.2 hzero
      have hn0 : (n : ℚ) = 0 := by
        rw [hvalue] at hclose
        exact hclose.symm.eq_zero
      refine .inl ⟨x, rfl, .inl ?_⟩
      rw [hvalue, hn0, zero_mul]
      exact (Close.refl le_rfl).mono (Nat.zero_le _)
    · next hne =>
      refine .inr ⟨rfl, ?_⟩
      have hn1 : (1 : ℚ) ≤ n := by
        have : n ≠ 0 := by
          rintro rfl
          have hzero : x.value = 0 := by
            rw [Nat.cast_zero] at hclose
            exact hclose.eq_zero
          exact hne (value_eq_zero_iff.1 hzero)
        exact_mod_cast Nat.pos_of_ne_zero this
      have hpow : (10 : ℚ) ^ 100 ≤ 10 ^ k :=
        pow_le_pow_right₀ (by norm_num) (le_trans (by decide) (not_le.1 hk).le)
      nlinarith

theorem div_tenPow_small (hn : n ≤ maxSignificand) {k : ℕ} (hk : 200 ≤ k) :
    (n : ℚ) / 10 ^ k ≤ 2 ^ 3 / 10 ^ 100 := by
  have hcast : (n : ℚ) ≤ 10 ^ 20 := by exact_mod_cast hn.trans (by decide)
  calc (n : ℚ) / 10 ^ k ≤ 10 ^ 20 / 10 ^ 200 := by
        gcongr
        norm_num
    _ ≤ 2 ^ 3 / 10 ^ 100 := by norm_num

theorem scaleTen_down (hn : n ≤ maxSignificand) (hx : ofNat n = some x) {k : ℕ} (hk : 0 < k) :
    ∃ y, scaleTen x (-(k : ℤ)) = some y ∧ Near 3 y.value (n / 10 ^ k) := by
  have hclose := ofNat_close hx
  have hxle := ofNat_le hn hx
  have hmax : maxTenPow = 308 := rfl
  rw [scaleTen_neg x hk]
  obtain ⟨z, hz, hzle, hzfar⟩ :=
    exists_divideRepeatedly ((k - 1) / maxTenPow) (hxle.trans (by norm_num))
  have hlast : k - (k - 1) / maxTenPow * maxTenPow ≤ maxTenPow := by
    rw [hmax]
    omega
  obtain ⟨p, hp, hpclose⟩ := exists_tenPow hlast
  have hone : (1 : ℚ) ≤ 10 ^ (k - (k - 1) / maxTenPow * maxTenPow) := one_le_pow₀ (by norm_num)
  have hphalf := hpclose.half_le (by decide)
  have hppos : 0 < p.value := by linarith
  have hquotient : z.value / p.value ≤ 2 * z.value := by
    rw [div_le_iff₀ hppos]
    nlinarith [z.value_nonneg]
  obtain ⟨y, hy⟩ := exists_div hppos.ne' (by linarith : z.value / p.value ≤ 10 ^ 200)
  refine ⟨y, by rw [hz, Option.bind_some, hp, Option.bind_some, hy], ?_⟩
  by_cases hsteps : (k - 1) / maxTenPow = 0
  · rw [hsteps] at hz hpclose
    obtain rfl : x = z := by simpa [divideRepeatedly] using hz
    refine near_of_rounds (rounds_of_div hy) ?_
    have h := hclose.div hpclose
    rwa [Nat.zero_mul, Nat.sub_zero] at h
  · have hzsmall := hzfar hsteps
    have hyle : y.value ≤ 4 * z.value := by linarith [(rounds_of_div hy).le_double]
    by_cases hzero : n = 0
    · -- zero stays zero
      subst hzero
      rw [Nat.cast_zero] at hclose
      have hy0 : y.value = 0 := le_antisymm (by linarith [hclose.eq_zero]) y.value_nonneg
      rw [hy0, Nat.cast_zero, zero_div]
      exact .inl ((Close.refl le_rfl).mono (Nat.zero_le _))
    have hpos : (0 : ℚ) < n := by exact_mod_cast Nat.pos_of_ne_zero hzero
    refine .inr ⟨⟨y.value_nonneg, ?_⟩, div_pos hpos (pow_pos (by norm_num) k), ?_⟩
    · have hfar : x.value / 10 ^ 200 ≤ 10 ^ 30 / 10 ^ 200 :=
        div_le_div_of_nonneg_right hxle (by norm_num)
      calc y.value ≤ 4 * z.value := hyle
        _ ≤ 4 * (10 ^ 30 / 10 ^ 200) :=
          mul_le_mul_of_nonneg_left (hzsmall.trans hfar) (by norm_num)
        _ ≤ 2 ^ 3 / 10 ^ 100 := by norm_num
    · refine div_tenPow_small hn ?_
      by_contra hlt
      exact hsteps (Nat.div_eq_of_lt (by omega))

/-- Significands whose numbers are few are scaled by powers that are values. -/
theorem mul_tenPow_le (hx : ofNat n = some x) {k : ℕ} (hw : (n : ℚ) * 10 ^ k ≤ 86400)
    (hy : scaleTen x k = some y) (hn : n ≠ 0) : y.value ≤ 86400 := by
  have hone : (1 : ℚ) ≤ n := by exact_mod_cast Nat.pos_of_ne_zero hn
  have hk : k ≤ 4 := by
    by_contra hlt
    have hpow : (10 : ℚ) ^ 5 ≤ 10 ^ k := pow_le_pow_right₀ (by norm_num) (by omega)
    nlinarith
  have hpow : (1 : ℚ) ≤ 10 ^ k := one_le_pow₀ (by norm_num)
  have hsmall : n < 2 ^ 53 := by
    have hle : (n : ℚ) ≤ 86400 := by nlinarith
    have : n ≤ 86400 := by exact_mod_cast hle
    omega
  have hexact : x.value = n := by
    have hvalue := isValue_whole 0 hsmall
    rw [pow_zero, mul_one] at hvalue
    exact (rounds_of_ofNat hx).eq hvalue
  rw [scaleTen_natCast, if_pos (hk.trans (by decide))] at hy
  obtain ⟨p, hp, hy⟩ := Option.bind_eq_some_iff.1 hy
  have hround := rounds_of_mul hy
  rw [hexact, tenPow_eq (hk.trans (by decide)) hp] at hround
  exact hround.le_of_le _ (by simpa using isValue_whole 0 (by norm_num : 86400 < 2 ^ 53)) hw

theorem div_tenPow_le (hx : ofNat n = some x) {k : ℕ} (hk : 0 < k) (hk' : k ≤ 18)
    (hw : (n : ℚ) / 10 ^ k ≤ 86400) (hy : scaleTen x (-(k : ℤ)) = some y) : y.value ≤ 86400 := by
  have hpos : (0 : ℚ) < 10 ^ k := by positivity
  -- a day in units of the last place is a value as well
  have hday : IsValue (86400 * 10 ^ k) := by
    have hsize : 675 * 5 ^ k < 2 ^ 53 :=
      (Nat.mul_le_mul_left _ (Nat.pow_le_pow_right (by decide) hk')).trans_lt (by norm_num)
    have hvalue := isValue_whole (k + 7) hsize
    have heq : ((675 * 5 ^ k * 2 ^ (k + 7) : ℕ) : ℚ) = 86400 * 10 ^ k := by
      have hten : (10 : ℚ) ^ k = 5 ^ k * 2 ^ k := by
        rw [← mul_pow]
        norm_num
      rw [hten]
      push_cast
      ring
    rwa [heq] at hvalue
  have hxle : x.value ≤ 86400 * 10 ^ k :=
    (rounds_of_ofNat hx).le_of_le _ hday ((div_le_iff₀ hpos).1 hw)
  have hsteps : (k - 1) / maxTenPow = 0 := Nat.div_eq_of_lt (by rw [maxTenPow]; omega)
  rw [scaleTen_neg x hk, hsteps, divideRepeatedly, Option.bind_some, Nat.zero_mul,
    Nat.sub_zero] at hy
  obtain ⟨p, hp, hy⟩ := Option.bind_eq_some_iff.1 hy
  have hround := rounds_of_div hy
  rw [tenPow_eq (hk'.trans (by decide)) hp] at hround
  exact hround.le_of_le _ (by simpa using isValue_whole 0 (by norm_num : 86400 < 2 ^ 53))
    ((div_le_iff₀ hpos).2 hxle)

end Significand

/-- The fraction that a significand and an exponent are read as. -/
theorem scaleTen_cases {n : ℕ} {x : Binary64} (hn : n ≤ maxSignificand) (hx : ofNat n = some x)
    (e : ℤ) :
    (∃ y, scaleTen x e = some y ∧ Near 3 y.value (n * 10 ^ e) ∧
        ((n : ℚ) * 10 ^ e ≤ 86400 → y.value ≤ 86400)) ∨
      scaleTen x e = none ∧ (10 : ℚ) ^ 100 ≤ n * 10 ^ e := by
  rcases le_or_gt 0 e with he | he
  · obtain ⟨k, rfl⟩ := Int.eq_ofNat_of_zero_le he
    rw [zpow_natCast]
    refine (scaleTen_up hn hx k).imp_left ?_
    rintro ⟨y, hy, hnear⟩
    refine ⟨y, hy, hnear, fun hw => ?_⟩
    by_cases hzero : n = 0
    · have := hnear.le
      rw [hzero, Nat.cast_zero, zero_mul] at this
      linarith
    · exact mul_tenPow_le hx hw hy hzero
  · obtain ⟨k, rfl⟩ : ∃ k : ℕ, e = -(k : ℤ) := ⟨e.natAbs, by omega⟩
    have hk : 0 < k := by omega
    rw [zpow_neg, zpow_natCast, ← div_eq_mul_inv]
    obtain ⟨y, hy, hnear⟩ := scaleTen_down hn hx hk
    refine .inl ⟨y, hy, hnear, fun hw => ?_⟩
    rcases le_or_gt k 18 with hk' | hk'
    · exact div_tenPow_le hx hk hk' hw hy
    · have hpow : (10 : ℚ) ^ 19 ≤ 10 ^ k := pow_le_pow_right₀ (by norm_num) hk'
      have hcast : (n : ℚ) ≤ 10 ^ 20 := by exact_mod_cast hn.trans (by decide)
      have hsmall : (n : ℚ) / 10 ^ k ≤ 10 := by
        rw [div_le_iff₀ (by positivity)]
        linarith
      linarith [hnear.le]

/-! ### Numbers -/

/-- The value that is read for a number, which is not above a day if the number is
not. -/
structure Reads (x : Binary64) (v : ℚ) : Prop where
  near : Near 4 x.value v
  le_day : v ≤ 86400 → x.value ≤ 86400

/-- The end of a fraction that has a value, or is too large for one. -/
def ending (isNegative : Bool) (rest : List Char) :
    Option Binary64 → Except Fault (Numeral × List Char)
  | some x => .ok (.fraction isNegative x, rest)
  | none => .error (.here .numberOutOfRange rest)

theorem finishFraction_eq (isNegative : Bool) (n : ℕ) (e : ℤ) (rest : List Char) :
    finishFraction isNegative n e rest =
      ending isNegative rest ((ofNat n).bind fun x => scaleTen x e) := by
  -- the function as a whole is unfolded: to compare two calls of it is to evaluate the rounding
  obtain ⟨f, hf⟩ : ∃ f, finishFraction = f := ⟨_, rfl⟩
  rw [hf]
  delta finishFraction at hf
  subst hf
  beta_reduce
  generalize ((ofNat n).bind fun x => scaleTen x e) = result
  cases result <;> rfl

theorem finishFraction_cases {n : ℕ} {e : ℤ} {v : ℚ} (hn : n ≤ maxSignificand)
    (h : Stands n e v) (isNegative : Bool) (rest : List Char) :
    (∃ x, finishFraction isNegative n e rest = .ok (.fraction isNegative x, rest) ∧ Reads x v) ∨
      (∃ fault, finishFraction isNegative n e rest = .error fault) ∧ 86400 < v := by
  obtain ⟨x, hx⟩ := exists_ofNat (hn.trans (by norm_num [maxSignificand]))
  rw [finishFraction_eq, hx, Option.bind_some]
  rcases scaleTen_cases hn hx e with ⟨y, hy, hnear, hday⟩ | ⟨hnone, hlarge⟩
  · rw [hy]
    exact .inl ⟨y, rfl, hnear.trans_one h.close, fun hv => hday (h.le_day hv)⟩
  · rw [hnone]
    refine .inr ⟨⟨_, rfl⟩, ?_⟩
    by_contra hle
    have := h.le_day (not_lt.1 hle)
    have : (86400 : ℚ) < 10 ^ 100 := by norm_num
    linarith

/-- What is next to nothing may be read as zero. -/
theorem reads_zero {v : ℚ} (h : 0 ≤ v) (hsmall : v ≤ 10 ^ (-100 : ℤ)) : Reads .zero v where
  near := by
    rw [value_zero]
    rcases h.eq_or_lt with rfl | hpos
    · exact .inl ((Close.refl le_rfl).mono (Nat.zero_le _))
    · refine .inr ⟨⟨le_rfl, by positivity⟩, hpos, hsmall.trans ?_⟩
      rw [zpow_neg, ← one_div]
      norm_num
  le_day _ := by
    rw [value_zero]
    norm_num

theorem reads_ofNat {n : ℕ} {x : Binary64} (hx : ofNat n = some x) : Reads x n where
  near := .inl ((ofNat_close hx).mono (by decide))
  le_day h := by
    have hday : IsValue 86400 := by simpa using isValue_whole 0 (by norm_num : 86400 < 2 ^ 53)
    exact (rounds_of_ofNat hx).le_of_le _ hday h

end ServiceProbe.Json
