import Mathlib
import ServiceProbe.Number.Binary64

/-!
How far results on binary fractions are off. One rounding moves a value by at
most one part in 2^53, as long as it is not so small that the units of the scale
show. `Close n` says that two numbers are apart by `n` such parts; it passes
through sums, products and quotients, so the error of a calculation is the number
of roundings in it. What rounding does to order is a statement of its own: a
result never crosses a number that is itself a value.
-/

namespace ServiceProbe.Number

/-- The part of a value that one rounding may add or take away. -/
def roundoff : ℚ := 1 / 2 ^ 53

/-- Two numbers that are apart by at most `n` roundings. -/
structure Close (n : ℕ) (a b : ℚ) : Prop where
  nonneg : 0 ≤ a
  below : (1 - roundoff) ^ n * b ≤ a
  above : (1 - roundoff) ^ n * a ≤ b

namespace Close

variable {m n : ℕ} {a b c d : ℚ}

theorem factor_nonneg : 0 ≤ 1 - roundoff := by norm_num [roundoff]

theorem factor_le_one : 1 - roundoff ≤ 1 := by norm_num [roundoff]

theorem factor_pow_nonneg (n : ℕ) : 0 ≤ (1 - roundoff) ^ n := pow_nonneg factor_nonneg n

theorem nonneg_right (h : Close n a b) : 0 ≤ b :=
  (mul_nonneg (factor_pow_nonneg n) h.nonneg).trans h.above

theorem refl (h : 0 ≤ a) : Close 0 a a := ⟨h, by simp, by simp⟩

theorem symm (h : Close n a b) : Close n b a := ⟨h.nonneg_right, h.above, h.below⟩

theorem trans (h : Close m a b) (h' : Close n b c) : Close (m + n) a c where
  nonneg := h.nonneg
  below := by
    rw [pow_add, mul_assoc]
    exact (mul_le_mul_of_nonneg_left h'.below (factor_pow_nonneg m)).trans h.below
  above := by
    rw [pow_add, mul_comm ((1 - roundoff) ^ m), mul_assoc]
    exact (mul_le_mul_of_nonneg_left h.above (factor_pow_nonneg n)).trans h'.above

theorem mono (h : Close m a b) (hmn : m ≤ n) : Close n a b := by
  have hpow : (1 - roundoff) ^ n ≤ (1 - roundoff) ^ m :=
    pow_le_pow_of_le_one factor_nonneg factor_le_one hmn
  exact ⟨h.nonneg, (mul_le_mul_of_nonneg_right hpow h.nonneg_right).trans h.below,
    (mul_le_mul_of_nonneg_right hpow h.nonneg).trans h.above⟩

theorem add (h : Close n a b) (h' : Close n c d) : Close n (a + c) (b + d) where
  nonneg := add_nonneg h.nonneg h'.nonneg
  below := by rw [mul_add]; exact add_le_add h.below h'.below
  above := by rw [mul_add]; exact add_le_add h.above h'.above

theorem mul (h : Close m a b) (h' : Close n c d) : Close (m + n) (a * c) (b * d) where
  nonneg := mul_nonneg h.nonneg h'.nonneg
  below := by
    rw [pow_add, mul_mul_mul_comm]
    exact mul_le_mul h.below h'.below (mul_nonneg (factor_pow_nonneg n) h'.nonneg_right) h.nonneg
  above := by
    rw [pow_add, mul_mul_mul_comm]
    exact mul_le_mul h.above h'.above (mul_nonneg (factor_pow_nonneg n) h'.nonneg) h.nonneg_right

theorem eq_zero (h : Close n a 0) : a = 0 := by
  have hpos : 0 < (1 - roundoff) ^ n := pow_pos (by norm_num [roundoff]) n
  have habove := h.above
  have hnonneg := h.nonneg
  by_contra hne
  have : 0 < (1 - roundoff) ^ n * a := mul_pos hpos (lt_of_le_of_ne hnonneg (Ne.symm hne))
  linarith

theorem inv (h : Close n a b) : Close n a⁻¹ b⁻¹ := by
  rcases h.nonneg.eq_or_lt with rfl | ha
  · have hb := h.symm.eq_zero
    subst hb
    simpa using h
  rcases h.nonneg_right.eq_or_lt with rfl | hb
  · exact absurd h.eq_zero ha.ne'
  refine ⟨inv_nonneg.2 h.nonneg, ?_, ?_⟩
  · rw [← div_eq_mul_inv, div_le_iff₀ hb, inv_mul_eq_div, le_div_iff₀ ha]
    exact h.above
  · rw [← div_eq_mul_inv, div_le_iff₀ ha, inv_mul_eq_div, le_div_iff₀ hb]
    exact h.below

theorem div (h : Close m a b) (h' : Close n c d) : Close (m + n) (a / c) (b / d) := by
  rw [div_eq_mul_inv, div_eq_mul_inv]
  exact h.mul h'.inv

theorem one_sub_le_pow (n : ℕ) : 1 - n * roundoff ≤ (1 - roundoff) ^ n := by
  have h := one_add_mul_le_pow (show (-2 : ℚ) ≤ -roundoff by norm_num [roundoff]) n
  calc 1 - n * roundoff = 1 + n * -roundoff := by ring
    _ ≤ (1 + -roundoff) ^ n := h
    _ = (1 - roundoff) ^ n := by rw [← sub_eq_add_neg]

theorem half_le_pow (hn : n ≤ 1000) : 1 / 2 ≤ (1 - roundoff) ^ n := by
  have hcast : (n : ℚ) ≤ 1000 := by exact_mod_cast hn
  have hmul : n * roundoff ≤ 1000 * roundoff :=
    mul_le_mul_of_nonneg_right hcast (by norm_num [roundoff])
  have hsmall : (1000 : ℚ) * roundoff ≤ 1 / 2 := by norm_num [roundoff]
  linarith [one_sub_le_pow n]

theorem half_le (h : Close n a b) (hn : n ≤ 1000) : b / 2 ≤ a := by
  have hpow := mul_le_mul_of_nonneg_right (half_le_pow hn) h.nonneg_right
  linarith [h.below]

/-- The greatest difference there is, for numbers of roundings that occur. -/
theorem abs_sub_le (h : Close n a b) (hn : n ≤ 1000) : |a - b| ≤ (n + 1) * roundoff * b := by
  have hpow := one_sub_le_pow n
  have hb := h.nonneg_right
  have hbelow : (1 - n * roundoff) * b ≤ a :=
    (mul_le_mul_of_nonneg_right hpow hb).trans h.below
  have habove : (1 - n * roundoff) * a ≤ b :=
    (mul_le_mul_of_nonneg_right hpow h.nonneg).trans h.above
  have hcast : (n : ℚ) ≤ 1000 := by exact_mod_cast hn
  have hn0 : (0 : ℚ) ≤ n := Nat.cast_nonneg n
  -- the square of the error is less than one more rounding
  have hunit : (1 : ℚ) ≤ (1 - n * roundoff) * (1 + (n + 1) * roundoff) := by
    norm_num [roundoff]
    nlinarith
  have hfactor : (0 : ℚ) < 1 - n * roundoff := by
    norm_num [roundoff]
    linarith
  have hle : a ≤ (1 + (n + 1) * roundoff) * b := by
    have h1 : (1 - n * roundoff) * a ≤ (1 - n * roundoff) * ((1 + (n + 1) * roundoff) * b) := by
      rw [← mul_assoc]
      exact habove.trans (le_mul_of_one_le_left hb hunit)
    exact le_of_mul_le_mul_left h1 hfactor
  have hroundoff : 0 ≤ roundoff * b := mul_nonneg (by norm_num [roundoff]) hb
  rw [abs_le]
  constructor <;> linarith

end Close

/-! ### Rounding to whole numbers -/

/-- Rounding does not go beyond a whole number above. -/
theorem roundHalfEven_le {num den n : Nat} (hden : 0 < den) (h : num ≤ n * den) :
    roundHalfEven num den ≤ n := by
  have hdiv := Nat.div_add_mod num den
  have hq : num / den ≤ n := Nat.div_le_of_le_mul (by rwa [Nat.mul_comm])
  unfold roundHalfEven
  rcases hq.eq_or_lt with heq | hlt
  · have hmod : num % den = 0 := by
      rw [heq, Nat.mul_comm] at hdiv
      omega
    simp [hmod, hden, heq]
  · simp only
    split_ifs <;> omega

/-- Nor beyond one below. -/
theorem le_roundHalfEven {num den n : Nat} (hden : 0 < den) (h : n * den ≤ num) :
    n ≤ roundHalfEven num den := by
  have hq : n ≤ num / den := (Nat.le_div_iff_mul_le hden).2 h
  unfold roundHalfEven
  simp only
  split_ifs <;> omega

theorem roundHalfEven_mul_le (num : Nat) {den : Nat} (hden : 0 < den) :
    roundHalfEven num den * den ≤ 2 * num := by
  by_cases hsmall : 2 * num < den
  · have hzero : roundHalfEven num den = 0 := by
      have hlt : num < den := by omega
      simp [roundHalfEven, Nat.div_eq_of_lt hlt, Nat.mod_eq_of_lt hlt, hsmall]
    simp [hzero]
  · have hnear := (roundHalfEven_near num hden).2
    rw [Nat.mul_assoc] at hnear
    omega

theorem abs_roundHalfEven_sub_le (num : Nat) {den : Nat} (hden : 0 < den) :
    |(roundHalfEven num den : ℚ) - num / den| ≤ 1 / 2 := by
  obtain ⟨hup, hdown⟩ := roundHalfEven_near num hden
  have hdenq : (0 : ℚ) < den := Nat.cast_pos.2 hden
  qify at hup hdown
  have hquotient : (roundHalfEven num den : ℚ) - num / den =
      (roundHalfEven num den * den - num) / den := by field_simp
  rw [hquotient, abs_div, abs_of_pos hdenq, div_le_iff₀ hdenq, abs_le]
  constructor <;> linarith

/-! ### Rounding to values -/

namespace Binary64

/-- The number that a value stands for. -/
def value (x : Binary64) : ℚ := x.units / scale

theorem scale_eq : scale = 2 ^ 1074 := by decide +kernel

theorem scale_pos : 0 < scale := by
  rw [scale_eq]
  positivity

seal scale

theorem cast_scale_pos : (0 : ℚ) < scale := Nat.cast_pos.2 scale_pos

theorem value_nonneg (x : Binary64) : 0 ≤ x.value :=
  div_nonneg (Nat.cast_nonneg _) cast_scale_pos.le

theorem value_le_iff {x y : Binary64} : x.value ≤ y.value ↔ x.units ≤ y.units := by
  rw [value, value, div_le_div_iff_of_pos_right cast_scale_pos, Nat.cast_le]

@[simp] theorem value_zero : zero.value = 0 := by
  have hunits : zero.units = 0 := by simp only [units, zero, Nat.zero_mul]
  rw [value, hunits, Nat.cast_zero, zero_div]

theorem value_eq_zero_iff {x : Binary64} : x.value = 0 ↔ x.units = 0 := by
  rw [value, div_eq_zero_iff, or_iff_left cast_scale_pos.ne', Nat.cast_eq_zero]

theorem value_le_natCast_iff {x : Binary64} {n : ℕ} : x.value ≤ n ↔ x.units ≤ n * scale := by
  rw [value, div_le_iff₀ cast_scale_pos]
  exact_mod_cast Iff.rfl

theorem natCast_le_value_iff {x : Binary64} {n : ℕ} : n ≤ x.value ↔ n * scale ≤ x.units := by
  rw [value, le_div_iff₀ cast_scale_pos]
  exact_mod_cast Iff.rfl

/-- The numbers that are values. -/
def IsValue (r : ℚ) : Prop := ∃ y : Binary64, y.significand < 2 ^ 53 ∧ y.value = r

/-- Whole numbers of at most 53 bits are values, and so are their products with
powers of two. -/
theorem isValue_whole {s : Nat} (j : Nat) (hs : s < 2 ^ 53) : IsValue ((s * 2 ^ j : Nat) : ℚ) := by
  refine ⟨⟨s, 1074 + j⟩, hs, ?_⟩
  rw [value, div_eq_iff cast_scale_pos.ne', ← Nat.cast_mul, Nat.cast_inj, units, Nat.pow_eq,
    pow_add, ← scale_eq, Nat.mul_comm scale, Nat.mul_assoc]

/-- Numbers from this one on have 53 significant bits at every exponent. -/
def leastNormal : ℚ := 2 ^ 52 / scale

theorem leastNormal_le : leastNormal ≤ 1 / 10 ^ 250 := by
  rw [leastNormal, div_le_div_iff₀ cast_scale_pos (by positivity)]
  have h : 2 ^ 52 * 10 ^ 250 ≤ 1 * scale := by decide +kernel
  exact_mod_cast h

/-- The numbers that rounding treats alike: zero, and what is far from the least
values. -/
def Ordinary (r : ℚ) : Prop := r = 0 ∨ 1 / 10 ^ 200 ≤ r

theorem ordinary_div (n : Nat) {k : Nat} (hk : 0 < k) (hk' : k ≤ 10 ^ 200) :
    Ordinary ((n : ℚ) / k) := by
  rcases Nat.eq_zero_or_pos n with rfl | hn
  · exact .inl (by simp)
  · have hn' : (1 : ℚ) ≤ n := by exact_mod_cast hn
    have hk'' : (k : ℚ) ≤ 10 ^ 200 := by exact_mod_cast hk'
    have hkpos : (0 : ℚ) < k := by exact_mod_cast hk
    right
    gcongr

theorem ordinary_natCast (n : Nat) : Ordinary n := by
  simpa using ordinary_div n one_pos (by norm_num)

/-- What rounding a number makes of it. -/
structure Rounds (r : ℚ) (x : Binary64) : Prop where
  fits : x.significand < 2 ^ 53
  /-- The significand uses its 53 bits unless the value is near zero. -/
  full : x.exponent = 0 ∨ 2 ^ 52 ≤ x.significand
  close : leastNormal ≤ r → Close 1 x.value r
  le_double : x.value ≤ 2 * r
  le_of_le : ∀ b, IsValue b → r ≤ b → x.value ≤ b
  le_of_ge : ∀ b, IsValue b → b ≤ r → b ≤ x.value

/-- The significand and the exponent before a carry, on which all of it rests. -/
theorem ofRatio_cases {num den : Nat} {x : Binary64} (hden : 0 < den)
    (h : ofRatio num den = some x) :
    ∃ e, x.units = roundHalfEven (num * scale) (den * 2 ^ e) * 2 ^ e ∧
      num * scale ≤ 2 ^ 53 * (den * 2 ^ e) ∧
      (e = 0 ∨ 2 ^ 52 * (den * 2 ^ e) ≤ num * scale) ∧
      x.significand < 2 ^ 53 ∧ (x.exponent = 0 ∨ 2 ^ 52 ≤ x.significand) := by
  simp only [ofRatio, Option.ite_none_left_eq_some, Option.some.injEq] at h
  obtain ⟨-, hx⟩ := h
  generalize num * scale = scaled at hx ⊢
  set e := (scaled / den).log2 - 52 with he
  rw [Nat.pow_eq] at hx
  have hpos : 0 < den * 2 ^ e := by positivity
  have hupper : scaled ≤ 2 ^ 53 * (den * 2 ^ e) := by
    have hlt : scaled / den < 2 ^ (53 + e) :=
      Nat.lt_log2_self.trans_le (Nat.pow_le_pow_right (by decide) (by omega))
    have hle := ((Nat.div_lt_iff_lt_mul hden).1 hlt).le
    rwa [pow_add, Nat.mul_assoc, Nat.mul_comm (2 ^ e)] at hle
  have hlower : e = 0 ∨ 2 ^ 52 * (den * 2 ^ e) ≤ scaled := by
    rcases Nat.eq_zero_or_pos e with h0 | h0
    · exact .inl h0
    · have hne : scaled / den ≠ 0 := fun hz => by simp [hz] at he; omega
      have hlog : 2 ^ (52 + e) ≤ scaled / den :=
        (Nat.pow_le_pow_right (by decide) (by omega)).trans (Nat.log2_self_le hne)
      have hle := (Nat.le_div_iff_mul_le hden).1 hlog
      rw [pow_add, Nat.mul_assoc, Nat.mul_comm (2 ^ e)] at hle
      exact .inr hle
  have hmax : roundHalfEven scaled (den * 2 ^ e) ≤ 2 ^ 53 := roundHalfEven_le hpos hupper
  have hmin : e = 0 ∨ 2 ^ 52 ≤ roundHalfEven scaled (den * 2 ^ e) :=
    hlower.imp_right (le_roundHalfEven hpos)
  have hlimit : significandLimit = 2 ^ 53 := by rw [significandLimit, Nat.pow_eq]
  rw [hlimit] at hx
  subst hx
  refine ⟨e, ?_, hupper, hlower, ?_⟩ <;>
    generalize roundHalfEven scaled (den * 2 ^ e) = m at hmax hmin ⊢
  · split
    · next hcarry =>
      rw [hcarry, units, Nat.pow_eq, Nat.pow_eq]
      ring
    · rfl
  · split
    · exact ⟨by simp, .inr (by simp)⟩
    · next hcarry => exact ⟨lt_of_le_of_ne hmax hcarry, hmin⟩

theorem units_le_of_ofRatio {num den : Nat} {x y : Binary64} (hden : 0 < den)
    (h : ofRatio num den = some x) (hy : y.significand < 2 ^ 53)
    (hle : num * scale ≤ y.units * den) :
    x.units ≤ y.units := by
  obtain ⟨e, hunits, -, hlower, -⟩ := ofRatio_cases hden h
  have hpos : 0 < den * 2 ^ e := by positivity
  rw [hunits]
  rw [units, Nat.pow_eq] at hle ⊢
  rcases Nat.lt_or_ge y.exponent e with hlt | hge
  · -- a value of a lower exponent cannot reach so far up
    have hbig : 2 ^ 52 * (den * 2 ^ e) ≤ num * scale := hlower.resolve_left (by omega)
    have hpow : 2 * 2 ^ y.exponent ≤ 2 ^ e := by
      rw [← pow_succ']
      exact Nat.pow_le_pow_right (by decide) hlt
    have hsmall : y.significand * 2 ^ y.exponent < 2 ^ 52 * 2 ^ e :=
      calc y.significand * 2 ^ y.exponent < 2 ^ 53 * 2 ^ y.exponent :=
            Nat.mul_lt_mul_of_pos_right hy (by positivity)
        _ = 2 ^ 52 * (2 * 2 ^ y.exponent) := by ring
        _ ≤ 2 ^ 52 * 2 ^ e := Nat.mul_le_mul_left _ hpow
    have hfinal : 2 ^ 52 * (den * 2 ^ e) < 2 ^ 52 * (den * 2 ^ e) :=
      calc 2 ^ 52 * (den * 2 ^ e) ≤ y.significand * 2 ^ y.exponent * den := hbig.trans hle
        _ < 2 ^ 52 * 2 ^ e * den := Nat.mul_lt_mul_of_pos_right hsmall hden
        _ = 2 ^ 52 * (den * 2 ^ e) := by ring
    exact absurd hfinal (lt_irrefl _)
  · have hsplit : 2 ^ y.exponent = 2 ^ (y.exponent - e) * 2 ^ e := by
      rw [← pow_add, Nat.sub_add_cancel hge]
    rw [hsplit, ← Nat.mul_assoc] at hle ⊢
    refine Nat.mul_le_mul_right _ (roundHalfEven_le hpos (hle.trans_eq ?_))
    ring

theorem le_units_of_ofRatio {num den : Nat} {x y : Binary64} (hden : 0 < den)
    (h : ofRatio num den = some x) (hy : y.significand < 2 ^ 53)
    (hge : y.units * den ≤ num * scale) :
    y.units ≤ x.units := by
  obtain ⟨e, hunits, -, hlower, -⟩ := ofRatio_cases hden h
  have hpos : 0 < den * 2 ^ e := by positivity
  rw [hunits]
  rw [units, Nat.pow_eq] at hge ⊢
  rcases Nat.lt_or_ge y.exponent e with hlt | hge'
  · have hbig : 2 ^ 52 ≤ roundHalfEven (num * scale) (den * 2 ^ e) :=
      le_roundHalfEven hpos (hlower.resolve_left (by omega))
    have hpow : 2 * 2 ^ y.exponent ≤ 2 ^ e := by
      rw [← pow_succ']
      exact Nat.pow_le_pow_right (by decide) hlt
    calc y.significand * 2 ^ y.exponent ≤ 2 ^ 53 * 2 ^ y.exponent :=
          Nat.mul_le_mul_right _ hy.le
      _ = 2 ^ 52 * (2 * 2 ^ y.exponent) := by ring
      _ ≤ roundHalfEven (num * scale) (den * 2 ^ e) * 2 ^ e := Nat.mul_le_mul hbig hpow
  · have hsplit : 2 ^ y.exponent = 2 ^ (y.exponent - e) * 2 ^ e := by
      rw [← pow_add, Nat.sub_add_cancel hge']
    rw [hsplit, ← Nat.mul_assoc] at hge ⊢
    refine Nat.mul_le_mul_right _ (le_roundHalfEven hpos (Eq.trans_le ?_ hge))
    ring

/-- In units, a number is off by half of the last place, which is small beside
what has 53 bits in units of that place. -/
theorem close_units {num den : Nat} {x : Binary64} (hden : 0 < den)
    (h : ofRatio num den = some x) (hbig : 2 ^ 52 * den ≤ num * scale) :
    Close 1 (x.units * den) (num * scale) := by
  obtain ⟨e, hunits, -, hlower, -⟩ := ofRatio_cases hden h
  have hpos : 0 < den * 2 ^ e := by positivity
  have hplace : 2 ^ 52 * (den * 2 ^ e) ≤ num * scale := by
    rcases hlower with rfl | hlower
    · simpa using hbig
    · exact hlower
  obtain ⟨hup, hdown⟩ := roundHalfEven_near (num * scale) hpos
  have hproduct : x.units * den = roundHalfEven (num * scale) (den * 2 ^ e) * (den * 2 ^ e) := by
    rw [hunits]
    ring
  have hup' : 2 * (num * scale) ≤ 2 * (x.units * den) + den * 2 ^ e := by
    rw [hproduct]
    linarith
  have hdown' : 2 * (x.units * den) ≤ 2 * (num * scale) + den * 2 ^ e := by
    rw [hproduct]
    linarith
  rw [← Nat.cast_mul, ← Nat.cast_mul]
  generalize num * scale = a at *
  generalize x.units * den = b at *
  generalize den * 2 ^ e = c at *
  qify at hplace hup' hdown'
  refine ⟨Nat.cast_nonneg _, ?_, ?_⟩ <;> · norm_num [roundoff]; linarith

theorem rounds_of_ofRatio {num den : Nat} {x : Binary64} (hden : 0 < den)
    (h : ofRatio num den = some x) : Rounds (num / den) x := by
  have hdenq : (0 : ℚ) < den := Nat.cast_pos.2 hden
  have hscale := cast_scale_pos
  have hcross (y : Binary64) :
      ((num : ℚ) / den ≤ y.value ↔ num * scale ≤ y.units * den) ∧
        (y.value ≤ (num : ℚ) / den ↔ y.units * den ≤ num * scale) := by
    rw [value, div_le_div_iff₀ hdenq hscale, div_le_div_iff₀ hscale hdenq]
    exact ⟨by exact_mod_cast Iff.rfl, by exact_mod_cast Iff.rfl⟩
  obtain ⟨e, hunits, -, -, hfits, hfull⟩ := ofRatio_cases hden h
  refine ⟨hfits, hfull, fun hr => ?_, ?_, ?_, ?_⟩
  · rw [leastNormal, div_le_div_iff₀ hscale hdenq] at hr
    have hclose := close_units hden h (by exact_mod_cast hr)
    have hinv : Close 0 ((den : ℚ) * scale)⁻¹ ((den : ℚ) * scale)⁻¹ := .refl (by positivity)
    have hleft : x.value = x.units * den * ((den : ℚ) * scale)⁻¹ := by
      rw [value]
      field_simp
    have hright : (num : ℚ) / den = num * scale * ((den : ℚ) * scale)⁻¹ := by field_simp
    rw [hleft, hright]
    exact hclose.mul hinv
  · have hpos : 0 < den * 2 ^ e := by positivity
    have hdouble : x.units * den ≤ 2 * num * scale := by
      have hle := roundHalfEven_mul_le (num * scale) hpos
      rw [hunits]
      calc _ = roundHalfEven (num * scale) (den * 2 ^ e) * (den * 2 ^ e) := by ring
        _ ≤ 2 * (num * scale) := hle
        _ = 2 * num * scale := by ring
    rw [value, ← mul_div_assoc, div_le_div_iff₀ hscale hdenq]
    exact_mod_cast hdouble
  · rintro _ ⟨y, hy, rfl⟩ hle
    exact value_le_iff.2 (units_le_of_ofRatio hden h hy ((hcross y).1.1 hle))
  · rintro _ ⟨y, hy, rfl⟩ hge
    exact value_le_iff.2 (le_units_of_ofRatio hden h hy ((hcross y).2.1 hge))

/-- Nothing that is below the greatest power of two among the values fails to be
rounded to one. -/
theorem exists_ofRatio_of_log2 {num den : Nat} (h : (num * scale / den).log2 < 2097) :
    ∃ x, ofRatio num den = some x := by
  unfold ofRatio
  simp only [Option.ite_none_left_eq_some]
  refine ⟨_, ?_, rfl⟩
  rw [maxExponent]
  split <;> simp only <;> omega

theorem exists_ofRatio {num den : Nat} (hden : 0 < den) (h : (num : ℚ) / den ≤ 10 ^ 200) :
    ∃ x, ofRatio num den = some x := by
  have hnum : num ≤ 10 ^ 200 * den := by
    rw [div_le_iff₀ (Nat.cast_pos.2 hden)] at h
    exact_mod_cast h
  have hle : num * scale / den ≤ 10 ^ 200 * scale := by
    refine Nat.div_le_of_le_mul ((Nat.mul_le_mul_right scale hnum).trans_eq ?_)
    ring
  have hscale : (10 ^ 200 * scale).log2 < 2097 := by decide +kernel
  refine exists_ofRatio_of_log2 ?_
  rw [Nat.log2_eq_log_two] at hscale ⊢
  exact (Nat.log_mono_right hle).trans_lt hscale

section Results

variable {r : ℚ} {x y z : Binary64}

/-- A number that results from an ordinary one by few roundings is still large
enough to be rounded by at most one part in 2^53. -/
theorem Rounds.close_succ {n : ℕ} {b : ℚ} (h : Rounds r x) (hr : Close n r b) (hb : Ordinary b)
    (hn : n ≤ 1000) : Close (n + 1) x.value b := by
  rw [Nat.add_comm]
  refine Close.trans ?_ hr
  rcases hb with rfl | hb
  · have hzero := hr.eq_zero
    subst hzero
    have hx : x.value = 0 := le_antisymm (by simpa using h.le_double) x.value_nonneg
    rw [hx]
    exact (Close.refl le_rfl).mono (by decide)
  · refine h.close (leastNormal_le.trans ?_)
    have hhalf := hr.half_le hn
    calc (1 : ℚ) / 10 ^ 250 ≤ 1 / 10 ^ 200 / 2 := by norm_num
      _ ≤ b / 2 := by gcongr
      _ ≤ r := hhalf

theorem Rounds.close_one (h : Rounds r x) (hr : Ordinary r) (hnonneg : 0 ≤ r) :
    Close 1 x.value r :=
  h.close_succ (.refl hnonneg) hr (by decide)

/-- Values stay as they are. -/
theorem Rounds.eq (h : Rounds r x) (hr : IsValue r) : x.value = r :=
  le_antisymm (h.le_of_le r hr le_rfl) (h.le_of_ge r hr le_rfl)

/-- A value is what it is rounded to itself. -/
theorem Rounds.self (h : Rounds r x) : Rounds x.value x where
  fits := h.fits
  full := h.full
  close _ := (Close.refl x.value_nonneg).mono (by decide)
  le_double := by linarith [x.value_nonneg]
  le_of_le _ _ hle := hle
  le_of_ge _ _ hge := hge

theorem rounds_of_ofNat {n : Nat} (h : ofNat n = some x) : Rounds n x := by
  have hround := rounds_of_ofRatio (by decide) h
  rwa [Nat.cast_one, div_one] at hround

theorem rounds_of_add (h : x.add y = some z) : Rounds (x.value + y.value) z := by
  have hround := rounds_of_ofRatio scale_pos h
  rwa [Nat.cast_add, add_div] at hround

theorem rounds_of_mul (h : x.mul y = some z) : Rounds (x.value * y.value) z := by
  have hround := rounds_of_ofRatio (Nat.mul_pos scale_pos scale_pos) h
  rwa [Nat.cast_mul, Nat.cast_mul, mul_div_mul_comm] at hround

theorem rounds_of_div (h : x.div y = some z) : Rounds (x.value / y.value) z := by
  unfold div at h
  split at h
  · simp at h
  · next hne =>
    have hround := rounds_of_ofRatio (Nat.pos_of_ne_zero hne) h
    rwa [← div_div_div_cancel_right₀ cast_scale_pos.ne'] at hround

theorem exists_ofNat {n : Nat} (h : n ≤ 10 ^ 200) : ∃ x, ofNat n = some x :=
  exists_ofRatio (by decide) (by rw [Nat.cast_one, div_one]; exact_mod_cast h)

theorem exists_add (h : x.value + y.value ≤ 10 ^ 200) : ∃ z, x.add y = some z :=
  exists_ofRatio scale_pos (by rwa [Nat.cast_add, add_div])

theorem exists_mul (h : x.value * y.value ≤ 10 ^ 200) : ∃ z, x.mul y = some z :=
  exists_ofRatio (Nat.mul_pos scale_pos scale_pos)
    (by rwa [Nat.cast_mul, Nat.cast_mul, mul_div_mul_comm])

theorem exists_div (hy : y.value ≠ 0) (h : x.value / y.value ≤ 10 ^ 200) :
    ∃ z, x.div y = some z := by
  have hunits := value_eq_zero_iff.not.1 hy
  rw [div, if_neg hunits]
  refine exists_ofRatio (Nat.pos_of_ne_zero hunits) ?_
  rwa [← div_div_div_cancel_right₀ cast_scale_pos.ne']

end Results

end Binary64

end ServiceProbe.Number
