import ServiceProbe.Number.Shortest
import ServiceProbe.Proofs.Number.Nearness

/-!
The shortest decimal is one rounding away from the value that it stands for.
Whatever the search finds rounds to the value, so it lies in the value's interval;
that it finds something with 17 digits at most is a matter of widths: two
neighbouring decimals of 17 digits are nearer to each other than the ends of the
interval are.
-/

namespace ServiceProbe.Number

open Binary64

seal Binary64.scale Decimal.scale

/-- The number that a decimal stands for. -/
def Decimal.value (d : Decimal) : ℚ := d.digits * 10 ^ d.exponent / 10 ^ Decimal.scale

namespace Binary64

variable {x : Binary64} {d : Decimal} {tie : Tie} {length count : Nat}

theorem le_of_admits (h : x.admits d = true) :
    quarters x.interval.1 ≤ d.quarters ∧ d.quarters ≤ quarters x.interval.2.1 := by
  unfold admits at h
  simp only at h
  split at h <;> simp only [Bool.and_eq_true, decide_eq_true_eq] at h
  · exact h
  · exact ⟨h.1.le, h.2.le⟩

theorem admits_of_lt (hlow : quarters x.interval.1 < d.quarters)
    (hhigh : d.quarters < quarters x.interval.2.1) : x.admits d = true := by
  unfold admits
  simp only
  split <;> simp only [Bool.and_eq_true, decide_eq_true_eq]
  · exact ⟨hlow.le, hhigh.le⟩
  · exact ⟨hlow, hhigh⟩

/-- A last place is two quarters of it above the value to the upper end, and as
much to the lower one, unless the significand is the least of its exponent. -/
theorem interval_bounds (hx : 2 ^ 52 ≤ x.significand) :
    x.interval.2.1 = 4 * x.units + 2 * 2 ^ x.exponent ∧
      (x.interval.1 + 2 * 2 ^ x.exponent = 4 * x.units ∨
        x.significand = 2 ^ 52 ∧ x.interval.1 + 2 ^ x.exponent = 4 * x.units) := by
  have hunits : 2 ^ x.exponent ≤ x.units := by
    rw [units, Nat.pow_eq]
    exact Nat.le_mul_of_pos_left _ (by omega)
  unfold interval
  simp only [Nat.pow_eq]
  refine ⟨trivial, ?_⟩
  split
  · next h => exact .inr ⟨h.1, by omega⟩
  · exact .inl (by omega)

theorem decimal_quarters (d : Decimal) :
    (d.quarters : ℚ) = d.value * 10 ^ Decimal.scale * (4 * scale) := by
  rw [Decimal.quarters, Decimal.value, Nat.pow_eq]
  push_cast
  field_simp

theorem close_of_admits (hx : 2 ^ 52 ≤ x.significand) (h : x.admits d = true) :
    Close 1 d.value x.value := by
  obtain ⟨hlow, hhigh⟩ := le_of_admits h
  obtain ⟨hupper, hlower⟩ := interval_bounds hx
  have hgap : 2 ^ 52 * 2 ^ x.exponent ≤ x.units := by
    rw [units, Nat.pow_eq]
    exact Nat.mul_le_mul_right _ hx
  have hlower' : 4 * x.units ≤ x.interval.1 + 2 * 2 ^ x.exponent := by omega
  rw [hupper] at hhigh
  rw [quarters, Nat.pow_eq] at hlow hhigh
  have hscale := cast_scale_pos
  have hplaces : (0 : ℚ) < 10 ^ Decimal.scale := by positivity
  have hunits : (x.units : ℚ) = x.value * scale := by
    rw [value]
    field_simp
  have hlowq : (x.interval.1 : ℚ) * 10 ^ Decimal.scale ≤ d.quarters := by exact_mod_cast hlow
  have hhighq : (d.quarters : ℚ) ≤ (4 * x.units + 2 * 2 ^ x.exponent) * 10 ^ Decimal.scale := by
    exact_mod_cast hhigh
  qify at hgap hlower'
  rw [decimal_quarters, mul_right_comm] at hlowq hhighq
  rw [mul_le_mul_iff_left₀ hplaces] at hlowq hhighq
  rw [hunits] at hgap hlower' hhighq
  generalize (x.interval.1 : ℚ) = low at *
  generalize (2 : ℚ) ^ x.exponent = gap at *
  generalize (scale : ℚ) = s at *
  have hup : (1 - roundoff) * x.value * s ≤ d.value * s := by
    norm_num [roundoff]
    linarith
  have hdown : (1 - roundoff) * d.value * s ≤ x.value * s := by
    norm_num [roundoff]
    linarith
  refine ⟨?_, ?_, ?_⟩
  · rw [Decimal.value]
    positivity
  · rw [pow_one]
    exact le_of_mul_le_mul_right hup hscale
  · rw [pow_one]
    exact le_of_mul_le_mul_right hdown hscale

/-! ### The search -/

theorem admits_of_withDigits? (h : x.withDigits? tie length count = some d) :
    x.admits d = true := by
  unfold withDigits? at h
  simp only at h
  split at h
  · split at h <;> cases h <;> assumption
  · cases h
    assumption
  · cases h
    assumption
  · simp at h

theorem not_admits_of_withDigits? (h : x.withDigits? tie length count = none) :
    x.admits ⟨x.decimalFloor / 10 ^ (length - count), length - count⟩ = false ∧
      x.admits ⟨x.decimalFloor / 10 ^ (length - count) + 1, length - count⟩ = false := by
  unfold withDigits? at h
  simp only [Nat.pow_eq] at h
  split at h
  · split at h <;> simp at h
  · simp at h
  · simp at h
  · exact ⟨‹_›, ‹_›⟩

/-- The value lies between two neighbouring decimals of any number of places. -/
theorem decimalFloor_between (x : Binary64) (e : Nat) :
    Decimal.quarters ⟨x.decimalFloor / 10 ^ e, e⟩ ≤ quarters (4 * x.units) ∧
      quarters (4 * x.units) < Decimal.quarters ⟨x.decimalFloor / 10 ^ e + 1, e⟩ := by
  have hplace : 0 < 10 ^ e := by positivity
  have hfloor : x.decimalFloor * scale ≤ x.units * 10 ^ Decimal.scale :=
    Nat.div_mul_le_self _ _
  have hceil : x.units * 10 ^ Decimal.scale < (x.decimalFloor + 1) * scale := by
    rw [Nat.mul_comm _ scale]
    exact Nat.lt_mul_div_succ _ scale_pos
  have hdown : x.decimalFloor / 10 ^ e * 10 ^ e ≤ x.decimalFloor := Nat.div_mul_le_self _ _
  have hup : x.decimalFloor + 1 ≤ (x.decimalFloor / 10 ^ e + 1) * 10 ^ e := by
    rw [Nat.mul_comm]
    exact Nat.lt_mul_div_succ _ hplace
  simp only [Decimal.quarters, quarters, Nat.pow_eq]
  constructor
  · calc x.decimalFloor / 10 ^ e * 10 ^ e * (4 * scale) ≤ x.decimalFloor * (4 * scale) :=
          Nat.mul_le_mul_right _ hdown
      _ = 4 * (x.decimalFloor * scale) := by ring
      _ ≤ 4 * (x.units * 10 ^ Decimal.scale) := Nat.mul_le_mul_left _ hfloor
      _ = 4 * x.units * 10 ^ Decimal.scale := by ring
  · calc 4 * x.units * 10 ^ Decimal.scale = 4 * (x.units * 10 ^ Decimal.scale) := by ring
      _ < 4 * ((x.decimalFloor + 1) * scale) := Nat.mul_lt_mul_of_pos_left hceil (by decide)
      _ = (x.decimalFloor + 1) * (4 * scale) := by ring
      _ ≤ (x.decimalFloor / 10 ^ e + 1) * 10 ^ e * (4 * scale) := Nat.mul_le_mul_right _ hup

/-- Two neighbouring decimals are nearer to each other than the ends of the
interval, if the value has 16 places and more before their last one. -/
theorem admits_neighbour {e : Nat} (hx : 2 ^ 52 ≤ x.significand) (hx' : x.significand < 2 ^ 53)
    (he : 10 ^ (e + 16) ≤ x.decimalFloor) :
    x.admits ⟨x.decimalFloor / 10 ^ e, e⟩ = true ∨
      x.admits ⟨x.decimalFloor / 10 ^ e + 1, e⟩ = true := by
  by_contra hnone
  rw [not_or] at hnone
  obtain ⟨hlow, hhigh⟩ := decimalFloor_between x e
  obtain ⟨hupper, hlower⟩ := interval_bounds hx
  have hgap : 0 < 2 ^ x.exponent := by positivity
  have hplaces : 0 < 10 ^ Decimal.scale := by positivity
  have hinside : quarters x.interval.1 < quarters (4 * x.units) ∧
      quarters (4 * x.units) < quarters x.interval.2.1 := by
    simp only [quarters, Nat.pow_eq]
    constructor <;> refine Nat.mul_lt_mul_of_pos_right ?_ hplaces <;> omega
  have hlow' : Decimal.quarters ⟨x.decimalFloor / 10 ^ e, e⟩ ≤ quarters x.interval.1 := by
    by_contra hlt
    exact hnone.1 (admits_of_lt (not_le.1 hlt) (hlow.trans_lt hinside.2))
  have hhigh' : quarters x.interval.2.1 ≤ Decimal.quarters ⟨x.decimalFloor / 10 ^ e + 1, e⟩ := by
    by_contra hlt
    exact hnone.2 (admits_of_lt (hinside.1.trans hhigh) (not_le.1 hlt))
  have hstep : 10 ^ 16 * (10 ^ e * scale) ≤ x.units * 10 ^ Decimal.scale := by
    calc 10 ^ 16 * (10 ^ e * scale) = 10 ^ (e + 16) * scale := by ring
      _ ≤ x.decimalFloor * scale := Nat.mul_le_mul_right _ he
      _ ≤ x.units * 10 ^ Decimal.scale := Nat.div_mul_le_self _ _
  have hwidth : 10 ^ 16 * x.interval.2.1 ≤ 10 ^ 16 * x.interval.1 + 4 * x.units := by
    simp only [Decimal.quarters, quarters, Nat.pow_eq, add_mul, one_mul] at hlow' hhigh'
    refine Nat.le_of_mul_le_mul_right ?_ hplaces
    linarith
  have hunits : x.units = x.significand * 2 ^ x.exponent := by rw [units, Nat.pow_eq]
  rcases hlower with hlower | ⟨hleast, hlower⟩
  · have hsmall : 10 ^ 16 * 2 ^ x.exponent ≤ x.significand * 2 ^ x.exponent := by omega
    have := Nat.le_of_mul_le_mul_right hsmall hgap
    omega
  · rw [hleast] at hunits
    omega

/-- The number of digits that a search with 17 of them leaves out. -/
theorem pow_le_of_length_toDigits {n : Nat} (hn : 10 ^ 16 ≤ n) :
    17 ≤ (Nat.toDigits 10 n).length ∧ 10 ^ ((Nat.toDigits 10 n).length - 17 + 16) ≤ n := by
  have hlength : 17 ≤ (Nat.toDigits 10 n).length := by
    have h := Nat.length_toDigits_le_iff (n := n) (by decide : 1 < 10) (by decide : 0 < 16)
    omega
  refine ⟨hlength, ?_⟩
  have h := Nat.length_toDigits_le_iff (n := n) (by decide : 1 < 10)
    (show 0 < (Nat.toDigits 10 n).length - 1 by omega)
  rw [show (Nat.toDigits 10 n).length - 17 + 16 = (Nat.toDigits 10 n).length - 1 by omega]
  exact not_lt.1 fun hlt => by have := h.2 hlt; omega

theorem exists_withDigits? (hx : 2 ^ 52 ≤ x.significand) (hx' : x.significand < 2 ^ 53)
    (hlarge : 10 ^ 16 ≤ x.decimalFloor) (tie : Tie) :
    ∃ d, x.withDigits? tie (Nat.toDigits 10 x.decimalFloor).length 17 = some d := by
  obtain ⟨-, hplaces⟩ := pow_le_of_length_toDigits hlarge
  rw [← Option.isSome_iff_exists, Option.isSome_iff_ne_none]
  intro hnone
  obtain ⟨hlow, hhigh⟩ := not_admits_of_withDigits? hnone
  simpa [hlow, hhigh] using admits_neighbour hx hx' hplaces

theorem admits_shortest (hx : 2 ^ 52 ≤ x.significand) (hx' : x.significand < 2 ^ 53)
    (hlarge : 10 ^ 16 ≤ x.decimalFloor) (tie : Tie) : x.admits (x.shortest tie) = true := by
  obtain ⟨d, hd⟩ := exists_withDigits? hx hx' hlarge tie
  have hsome : ((List.range 17).findSome? fun n =>
      x.withDigits? tie (Nat.toDigits 10 x.decimalFloor).length (n + 1)).isSome = true := by
    rw [List.findSome?_isSome_iff]
    exact ⟨16, by simp, by rw [hd]; rfl⟩
  obtain ⟨found, hfound⟩ := Option.isSome_iff_exists.1 hsome
  obtain ⟨n, -, hn⟩ := List.exists_of_findSome?_eq_some hfound
  have hshortest : x.shortest tie = found := by
    unfold shortest
    simp only [hfound, Option.getD_some]
  rw [hshortest]
  exact admits_of_withDigits? hn

theorem le_decimalFloor (h : 1 / 10 ^ 200 ≤ x.value) : 10 ^ 16 ≤ x.decimalFloor := by
  have hscale : scale ≤ x.units * 10 ^ 200 := by
    rw [value, div_le_div_iff₀ (by positivity) cast_scale_pos, one_mul] at h
    exact_mod_cast h
  have hplaces : 10 ^ 216 ≤ 10 ^ Decimal.scale :=
    Nat.pow_le_pow_right (by decide) (by decide +kernel)
  rw [decimalFloor, Nat.pow_eq, Nat.le_div_iff_mul_le scale_pos]
  calc 10 ^ 16 * scale ≤ 10 ^ 16 * (x.units * 10 ^ 200) := Nat.mul_le_mul_left _ hscale
    _ = x.units * 10 ^ 216 := by ring
    _ ≤ x.units * 10 ^ Decimal.scale := Nat.mul_le_mul_left _ hplaces

/-- The shortest decimal of a value is one rounding away from it. -/
theorem Rounds.close_shortest {r : ℚ} (h : Rounds r x) (hx : 1 / 10 ^ 200 ≤ x.value) (tie : Tie) :
    Close 1 (x.shortest tie).value x.value := by
  have hfull : 2 ^ 52 ≤ x.significand := by
    rcases h.full with hzero | hfull
    · have hnormal : leastNormal ≤ x.value :=
        leastNormal_le.trans (le_trans (by norm_num) hx)
      rw [leastNormal, value, div_le_div_iff_of_pos_right cast_scale_pos, units, hzero,
        Nat.pow_eq, pow_zero, mul_one] at hnormal
      exact_mod_cast hnormal
    · exact hfull
  exact close_of_admits hfull (admits_shortest hfull h.fits (le_decimalFloor hx) tie)

end Binary64

end ServiceProbe.Number
