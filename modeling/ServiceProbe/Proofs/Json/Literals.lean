import Mathlib
import ServiceProbe.Json.Numeral
import ServiceProbe.Proofs.Text.Blank
import ServiceProbe.Proofs.Text.Numeral

/-!
Numbers as JSON texts write them. A `Literal` has the digits and the exponent of
a number, so that what it stands for does not depend on how it is read. Only as
many digits are taken as fit into 64 bits: the significand and the exponent that
result may stand for a number that is a little less, or, where digits were left
out on both sides of the point, differs in the last place that was kept. `Stands`
says how far this goes.
-/

namespace ServiceProbe.Json

open Text Number

/-! ### The grammar -/

inductive Sign where
  | none
  | plus
  | minus
  deriving DecidableEq, Repr

def Sign.text : Sign → List Char
  | none => []
  | plus => ['+']
  | minus => ['-']

/-- The part of a number after its digits. -/
structure Exponent where
  letter : Char
  sign : Sign
  digits : List Char
  deriving DecidableEq, Repr

/-- A number of a JSON text; without digits of a fraction there is no point. -/
structure Literal where
  isNegative : Bool
  whole : List Char
  fraction : List Char
  exponent : Option Exponent
  deriving DecidableEq, Repr

def natOf (digits : List Char) : Nat := Nat.ofDigitChars 10 digits 0

namespace Exponent

structure WellFormed (e : Exponent) : Prop where
  letter : e.letter = 'e' ∨ e.letter = 'E'
  digits : ∀ c ∈ e.digits, c.isDigit = true
  some_digit : e.digits ≠ []

def text (e : Exponent) : List Char := e.letter :: (e.sign.text ++ e.digits)

/-- The power of ten. -/
def power (e : Exponent) : ℤ := if e.sign = .minus then -(natOf e.digits : ℤ) else natOf e.digits

end Exponent

namespace Literal

structure WellFormed (l : Literal) : Prop where
  whole : ∀ c ∈ l.whole, c.isDigit = true
  /-- Nothing follows a zero at the front. -/
  leading : l.whole = ['0'] ∨ l.whole ≠ [] ∧ l.whole.head? ≠ some '0'
  fraction : ∀ c ∈ l.fraction, c.isDigit = true
  exponent : ∀ e, l.exponent = some e → e.WellFormed

def fractionText (l : Literal) : List Char := if l.fraction = [] then [] else '.' :: l.fraction

def exponentText (l : Literal) : List Char := (l.exponent.map Exponent.text).getD []

/-- The text after the sign. -/
def unsigned (l : Literal) : List Char := l.whole ++ (l.fractionText ++ l.exponentText)

def text (l : Literal) : List Char := (if l.isNegative then ['-'] else []) ++ l.unsigned

def power (l : Literal) : ℤ := (l.exponent.map Exponent.power).getD 0

/-- The number without its sign and its exponent. -/
def mantissa (l : Literal) : ℚ :=
  natOf (l.whole ++ l.fraction) * 10 ^ (-(l.fraction.length : ℤ))

/-- The number without its sign. -/
def size (l : Literal) : ℚ := l.mantissa * 10 ^ l.power

theorem size_nonneg (l : Literal) : 0 ≤ l.size := by
  unfold size mantissa
  positivity

def value (l : Literal) : ℚ := if l.isNegative then -l.size else l.size

/-- Whether there are digits before the point only. -/
def IsWhole (l : Literal) : Prop := l.fraction = [] ∧ l.exponent = none

/-- The exponent is one that is read as it is, or the number is short enough that
it would be next to nothing or out of all range. -/
def Moderate (l : Literal) : Prop :=
  (∀ e, l.exponent = some e → natOf e.digits ≤ maxExponentDigits) ∨
    l.text.length ≤ 2_000_000_000

end Literal

/-! ### Digits -/

theorem isDigit_eq (c : Char) : isDigit c = c.isDigit := by
  rw [isDigit]
  cases h : c.isDigit with
  | true => rw [digit?_of_isDigit h, Option.isSome_some]
  | false =>
    have hnone : digit? c = none := by
      refine if_neg fun hc => ?_
      rw [Char.isDigit_iff_toNat.2 hc] at h
      cases h
    rw [hnone, Option.isSome_none]

theorem digit_lt {c : Char} (h : c.isDigit = true) : c.toNat - '0'.toNat < 10 := by
  have hc := Char.isDigit_iff_toNat.1 h
  have h9 : '9'.toNat = 57 := rfl
  have h0 : '0'.toNat = 48 := rfl
  omega

theorem natOf_append (s t : List Char) : natOf (s ++ t) = natOf s * 10 ^ t.length + natOf t := by
  rw [natOf, natOf, natOf, Nat.ofDigitChars_append, Nat.ofDigitChars_eq_ofDigitChars_zero,
    Nat.mul_comm]

theorem natOf_lt {s : List Char} (h : ∀ c ∈ s, c.isDigit = true) : natOf s < 10 ^ s.length := by
  induction s using List.reverseRecOn with
  | nil => simp [natOf, Nat.ofDigitChars]
  | append_singleton s c ih =>
    have hs := ih fun d hd => h d (by simp [hd])
    have hc : natOf [c] < 10 := by
      have := digit_lt (h c (by simp))
      simpa [natOf, Nat.ofDigitChars] using this
    rw [natOf_append, List.length_append, List.length_singleton, pow_succ]
    omega

theorem natOf_cons (c : Char) (s : List Char) :
    natOf (c :: s) = (c.toNat - '0'.toNat) * 10 ^ s.length + natOf s := by
  rw [← List.singleton_append, natOf_append]
  simp [natOf, Nat.ofDigitChars]

/-- The first digits fix a number up to their last place. -/
theorem natOf_between (taken : List Char) {left : List Char}
    (hleft : ∀ c ∈ left, c.isDigit = true) :
    (natOf taken : ℚ) * 10 ^ left.length ≤ natOf (taken ++ left) ∧
      (natOf (taken ++ left) : ℚ) < (natOf taken + 1) * 10 ^ left.length := by
  have hlt := natOf_lt hleft
  rw [natOf_append]
  constructor
  · exact_mod_cast Nat.le_add_right _ _
  · rw [add_mul, one_mul]
    exact_mod_cast Nat.add_lt_add_left hlt _

theorem mul_pow_add_natOf_cons (n : Nat) (c : Char) (s : List Char) :
    n * 10 ^ (c :: s).length + natOf (c :: s) =
      (n * 10 + (c.toNat - '0'.toNat)) * 10 ^ s.length + natOf s := by
  rw [natOf_cons, List.length_cons]
  ring

/-- Digits are taken up to the first one that would exceed the limit. -/
theorem takeDigits_append {digits rest : List Char} (hd : ∀ c ∈ digits, c.isDigit = true)
    (hrest : Stops isDigit rest) (limit n count : Nat) :
    ∃ taken left, digits = taken ++ left ∧
      takeDigits limit n count (digits ++ rest) =
        (n * 10 ^ taken.length + natOf taken, count + taken.length, left ++ rest) ∧
      (n ≤ limit → n * 10 ^ taken.length + natOf taken ≤ limit) ∧
      (left ≠ [] → limit < (n * 10 ^ taken.length + natOf taken) * 10 + 10 ∧
        limit < n * 10 ^ digits.length + natOf digits) := by
  have hnil : natOf [] = 0 := rfl
  induction digits generalizing n count with
  | nil =>
    refine ⟨[], [], rfl, ?_, by simp [hnil], by simp⟩
    cases rest with
    | nil => simp [takeDigits, hnil]
    | cons c rest =>
      have hc : digit? c = none := by simpa [isDigit] using stops_cons.1 hrest
      simp [takeDigits, hc, hnil]
  | cons c digits ih =>
    have hc := hd c (by simp)
    rw [List.cons_append, takeDigits, digit?_of_isDigit hc, mul_pow_add_natOf_cons]
    simp only
    split
    · next hlimit =>
      have hdigit := digit_lt hc
      refine ⟨[], c :: digits, rfl, by simp [hnil], by simp [hnil], fun _ => ⟨?_, ?_⟩⟩
      · simp only [List.length_nil, pow_zero, mul_one, hnil]
        omega
      · exact hlimit.trans_le
          ((Nat.le_mul_of_pos_right _ (by positivity)).trans (Nat.le_add_right _ _))
    · next hlimit =>
      obtain ⟨taken, left, rfl, htake, hle, hleft⟩ :=
        ih (fun d hd' => hd d (by simp [hd'])) (n * 10 + (c.toNat - '0'.toNat)) (count + 1)
      refine ⟨c :: taken, left, rfl, ?_, fun _ => ?_, ?_⟩
      · rw [htake, mul_pow_add_natOf_cons, List.length_cons]
        simp only [Nat.add_assoc, Nat.add_comm 1]
      · rw [mul_pow_add_natOf_cons]
        exact hle (not_lt.1 hlimit)
      · rw [mul_pow_add_natOf_cons]
        exact hleft

/-! ### Sizes -/

namespace Literal

variable {l : Literal} {e : Exponent}

theorem mantissa_eq_zero_iff : l.mantissa = 0 ↔ natOf (l.whole ++ l.fraction) = 0 := by
  have hpow : (10 : ℚ) ^ (-(l.fraction.length : ℤ)) ≠ 0 := by positivity
  rw [mantissa, mul_eq_zero, or_iff_left hpow, Nat.cast_eq_zero]

theorem mantissa_lt (hl : l.WellFormed) : l.mantissa < 10 ^ (l.whole.length : ℤ) := by
  have hten : (10 : ℚ) ≠ 0 := by norm_num
  have hdigits : ∀ c ∈ l.whole ++ l.fraction, c.isDigit = true := by
    intro c hc
    rcases List.mem_append.1 hc with hc | hc
    exacts [hl.whole c hc, hl.fraction c hc]
  have hlt : (natOf (l.whole ++ l.fraction) : ℚ) < 10 ^ (l.whole ++ l.fraction).length := by
    exact_mod_cast natOf_lt hdigits
  have hpos : (0 : ℚ) < 10 ^ (-(l.fraction.length : ℤ)) := by positivity
  have hplace : (10 : ℚ) ^ (l.whole ++ l.fraction).length * 10 ^ (-(l.fraction.length : ℤ)) =
      10 ^ (l.whole.length : ℤ) := by
    rw [← zpow_natCast, ← zpow_add₀ hten, List.length_append]
    congr 1
    push_cast
    ring
  rw [mantissa, ← hplace]
  exact mul_lt_mul_of_pos_right hlt hpos

theorem le_mantissa (h : natOf (l.whole ++ l.fraction) ≠ 0) :
    (10 : ℚ) ^ (-(l.fraction.length : ℤ)) ≤ l.mantissa := by
  have hone : (1 : ℚ) ≤ natOf (l.whole ++ l.fraction) := by
    exact_mod_cast Nat.pos_of_ne_zero h
  have hpos : (0 : ℚ) < 10 ^ (-(l.fraction.length : ℤ)) := by positivity
  rw [mantissa]
  exact le_mul_of_one_le_left hpos.le hone

theorem length_digits_le (l : Literal) : l.whole.length + l.fraction.length ≤ l.text.length := by
  have hfraction : l.fraction.length ≤ l.fractionText.length := by
    unfold fractionText
    split
    · next h => simp [h]
    · simp
  simp only [text, unsigned, List.length_append]
  omega

theorem power_eq (he : l.exponent = some e) : l.power = e.power := by
  rw [power, he]
  rfl

/-- No digits before it make up for a negative exponent of that size. -/
theorem size_le_of_shrinking (hl : l.WellFormed) (hshort : l.text.length ≤ 2_000_000_000)
    (he : l.exponent = some e) (hlarge : maxExponentDigits < natOf e.digits)
    (hsign : e.sign = .minus) : l.size ≤ 10 ^ (-100 : ℤ) := by
  have hten : (10 : ℚ) ≠ 0 := by norm_num
  have hpos : (0 : ℚ) < 10 ^ l.power := by positivity
  have hlimit : maxExponentDigits = 2147483647 := rfl
  have hlength := length_digits_le l
  have hpower : l.power = -(natOf e.digits : ℤ) := by rw [power_eq he, Exponent.power, if_pos hsign]
  calc l.size ≤ 10 ^ (l.whole.length : ℤ) * 10 ^ l.power :=
        mul_le_mul_of_nonneg_right (mantissa_lt hl).le hpos.le
    _ = 10 ^ (l.whole.length + l.power) := (zpow_add₀ hten _ _).symm
    _ ≤ 10 ^ (-100 : ℤ) := zpow_le_zpow_right₀ (by norm_num) (by omega)

/-- Nor do any digits after the point make up for a positive one. -/
theorem le_size_of_growing (hne : natOf (l.whole ++ l.fraction) ≠ 0)
    (hshort : l.text.length ≤ 2_000_000_000) (he : l.exponent = some e)
    (hlarge : maxExponentDigits < natOf e.digits) (hsign : e.sign ≠ .minus) :
    10 ^ (100 : ℤ) ≤ l.size := by
  have hten : (10 : ℚ) ≠ 0 := by norm_num
  have hpos : (0 : ℚ) < 10 ^ l.power := by positivity
  have hlimit : maxExponentDigits = 2147483647 := rfl
  have hlength := length_digits_le l
  have hpower : l.power = natOf e.digits := by rw [power_eq he, Exponent.power, if_neg hsign]
  calc (10 : ℚ) ^ (100 : ℤ) ≤ 10 ^ (-(l.fraction.length : ℤ) + l.power) :=
        zpow_le_zpow_right₀ (by norm_num) (by omega)
    _ = 10 ^ (-(l.fraction.length : ℤ)) * 10 ^ l.power := zpow_add₀ hten _ _
    _ ≤ l.size := mul_le_mul_of_nonneg_right (le_mantissa hne) hpos.le

end Literal

/-! ### What a significand and an exponent stand for -/

/-- A significand and an exponent as they are read, and the number that was
written. -/
inductive Stands (n : ℕ) (e : ℤ) (v : ℚ) : Prop where
  | exact (h : (n : ℚ) * 10 ^ e = v)
  /-- Some digits were left out. Both numbers then begin with the same digits
  `p`; the one that is read is no greater, or else `p` does not end in a zero. -/
  | cut (p : ℕ) (j : ℤ) (large : 10 ^ 18 ≤ p)
      (read : (p : ℚ) * 10 ^ j ≤ n * 10 ^ e ∧ (n : ℚ) * 10 ^ e < (p + 1) * 10 ^ j)
      (written : (p : ℚ) * 10 ^ j ≤ v ∧ v < (p + 1) * 10 ^ j)
      (order : (n : ℚ) * 10 ^ e ≤ v ∨ p % 10 ≠ 0)

namespace Stands

variable {n : ℕ} {e : ℤ} {v : ℚ}

theorem eq_zero_iff (h : Stands n e v) : n = 0 ↔ v = 0 := by
  have hpow : (10 : ℚ) ^ e ≠ 0 := by positivity
  cases h with
  | exact h => rw [← h, mul_eq_zero, or_iff_left hpow, Nat.cast_eq_zero]
  | cut p j large read written order =>
    have hp : (0 : ℚ) < p := by exact_mod_cast (by positivity : 0 < 10 ^ 18).trans_le large
    have hpos : (0 : ℚ) < p * 10 ^ j := by positivity
    constructor
    · rintro rfl
      rw [Nat.cast_zero, zero_mul] at read
      exact absurd read.1 (not_le.2 hpos)
    · rintro rfl
      exact absurd written.1 (not_le.2 hpos)

/-- An exponent that is read later applies to both. -/
theorem shift (h : Stands n e v) (k : ℤ) : Stands n (e + k) (v * 10 ^ k) := by
  have hten : (10 : ℚ) ≠ 0 := by norm_num
  have hpos : (0 : ℚ) < 10 ^ k := by positivity
  have hshift (a : ℚ) (i : ℤ) : a * 10 ^ (i + k) = a * 10 ^ i * 10 ^ k := by
    rw [zpow_add₀ hten, mul_assoc]
  cases h with
  | exact h => exact .exact (by rw [hshift, h])
  | cut p j large read written order =>
    refine .cut p (j + k) large ?_ ?_ ?_
    · rw [hshift, hshift, hshift]
      exact ⟨mul_le_mul_of_nonneg_right read.1 hpos.le, mul_lt_mul_of_pos_right read.2 hpos⟩
    · rw [hshift, hshift]
      exact ⟨mul_le_mul_of_nonneg_right written.1 hpos.le, mul_lt_mul_of_pos_right written.2 hpos⟩
    · rw [hshift]
      exact order.imp_left fun h => mul_le_mul_of_nonneg_right h hpos.le

/-- Digits that are left out at the end are counted. -/
theorem of_taken (taken : List Char) {left : List Char} (hleft : ∀ c ∈ left, c.isDigit = true)
    (hlarge : left ≠ [] → 10 ^ 18 ≤ natOf taken) :
    Stands (natOf taken) left.length (natOf (taken ++ left)) := by
  by_cases hnil : left = []
  · subst hnil
    exact .exact (by simp)
  · obtain ⟨hdown, hup⟩ := natOf_between taken hleft
    refine .cut (natOf taken) left.length (hlarge hnil) ⟨le_rfl, ?_⟩ ?_ (.inl ?_) <;>
      rw [zpow_natCast]
    · gcongr
      exact lt_add_one _
    · exact ⟨hdown, hup⟩
    · exact hdown

/-- Digits that are left out before the point, of which the first one after it
takes the place. Only one significand leaves room for that. -/
theorem of_gap {taken : List Char} (left : List Char) {c : Char} (fraction : List Char)
    (hleft : ∀ c ∈ left ++ fraction, c.isDigit = true) (hc : c.isDigit = true)
    (htaken : natOf taken = 1844674407370955161) :
    Stands (natOf taken * 10 + natOf [c]) (left.length - 1)
      (natOf (taken ++ (left ++ fraction)) * 10 ^ (-(fraction.length : ℤ))) := by
  have hten : (10 : ℚ) ≠ 0 := by norm_num
  have hfraction : (0 : ℚ) < 10 ^ (-(fraction.length : ℤ)) := by positivity
  obtain ⟨hdown, hup⟩ := natOf_between taken hleft
  have hdigit : natOf [c] < 10 := natOf_lt (s := [c]) (by simpa using hc)
  have hsum : (10 : ℚ) ^ (left ++ fraction).length * 10 ^ (-(fraction.length : ℤ)) =
      10 ^ (left.length : ℤ) := by
    rw [← zpow_natCast, ← zpow_add₀ hten, List.length_append]
    congr 1
    push_cast
    ring
  have hplace : (10 : ℚ) ^ (left.length : ℤ) = 10 * 10 ^ ((left.length : ℤ) - 1) := by
    rw [← zpow_one_add₀ hten]
    congr 1
    ring
  have hpos : (0 : ℚ) < 10 ^ ((left.length : ℤ) - 1) := by positivity
  refine .cut (natOf taken) left.length (by rw [htaken]; norm_num) ⟨?_, ?_⟩ ⟨?_, ?_⟩
    (.inr (by rw [htaken]; norm_num))
  · rw [hplace, ← mul_assoc]
    refine mul_le_mul_of_nonneg_right ?_ hpos.le
    push_cast
    linarith [Nat.cast_nonneg (α := ℚ) (natOf [c])]
  · rw [hplace, ← mul_assoc]
    refine mul_lt_mul_of_pos_right ?_ hpos
    have hcast : (natOf [c] : ℚ) < 10 := by exact_mod_cast hdigit
    push_cast
    linarith
  · rw [← hsum, ← mul_assoc]
    exact mul_le_mul_of_nonneg_right hdown hfraction.le
  · rw [← hsum, ← mul_assoc]
    exact mul_lt_mul_of_pos_right hup hfraction

/-- The significand of a number of which `before` and `after` are the digits that
were taken on the two sides of the point. -/
theorem of_digits {before skipped after left : List Char}
    (hskipped : ∀ c ∈ skipped, c.isDigit = true)
    (hfraction : ∀ c ∈ after ++ left, c.isDigit = true)
    (hle : natOf before * 10 ^ after.length + natOf after ≤ maxSignificand)
    (hfull : skipped ≠ [] → maxSignificand < natOf before * 10 + 10)
    (hfull' : left ≠ [] →
      maxSignificand < (natOf before * 10 ^ after.length + natOf after) * 10 + 10) :
    Stands (natOf before * 10 ^ after.length + natOf after) (skipped.length - after.length)
      (natOf (before ++ skipped ++ (after ++ left)) *
        10 ^ (-((after ++ left).length : ℤ))) := by
  have hlimit : maxSignificand = 18446744073709551615 := rfl
  have hleft : ∀ c ∈ left, c.isDigit = true := fun c hc => hfraction c (by simp [hc])
  by_cases hnil : skipped = []
  · subst hnil
    rw [← natOf_append] at hle hfull' ⊢
    have h := (of_taken (before ++ after) hleft fun hne => by
      have := hfull' hne
      omega).shift (-((after ++ left).length : ℤ))
    simpa [List.append_assoc] using h
  · have hbefore := hfull hnil
    have hall : ∀ c ∈ skipped ++ (after ++ left), c.isDigit = true := by
      intro c hc
      rcases List.mem_append.1 hc with hc | hc
      exacts [hskipped c hc, hfraction c hc]
    match after, hle with
    | [], _ =>
      have h := (of_taken before hall fun _ => by omega).shift (-(left.length : ℤ))
      simpa [natOf, Nat.ofDigitChars, List.append_assoc] using h
    | [c], hle =>
      have hone : natOf before = 1844674407370955161 := by
        simp only [List.length_singleton, pow_one] at hle
        omega
      have h := of_gap skipped ([c] ++ left) hall (hfraction c (by simp)) hone
      simpa [List.append_assoc] using h
    | c :: d :: after, hle =>
      -- there is room for one digit more at most
      have hpow : 100 ≤ 10 ^ (c :: d :: after).length := by
        simp only [List.length_cons, pow_succ]
        have := Nat.pow_pos (n := after.length) (by decide : 0 < 10)
        omega
      have := (Nat.mul_le_mul_left (natOf before) hpow).trans (Nat.le_of_add_right_le hle)
      omega

end Stands

end ServiceProbe.Json
