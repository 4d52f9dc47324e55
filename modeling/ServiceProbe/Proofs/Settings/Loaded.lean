import ServiceProbe.Proofs.Except
import ServiceProbe.Proofs.Settings.Written

/-!
What is loaded fits: whatever a text holds, the values that are read for the fields
are ones that can be written and read back. An index has 64 bits because a numeral
has, and no time is longer than a day.
-/

namespace ServiceProbe

open Text Number

/-! ### Numerals -/

namespace Json

/-- The size of a negative whole number is one of 64 bits with its sign. -/
def Numeral.Bounded : Numeral → Prop
  | .negative n => n ≤ 0x8000000000000000
  | .natural _ | .fraction _ _ => True

section Bounded

variable {isNegative growing : Bool} {n skipped : Nat} {e : ℤ} {s rest : List Char} {x : Numeral}

theorem finishFraction_bounded (h : finishFraction isNegative n e s = .ok (x, rest)) :
    x.Bounded := by
  rw [finishFraction_eq] at h
  cases hvalue : ((Binary64.ofNat n).bind fun y => scaleTen y e) with
  | none =>
    rw [hvalue] at h
    cases h
  | some y =>
    rw [hvalue] at h
    cases h
    trivial

theorem hugeExponent_bounded (h : hugeExponent isNegative n growing s = .ok (x, rest)) :
    x.Bounded := by
  unfold hugeExponent at h
  split at h
  · cases h
  · cases h
    trivial

theorem readExponentDigits_bounded
    (h : readExponentDigits isNegative n e growing s = .ok (x, rest)) : x.Bounded := by
  unfold readExponentDigits at h
  split at h
  · cases h
  · split at h
    · simp only at h
      split at h
      · exact hugeExponent_bounded h
      · exact finishFraction_bounded h
    · cases h

theorem readExponent_bounded (h : readExponent isNegative n e s = .ok (x, rest)) : x.Bounded := by
  unfold readExponent at h
  split at h <;> exact readExponentDigits_bounded h

theorem afterFraction_bounded (h : afterFraction isNegative n e s = .ok (x, rest)) :
    x.Bounded := by
  unfold afterFraction at h
  split at h
  · split at h
    · exact readExponent_bounded h
    · exact finishFraction_bounded h
  · exact finishFraction_bounded h

theorem readFraction_bounded (h : readFraction isNegative n e s = .ok (x, rest)) : x.Bounded := by
  unfold readFraction at h
  simp only at h
  split at h
  · exact afterFraction_bounded h
  · split at h
    · split at h <;> cases h
    · exact afterFraction_bounded h

theorem wholeNumeral_bounded (isNegative : Bool) (n : Nat) :
    (wholeNumeral isNegative n).Bounded := by
  unfold wholeNumeral
  split
  · trivial
  · split
    · next hrange => exact hrange.2
    · trivial

theorem afterInteger_bounded (h : afterInteger isNegative n skipped s = .ok (x, rest)) :
    x.Bounded := by
  unfold afterInteger at h
  split at h
  · exact readFraction_bounded h
  · split at h
    · exact readExponent_bounded h
    · split at h
      · cases h
        exact wholeNumeral_bounded isNegative n
      · exact finishFraction_bounded h
  · split at h
    · cases h
      exact wholeNumeral_bounded isNegative n
    · exact finishFraction_bounded h

theorem readNumeral_bounded (h : readNumeral isNegative s = .ok (x, rest)) : x.Bounded := by
  unfold readNumeral at h
  split at h
  · cases h
  · split at h
    · split at h
      · cases h
      · exact afterInteger_bounded h
    · split at h
      · exact afterInteger_bounded h
      · cases h

end Bounded

end Json

namespace Settings

open Json

/-! ### Values -/

section Value

variable {s rest : List Char}

theorem place_eq_ok_iff {α : Type} {x : Except Fault α} {a : α} : place x = .ok a ↔ x = .ok a := by
  cases x <;> simp [place]

theorem readIndex_fits {i : Int} (h : readIndex s = .ok (i, rest)) : Field.redisDb.Fits i := by
  have hmax : maxDb = 9223372036854775807 := rfl
  unfold readIndex at h
  simp only at h
  split at h
  · cases h
  · split at h
    · cases h
    · split at h
      · next hle =>
        cases h
        exact ⟨by omega, by omega⟩
      · cases h
    · next n _ heq =>
      have hbound : n ≤ 9223372036854775808 := by
        unfold readSigned at heq
        split at heq <;> exact readNumeral_bounded heq
      cases h
      exact ⟨by omega, by omega⟩
    · cases h

theorem timeOf_fits {isNegative : Bool} {x : Binary64} {d : Duration}
    (h : timeOf isNegative x = .ok d) : d.nanos ≤ maxSeconds * 10 ^ 9 := by
  unfold timeOf at h
  split at h
  · cases h
  · next hlong =>
    split at h
    · cases h
    · next hnegative =>
      have hunits : x.units ≤ maxSeconds * Binary64.scale := by
        cases isNegative with
        | false => exact not_lt.1 fun hlarge => hlong ⟨rfl, hlarge⟩
        | true =>
          have hzero : x.units = 0 := not_not.1 fun hne => hnegative ⟨rfl, hne⟩
          rw [hzero]
          exact Nat.zero_le _
      obtain ⟨e, he, hle⟩ :=
        Duration.exists_ofSeconds? (Binary64.value_le_natCast_iff.2 hunits) (by decide)
      rw [he] at h
      cases h
      exact hle

theorem readTime_fits {d : Duration} (h : readTime s = .ok (d, rest)) :
    d.nanos ≤ maxSeconds * 10 ^ 9 := by
  obtain ⟨⟨⟨isNegative, x⟩, t⟩, -, h⟩ := bind_eq_ok_iff.1 h
  simp only at h
  split at h
  · next htime =>
    cases h
    exact timeOf_fits htime
  · cases h

/-- A field is read as a value that fits, and no other field is changed. -/
theorem readField_fits {field : Field} {layer layer' : Overrides}
    (h : readField field layer s = .ok (layer', rest)) :
    ∃ value, field.Fits value ∧ layer' = layer.set field value := by
  unfold readField at h
  cases field with
  | redisHost | redisSocket | redisPassword | ipv4 | ipv6 =>
    obtain ⟨⟨value, t⟩, -, h⟩ := bind_eq_ok_iff.1 h
    cases h
    exact ⟨value, trivial, rfl⟩
  | redisDb =>
    obtain ⟨⟨value, t⟩, hread, h⟩ := bind_eq_ok_iff.1 h
    cases h
    exact ⟨value, readIndex_fits (place_eq_ok_iff.1 hread), rfl⟩
  | redisTimeout | timeout =>
    obtain ⟨⟨value, t⟩, hread, h⟩ := bind_eq_ok_iff.1 h
    cases h
    exact ⟨value, readTime_fits hread, rfl⟩

end Value

/-! ### Layers -/

end Settings

/-- All values that a layer gives fit. -/
def Overrides.Fits (layer : Overrides) : Prop :=
  ∀ (field : Settings.Field) value, layer.get field = some value → field.Fits value

namespace Overrides

open Settings

theorem Fits.none : Overrides.none.Fits := fun field value h => by simp at h

theorem Fits.set {layer : Overrides} (h : layer.Fits) {field : Field} {value : field.Value}
    (hvalue : field.Fits value) : (layer.set field value).Fits := by
  intro other given hgiven
  by_cases hother : other = field
  · subst hother
    rw [get_set_self, Option.some.injEq] at hgiven
    rwa [← hgiven]
  · rw [get_set_of_ne layer hother] at hgiven
    exact h other given hgiven

end Overrides

namespace Settings

section Layer

variable {first : Bool} {seen fields : List Field} {layer layer' : Overrides} {s rest : List Char}

theorem fits_readField {field : Field} (h : readField field layer s = .ok (layer', rest))
    (hlayer : layer.Fits) : layer'.Fits := by
  obtain ⟨value, hvalue, rfl⟩ := readField_fits h
  exact hlayer.set hvalue

theorem fits_readMembers {room : Nat} (h : readMembers room first seen layer s = .ok (layer', rest))
    (hlayer : layer.Fits) : layer'.Fits := by
  induction room generalizing first seen layer s with
  | zero =>
    cases h
    exact hlayer
  | succ room ih =>
    rw [readMembers] at h
    obtain ⟨⟨key, u⟩, -, h⟩ := bind_eq_ok_iff.1 h
    cases key with
    | none =>
      cases h
      exact hlayer
    | some t =>
      obtain ⟨⟨name, u⟩, -, h⟩ := bind_eq_ok_iff.1 h
      simp only at h
      split at h
      · obtain ⟨u, -, h⟩ := bind_eq_ok_iff.1 h
        obtain ⟨u, -, h⟩ := bind_eq_ok_iff.1 h
        exact ih h hlayer
      · split at h
        · cases h
        · obtain ⟨u, -, h⟩ := bind_eq_ok_iff.1 h
          obtain ⟨⟨layer₁, u⟩, hread, h⟩ := bind_eq_ok_iff.1 h
          exact ih h (fits_readField hread hlayer)

theorem fits_readElements (h : readElements fields first layer s = .ok (layer', rest))
    (hlayer : layer.Fits) : layer'.Fits := by
  induction fields generalizing first layer s with
  | nil =>
    cases h
    exact hlayer
  | cons field fields ih =>
    rw [readElements] at h
    obtain ⟨⟨element, u⟩, -, h⟩ := bind_eq_ok_iff.1 h
    cases element with
    | none =>
      cases h
      exact hlayer
    | some t =>
      obtain ⟨⟨layer₁, u⟩, hread, h⟩ := bind_eq_ok_iff.1 h
      exact ih h (fits_readField hread hlayer)

theorem settle_eq_ok_iff {α : Type} {leave : List Char → List Char} {x : Except Refusal α} {a : α} :
    settle leave x = .ok a ↔ x = .ok a := by
  unfold settle
  split <;> simp

theorem fits_layerOfJson (h : layerOfJson s = .ok layer) : layer.Fits := by
  obtain ⟨⟨layer₁, t⟩, hread, h⟩ := bind_eq_ok_iff.1 h
  have heq : layer₁ = layer := by
    simp only at h
    split at h
    · cases h
      rfl
    · cases h
  subst heq
  unfold readLayer at hread
  split at hread
  · cases hread
  · obtain ⟨⟨layer₂, u⟩, hmembers, hread⟩ := bind_eq_ok_iff.1 hread
    cases hread
    exact fits_readMembers (settle_eq_ok_iff.1 hmembers) .none
  · obtain ⟨⟨layer₂, u⟩, helements, hread⟩ := bind_eq_ok_iff.1 hread
    obtain ⟨u', -, hread⟩ := bind_eq_ok_iff.1 hread
    cases hread
    exact fits_readElements (settle_eq_ok_iff.1 helements) .none
  · cases hread

theorem fits_defaults (field : Field) : field.Fits (defaults.get field) := by
  cases field with
  | redisDb =>
    exact (by decide : -(maxDb : Int) - 1 ≤ defaults.redisDb ∧ defaults.redisDb ≤ maxDb)
  | redisTimeout => exact (by decide : defaults.redisTimeout.nanos ≤ maxSeconds * 10 ^ 9)
  | timeout => exact (by decide : defaults.timeout.nanos ≤ maxSeconds * 10 ^ 9)
  | redisHost | redisSocket | redisPassword | ipv4 | ipv6 => trivial

/-- What is loaded from a text fits in every field. -/
theorem fits_ofJson {settings : Settings} (h : ofJson s = .ok settings) (field : Field) :
    field.Fits (settings.get field) := by
  unfold ofJson at h
  split at h
  · next layer hlayer =>
    cases h
    rw [get_apply]
    cases hget : layer.get field with
    | none => exact fits_defaults field
    | some value => exact fits_layerOfJson hlayer field value hget
  · cases h

end Layer

end Settings

end ServiceProbe
