import ServiceProbe.Text.Numeral

/-!
Numerals that are digits alone. Their value decides what comes of them: one within
the limit is read, a greater one is too large, and zeros in front change neither.
The digits of a number are read as that number.
-/

namespace ServiceProbe.Text

theorem digit?_of_isDigit {c : Char} (h : c.isDigit = true) :
    digit? c = some (c.toNat - '0'.toNat) :=
  if_pos (Char.isDigit_iff_toNat.1 h)

theorem isSome_digit? (c : Char) : (digit? c).isSome = c.isDigit := by
  cases hc : c.isDigit with
  | true => rw [digit?_of_isDigit hc, Option.isSome_some]
  | false =>
    have hnot : ¬ ('0' ≤ c ∧ c ≤ '9') := fun h => by
      simp [Char.isDigit_iff_toNat.2 h] at hc
    rw [digit?, if_neg hnot, Option.isSome_none]

theorem le_ofDigitChars (n : Nat) (s : List Char) : n ≤ Nat.ofDigitChars 10 s n := by
  induction s generalizing n with
  | nil => simp
  | cons c s ih =>
    rw [Nat.ofDigitChars_cons]
    have hmore := ih (10 * n + (c.toNat - '0'.toNat))
    omega

theorem readDigits_of_isDigit {limit n : Nat} {s : List Char}
    (h : ∀ c ∈ s, c.isDigit = true) (hn : n ≤ limit) (outside : NumeralError) :
    readDigits limit outside n s =
      if Nat.ofDigitChars 10 s n ≤ limit then .ok (Nat.ofDigitChars 10 s n)
      else .error outside := by
  induction s generalizing n with
  | nil => simp [readDigits, hn]
  | cons c s ih =>
    rw [List.forall_mem_cons] at h
    rw [readDigits, digit?_of_isDigit h.1, Nat.ofDigitChars_cons, Nat.mul_comm 10 n]
    dsimp only
    split
    · next hlarge =>
      -- digits that follow make the value no smaller
      have hvalue := le_ofDigitChars (n * 10 + (c.toNat - '0'.toNat)) s
      rw [if_neg (by omega)]
    · next hfits =>
      apply ih h.2
      omega

theorem readNat_of_isDigit (limit : Nat) {s : List Char} (hne : s ≠ [])
    (h : ∀ c ∈ s, c.isDigit = true) :
    readNat limit s =
      if Nat.ofDigitChars 10 s 0 ≤ limit then .ok (Nat.ofDigitChars 10 s 0)
      else .error .tooLarge := by
  have hmagnitude : readNat limit s = readMagnitude limit .tooLarge s := by
    unfold readNat
    split
    · contradiction
    · simp at h
    · rfl
  rw [hmagnitude, readMagnitude, if_neg hne]
  exact readDigits_of_isDigit h (Nat.zero_le limit) .tooLarge

theorem readPort_toString (port : UInt16) : readPort (toString port.toNat).toList = .ok port := by
  have hlimit : port.toNat ≤ 65535 := Nat.le_of_lt_succ port.toNat_lt
  have hdigits : ∀ c ∈ Nat.toDigits 10 port.toNat, c.isDigit = true := fun c hc =>
    Nat.isDigit_of_mem_toDigits (by decide) (by decide) hc
  rw [Nat.toString_eq_ofList_toDigits, String.toList_ofList, readPort,
    readNat_of_isDigit 65535 Nat.toDigits_ne_nil hdigits, Nat.ofDigitChars_ten_toDigits,
    if_pos hlimit]
  simp [Except.map]

end ServiceProbe.Text
