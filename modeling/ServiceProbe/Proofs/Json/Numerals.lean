import ServiceProbe.Json.Ignored
import ServiceProbe.Proofs.Json.Literals

/-!
Numbers at the front of a text. The digits before the point and after it and the
exponent are read one after the other, and each of these steps ends where the
digits end. A number that is a whole one of 64 bits is kept; all others are left
to the scaling by a power of ten, unless the exponent alone decides.
-/

namespace ServiceProbe.Json

open Text Number

/-- Characters that a number before them may go on with. -/
def continues (c : Char) : Bool := isDigit c || c == '.' || c == 'e' || c == 'E'

theorem stops_digit {rest : List Char} (h : Stops continues rest) : Stops isDigit rest := by
  intro c hc
  have hstop := h c hc
  simp only [continues, Bool.or_eq_false_iff] at hstop
  exact hstop.1.1.1

section Reading

variable {isNegative : Bool} {digits rest : List Char}

/-! ### Digits and exponents -/

theorem startsWithDigit_append {left : List Char} (hleft : ∀ c ∈ left, c.isDigit = true)
    (hrest : Stops isDigit rest) : startsWithDigit (left ++ rest) = true ↔ left ≠ [] := by
  cases left with
  | nil =>
    cases rest with
    | nil => simp [startsWithDigit]
    | cons c rest => simpa [startsWithDigit] using stops_cons.1 hrest
  | cons c left => simp [startsWithDigit, isDigit_eq, hleft c (by simp)]

theorem skipDigits_append {left : List Char} (hleft : ∀ c ∈ left, c.isDigit = true)
    (hrest : Stops isDigit rest) : skipDigits (left ++ rest) = rest :=
  dropWhile_append_of_stops (fun c hc => by rw [isDigit_eq, hleft c hc]) hrest

/-- The digits before the point. -/
theorem readNumeral_whole (isNegative : Bool) (hd : ∀ c ∈ digits, c.isDigit = true)
    (hleading : digits = ['0'] ∨ digits ≠ [] ∧ digits.head? ≠ some '0')
    (hrest : Stops isDigit rest) :
    ∃ before skipped, digits = before ++ skipped ∧
      readNumeral isNegative (digits ++ rest) =
        afterInteger isNegative (natOf before) skipped.length rest ∧
      natOf before ≤ maxSignificand ∧
      (skipped ≠ [] → maxSignificand < natOf before * 10 + 10 ∧ maxSignificand < natOf digits) := by
  rcases hleading with rfl | ⟨hne, hhead⟩
  · refine ⟨['0'], [], rfl, ?_, by decide, by simp⟩
    have hstart : startsWithDigit rest = false := by
      simpa using (startsWithDigit_append (List.forall_mem_nil _) hrest).not
    rw [List.singleton_append, readNumeral]
    simp only [if_pos, hstart]
    rfl
  · obtain ⟨before, skipped, rfl, htake, hle, hfull⟩ :=
      takeDigits_append hd hrest maxSignificand 0 0
    have hskipped : ∀ c ∈ skipped, c.isDigit = true := fun c hc => hd c (by simp [hc])
    simp only [Nat.zero_mul, Nat.zero_add] at htake hle hfull
    refine ⟨before, skipped, rfl, ?_, hle (Nat.zero_le _), hfull⟩
    obtain ⟨c, s, hs⟩ := List.exists_cons_of_ne_nil hne
    have hc : c ≠ '0' := by simpa [hs] using hhead
    have hcd : isDigit c = true := by rw [isDigit_eq]; exact hd c (by simp [hs])
    have hcount : ((skipped ++ rest).takeWhile isDigit).length = skipped.length := by
      rw [takeWhile_append_of_stops (fun c hc => by rw [isDigit_eq, hskipped c hc]) hrest]
    have hread : readNumeral isNegative (before ++ skipped ++ rest) =
        afterInteger isNegative (natOf before) ((skipped ++ rest).takeWhile isDigit).length
          (skipDigits (skipped ++ rest)) := by
      rw [hs, List.cons_append] at htake ⊢
      rw [readNumeral, if_neg hc, if_pos hcd, htake]
    rw [hread, hcount, skipDigits_append hskipped hrest]

/-- The digits after the point. -/
theorem readFraction_append (isNegative : Bool) (hd : ∀ c ∈ digits, c.isDigit = true)
    (hne : digits ≠ []) (hrest : Stops isDigit rest) {n : Nat} (hn : n ≤ maxSignificand) (e : ℤ) :
    ∃ after left, digits = after ++ left ∧
      readFraction isNegative n e (digits ++ rest) =
        afterFraction isNegative (n * 10 ^ after.length + natOf after) (e - after.length) rest ∧
      n * 10 ^ after.length + natOf after ≤ maxSignificand ∧
      (left ≠ [] →
        maxSignificand < (n * 10 ^ after.length + natOf after) * 10 + 10) := by
  obtain ⟨after, left, rfl, htake, hle, hfull⟩ := takeDigits_append hd hrest maxSignificand n 0
  have hleft : ∀ c ∈ left, c.isDigit = true := fun c hc => hd c (by simp [hc])
  refine ⟨after, left, rfl, ?_, hle hn, fun h => (hfull h).1⟩
  rw [readFraction, htake]
  simp only [Nat.zero_add, startsWithDigit_append hleft hrest, skipDigits_append hleft hrest]
  by_cases hnil : left = []
  · have hafter : after.length ≠ 0 := by simpa [hnil] using hne
    simp [hnil, hafter]
  · simp [hnil]

theorem readExponentDigits_append (hd : ∀ c ∈ digits, c.isDigit = true) (hne : digits ≠ [])
    (hrest : Stops isDigit rest) (n : Nat) (start : ℤ) (growing : Bool) :
    natOf digits ≤ maxExponentDigits ∧
        readExponentDigits isNegative n start growing (digits ++ rest) =
          finishFraction isNegative n
            (if growing then start + natOf digits else start - natOf digits) rest ∨
      maxExponentDigits < natOf digits ∧ ∃ left,
        readExponentDigits isNegative n start growing (digits ++ rest) =
          hugeExponent isNegative n growing (left ++ rest) ∧ ∀ c ∈ left, c.isDigit = true := by
  obtain ⟨taken, left, rfl, htake, hle, hfull⟩ :=
    takeDigits_append hd hrest maxExponentDigits 0 0
  simp only [Nat.zero_mul, Nat.zero_add] at htake hle hfull
  have hleft : ∀ c ∈ left, c.isDigit = true := fun c hc => hd c (by simp [hc])
  obtain ⟨c, s, hs⟩ := List.exists_cons_of_ne_nil hne
  have hc : isDigit c = true := by rw [isDigit_eq]; exact hd c (by simp [hs])
  have hread : readExponentDigits isNegative n start growing (taken ++ left ++ rest) =
      if startsWithDigit (left ++ rest) then hugeExponent isNegative n growing (left ++ rest)
      else finishFraction isNegative n
        (if growing then start + natOf taken else start - natOf taken) (left ++ rest) := by
    rw [hs, List.cons_append] at htake ⊢
    rw [readExponentDigits, if_pos hc, htake]
  rw [hread]
  by_cases hnil : left = []
  · left
    rw [if_neg ((startsWithDigit_append hleft hrest).not.2 (not_not.2 hnil)), hnil,
      List.nil_append, List.append_nil]
    exact ⟨hle (Nat.zero_le _), rfl⟩
  · right
    rw [if_pos ((startsWithDigit_append hleft hrest).2 hnil)]
    exact ⟨(hfull hnil).2, left, rfl, hleft⟩

/-- The exponent, after its letter and its sign. -/
theorem afterFraction_text {e : Exponent} (he : e.WellFormed) (n : Nat) (start : ℤ) :
    afterFraction isNegative n start (e.text ++ rest) =
      readExponentDigits isNegative n start (decide (e.sign ≠ .minus)) (e.digits ++ rest) := by
  obtain ⟨letter, sign, digits⟩ := e
  obtain ⟨hletter, hdigits, hne⟩ := he
  simp only at hletter hdigits hne
  have hexponent : afterFraction isNegative n start (letter :: (sign.text ++ digits) ++ rest) =
      readExponent isNegative n start (sign.text ++ digits ++ rest) := if_pos hletter
  rw [Exponent.text, hexponent]
  cases sign with
  | plus => rfl
  | minus => rfl
  | none =>
    obtain ⟨c, s, rfl⟩ := List.exists_cons_of_ne_nil hne
    have hc := hdigits c (by simp)
    simp only [Sign.text, List.nil_append, List.cons_append, ne_eq, reduceCtorEq,
      not_false_eq_true, decide_true]
    unfold readExponent
    split
    · next heq =>
      simp only [List.cons.injEq] at heq
      rw [heq.1] at hc
      simp at hc
    · next heq =>
      simp only [List.cons.injEq] at heq
      rw [heq.1] at hc
      simp at hc
    · rfl

theorem stops_exponentText {l : Literal} (hl : l.WellFormed) (hrest : Stops continues rest) :
    Stops (fun c => isDigit c || c == '.') (l.exponentText ++ rest) := by
  unfold Literal.exponentText
  cases he : l.exponent with
  | none =>
    simp only [Option.map_none, Option.getD_none, List.nil_append]
    intro c hc
    have := hrest c hc
    simp only [continues, Bool.or_eq_false_iff] at this ⊢
    exact this.1.1
  | some e =>
    simp only [Option.map_some, Option.getD_some, Exponent.text, List.cons_append, stops_cons]
    rcases (hl.exponent e he).letter with h | h <;> rw [h] <;> decide

/-- What follows the digits of a number is read as an exponent, or there was none
and the number was cut. -/
theorem afterInteger_exponentText {l : Literal} (hl : l.WellFormed)
    (hrest : Stops continues rest) {n skipped : Nat} (h : l.exponent ≠ none ∨ skipped ≠ 0) :
    afterInteger isNegative n skipped (l.exponentText ++ rest) =
      afterFraction isNegative n skipped (l.exponentText ++ rest) := by
  have hpoint : ∀ t, l.exponentText ++ rest ≠ '.' :: t := by
    intro t ht
    have := stops_exponentText hl hrest '.' (by rw [ht]; rfl)
    simp at this
  unfold Literal.exponentText at hpoint ⊢
  cases he : l.exponent with
  | some e =>
    have hletter := (hl.exponent e he).letter
    simp only [he, Option.map_some, Option.getD_some, Exponent.text, List.cons_append] at hpoint ⊢
    unfold afterInteger
    split
    · next heq => exact absurd heq (hpoint _)
    · next heq =>
      cases heq
      rw [if_pos hletter]
      exact (if_pos hletter).symm
    · next heq => cases heq
  | none =>
    have hskipped : skipped ≠ 0 := by simpa [he] using h
    simp only [he, Option.map_none, Option.getD_none, List.nil_append] at hpoint ⊢
    unfold afterInteger
    split
    · next heq => exact absurd rfl (hpoint _)
    · next c t _ =>
      have hc := hrest c rfl
      simp only [continues, Bool.or_eq_false_iff, beq_eq_false_iff_ne] at hc
      have hletter : ¬ (c = 'e' ∨ c = 'E') := by simp [hc]
      rw [if_neg hletter, if_neg hskipped]
      exact (if_neg hletter).symm
    · rw [if_neg hskipped]
      rfl

theorem afterInteger_whole (hrest : Stops continues rest) (n : Nat) :
    afterInteger isNegative n 0 rest = .ok (wholeNumeral isNegative n, rest) := by
  unfold afterInteger
  split
  · exact absurd (hrest '.' rfl) (by decide)
  · next c t _ =>
    have hc := hrest c rfl
    simp only [continues, Bool.or_eq_false_iff, beq_eq_false_iff_ne] at hc
    rw [if_neg (by simp [hc]), if_pos rfl]
  · rw [if_pos rfl]

/-- The digits of a number: if it is a whole one of 64 bits, it is read as it is,
and otherwise it is left to its exponent. -/
theorem readNumeral_unsigned (isNegative : Bool) {l : Literal} (hl : l.WellFormed)
    (hrest : Stops continues rest) :
    (l.IsWhole ∧ natOf l.whole ≤ maxSignificand →
      readNumeral isNegative (l.unsigned ++ rest) =
        .ok (wholeNumeral isNegative (natOf l.whole), rest)) ∧
    (¬ (l.IsWhole ∧ natOf l.whole ≤ maxSignificand) →
      ∃ n e, n ≤ maxSignificand ∧ Stands n e l.mantissa ∧
        readNumeral isNegative (l.unsigned ++ rest) =
          afterFraction isNegative n e (l.exponentText ++ rest)) := by
  have hfollow := stops_exponentText hl hrest
  have hdigit : Stops isDigit (l.exponentText ++ rest) := fun c hc =>
    (Bool.or_eq_false_iff.1 (hfollow c hc)).1
  by_cases hnil : l.fraction = []
  · have hunsigned : l.unsigned ++ rest = l.whole ++ (l.exponentText ++ rest) := by
      simp [Literal.unsigned, Literal.fractionText, hnil]
    obtain ⟨before, skipped, hsplit, hread, hle, hfull⟩ :=
      readNumeral_whole isNegative hl.whole hl.leading hdigit
    rw [hunsigned, hread]
    constructor
    · rintro ⟨⟨-, hexponent⟩, hsmall⟩
      have hskipped : skipped = [] := by
        by_contra hne
        exact absurd (hfull hne).2 (not_lt.2 hsmall)
      have hbefore : before = l.whole := by rw [hsplit, hskipped, List.append_nil]
      have htext : l.exponentText = [] := by rw [Literal.exponentText, hexponent]; rfl
      rw [hskipped, hbefore, htext, List.nil_append, List.length_nil]
      exact afterInteger_whole hrest _
    · intro hnot
      have hor : l.exponent ≠ none ∨ skipped.length ≠ 0 := by
        by_contra hneither
        rw [not_or, not_not, not_not, List.length_eq_zero_iff] at hneither
        have hbefore : before = l.whole := by rw [hsplit, hneither.2, List.append_nil]
        exact hnot ⟨⟨hnil, hneither.1⟩, hbefore ▸ hle⟩
      refine ⟨natOf before, skipped.length, hle, ?_, afterInteger_exponentText hl hrest hor⟩
      have hskipped : ∀ c ∈ skipped, c.isDigit = true := fun c hc =>
        hl.whole c (by simp [hsplit, hc])
      have hlimit : maxSignificand = 18446744073709551615 := rfl
      have h := Stands.of_taken before hskipped fun hne => by
        have := (hfull hne).1
        omega
      simpa [Literal.mantissa, hnil, hsplit] using h
  · have hunsigned : l.unsigned ++ rest =
        l.whole ++ ('.' :: (l.fraction ++ (l.exponentText ++ rest))) := by
      simp [Literal.unsigned, Literal.fractionText, hnil]
    have hpoint : Stops isDigit ('.' :: (l.fraction ++ (l.exponentText ++ rest))) :=
      stops_cons.2 (by decide)
    obtain ⟨before, skipped, hsplit, hread, hle, hfull⟩ :=
      readNumeral_whole isNegative hl.whole hl.leading hpoint
    obtain ⟨after, left, hsplit', hread', hle', hfull'⟩ :=
      readFraction_append isNegative hl.fraction hnil hdigit hle skipped.length
    refine ⟨fun h => absurd h.1.1 hnil,
      fun _ => ⟨_, skipped.length - after.length, hle', ?_, ?_⟩⟩
    · have hskipped : ∀ c ∈ skipped, c.isDigit = true := fun c hc =>
        hl.whole c (by simp [hsplit, hc])
      rw [Literal.mantissa, hsplit, hsplit']
      exact Stands.of_digits hskipped (hsplit' ▸ hl.fraction) hle' (fun h => (hfull h).1) hfull'
    · rw [hunsigned, hread, ← hread']
      rfl

/-- Other numbers end as fractions, or in an exponent beyond the limit. -/
theorem readNumeral_fraction (isNegative : Bool) {l : Literal} (hl : l.WellFormed)
    (hrest : Stops continues rest) (hnot : ¬ (l.IsWhole ∧ natOf l.whole ≤ maxSignificand)) :
    ∃ n start, n ≤ maxSignificand ∧ Stands n start l.mantissa ∧
      ((∀ e, l.exponent = some e → natOf e.digits ≤ maxExponentDigits) ∧
          readNumeral isNegative (l.unsigned ++ rest) =
            finishFraction isNegative n (start + l.power) rest ∨
        ∃ e left, l.exponent = some e ∧ maxExponentDigits < natOf e.digits ∧
          (∀ c ∈ left, c.isDigit = true) ∧
          readNumeral isNegative (l.unsigned ++ rest) =
            hugeExponent isNegative n (decide (e.sign ≠ .minus)) (left ++ rest)) := by
  obtain ⟨n, start, hn, hstands, hread⟩ :=
    (readNumeral_unsigned isNegative hl hrest).2 hnot
  refine ⟨n, start, hn, hstands, ?_⟩
  rw [hread]
  unfold Literal.exponentText Literal.power
  cases he : l.exponent with
  | some e =>
    have hwf := hl.exponent e he
    rw [Option.map_some, Option.getD_some, Option.map_some, Option.getD_some,
      afterFraction_text hwf]
    rcases readExponentDigits_append hwf.digits hwf.some_digit (stops_digit hrest) n start
      (decide (e.sign ≠ .minus)) with ⟨hsmall, h⟩ | ⟨hlarge, left, h, hleft⟩
    · refine .inl ⟨fun e' he' => Option.some.inj he' ▸ hsmall, ?_⟩
      rw [h, Exponent.power]
      by_cases hsign : e.sign = .minus <;> simp [hsign, sub_eq_add_neg]
    · exact .inr ⟨e, left, rfl, hlarge, hleft, h⟩
  | none =>
    refine .inl ⟨fun e he' => (by cases he'), ?_⟩
    simp only [Option.map_none, Option.getD_none, List.nil_append, add_zero]
    unfold afterFraction
    split
    · next c t =>
      have hc := hrest c rfl
      simp only [continues, Bool.or_eq_false_iff, beq_eq_false_iff_ne] at hc
      rw [if_neg (by simp [hc])]
    · rfl

/-! ### Exponents beyond the limit -/

section Huge

variable {l : Literal} {e : Exponent}

/-- An exponent beyond the limit is out of range even where the digits after the
point would make up for it. -/
theorem readNumeral_error (isNegative : Bool) (hl : l.WellFormed)
    (hne : natOf (l.whole ++ l.fraction) ≠ 0) (he : l.exponent = some e)
    (hlarge : maxExponentDigits < natOf e.digits) (hsign : e.sign ≠ .minus)
    (hrest : Stops continues rest) :
    ∃ fault, readNumeral isNegative (l.unsigned ++ rest) = .error fault := by
  have hnot : ¬ (l.IsWhole ∧ natOf l.whole ≤ maxSignificand) := by
    rintro ⟨⟨-, hnone⟩, -⟩
    rw [he] at hnone
    cases hnone
  obtain ⟨n, start, -, hstands, ⟨hsmall, -⟩ | ⟨e', left, he', -, -, hread⟩⟩ :=
    readNumeral_fraction isNegative hl hrest hnot
  · exact absurd hlarge (not_lt.2 (hsmall e he))
  · obtain rfl : e = e' := Option.some.inj (he.symm.trans he')
    have hn : n ≠ 0 := (hstands.eq_zero_iff.trans Literal.mantissa_eq_zero_iff).not.2 hne
    exact ⟨_, hread.trans (if_pos ⟨hn, decide_eq_true hsign⟩)⟩

end Huge

/-- A number that is no whole one of 64 bits is a fraction that stands for it, next
to nothing and read as zero, or too large. -/
theorem readNumeral_moderate (isNegative : Bool) {l : Literal} (hl : l.WellFormed)
    (hmoderate : l.Moderate) (hrest : Stops continues rest)
    (hnot : ¬ (l.IsWhole ∧ natOf l.whole ≤ maxSignificand)) :
    (∃ n e, n ≤ maxSignificand ∧ Stands n e l.size ∧
      readNumeral isNegative (l.unsigned ++ rest) = finishFraction isNegative n e rest) ∨
    l.size ≤ 10 ^ (-100 : ℤ) ∧
      readNumeral isNegative (l.unsigned ++ rest) = .ok (.fraction isNegative .zero, rest) ∨
    10 ^ (100 : ℤ) ≤ l.size ∧
      ∃ fault, readNumeral isNegative (l.unsigned ++ rest) = .error fault := by
  obtain ⟨n, start, hn, hstands, ⟨-, hread⟩ | ⟨e, left, he, hlarge, hleft, hread⟩⟩ :=
    readNumeral_fraction isNegative hl hrest hnot
  · exact .inl ⟨n, start + l.power, hn, hstands.shift l.power, hread⟩
  · have hshort := hmoderate.resolve_left fun h => absurd hlarge (not_lt.2 (h e he))
    have hzero : n = 0 ↔ natOf (l.whole ++ l.fraction) = 0 :=
      hstands.eq_zero_iff.trans Literal.mantissa_eq_zero_iff
    rw [hread, hugeExponent, skipDigits_append hleft (stops_digit hrest)]
    by_cases hgrows : n ≠ 0 ∧ decide (e.sign ≠ .minus) = true
    · rw [if_pos hgrows]
      exact .inr (.inr ⟨Literal.le_size_of_growing (hzero.not.1 hgrows.1) hshort he hlarge
        (of_decide_eq_true hgrows.2), _, rfl⟩)
    · rw [if_neg hgrows]
      refine .inr (.inl ⟨?_, rfl⟩)
      by_cases hsign : e.sign = .minus
      · exact Literal.size_le_of_shrinking hl hshort he hlarge hsign
      · have hnone : n = 0 := by
          by_contra hne
          exact hgrows ⟨hne, decide_eq_true hsign⟩
        rw [Literal.size, Literal.mantissa_eq_zero_iff.2 (hzero.1 hnone), zero_mul]
        positivity

/-! ### Numbers of which only the extent matters -/

theorem skipSomeDigits_append (hd : ∀ c ∈ digits, c.isDigit = true) (hne : digits ≠ [])
    (hrest : Stops isDigit rest) (fault : List Char → Fault) :
    skipSomeDigits (digits ++ rest) fault = .ok rest := by
  rw [skipSomeDigits, if_pos ((startsWithDigit_append hd hrest).2 hne), skipDigits_append hd hrest]

theorem skipExponent_text {l : Literal} (hl : l.WellFormed) (hrest : Stops continues rest) :
    skipExponent (l.exponentText ++ rest) = .ok rest := by
  unfold Literal.exponentText
  cases he : l.exponent with
  | some e =>
    obtain ⟨hletter, hdigits, hne⟩ := hl.exponent e he
    simp only [Option.map_some, Option.getD_some, Exponent.text, List.cons_append, skipExponent]
    rw [if_pos hletter]
    have hskip := skipSomeDigits_append hdigits hne (stops_digit hrest) (.next .invalidNumber)
    cases e.sign with
    | plus => exact hskip
    | minus => exact hskip
    | none =>
      obtain ⟨c, s, hs⟩ := List.exists_cons_of_ne_nil hne
      have hc := hdigits c (by simp [hs])
      simp only [Sign.text, List.nil_append, hs, List.cons_append] at hskip ⊢
      split
      · next heq =>
        rw [(List.cons.inj heq).1] at hc
        simp at hc
      · next heq =>
        rw [(List.cons.inj heq).1] at hc
        simp at hc
      · exact hskip
  | none =>
    simp only [Option.map_none, Option.getD_none, List.nil_append]
    unfold skipExponent
    split
    · rfl
    · next c t =>
      have hc := hrest c rfl
      simp only [continues, Bool.or_eq_false_iff, beq_eq_false_iff_ne] at hc
      rw [if_neg (by simp [hc])]

/-- What follows the digits before the point. -/
def skipFraction (s : List Char) : Except Fault (List Char) :=
  match s with
  | '.' :: t => (skipSomeDigits t (.next .invalidNumber)).bind skipExponent
  | t => skipExponent t

theorem skipNumeral_whole (hd : ∀ c ∈ digits, c.isDigit = true)
    (hleading : digits = ['0'] ∨ digits ≠ [] ∧ digits.head? ≠ some '0')
    (hrest : Stops isDigit rest) : skipNumeral (digits ++ rest) = skipFraction rest := by
  rcases hleading with rfl | ⟨hne, hhead⟩
  · have hstart : startsWithDigit rest = false := by
      simpa using (startsWithDigit_append (List.forall_mem_nil _) hrest).not
    rw [List.singleton_append, skipNumeral, if_neg (by simp [hstart]), if_pos (by decide)]
    rfl
  · obtain ⟨c, s, rfl⟩ := List.exists_cons_of_ne_nil hne
    have hc : c ≠ '0' := by simpa using hhead
    have hcd : isDigit c = true := by rw [isDigit_eq]; exact hd c (by simp)
    have hskip : skipDigits (s ++ rest) = rest :=
      skipDigits_append (fun d hd' => hd d (by simp [hd'])) hrest
    rw [List.cons_append, skipNumeral, if_neg (by simp [hc]), if_pos hcd]
    simp only [if_neg hc, hskip]
    rfl

theorem skipNumeral_unsigned {l : Literal} (hl : l.WellFormed) (hrest : Stops continues rest) :
    skipNumeral (l.unsigned ++ rest) = .ok rest := by
  have hfollow := stops_exponentText hl hrest
  have hdigit : Stops isDigit (l.exponentText ++ rest) := fun c hc =>
    (Bool.or_eq_false_iff.1 (hfollow c hc)).1
  have hexponent := skipExponent_text hl hrest
  rw [Literal.unsigned, List.append_assoc, List.append_assoc]
  by_cases hnil : l.fraction = []
  · rw [Literal.fractionText, if_pos hnil, List.nil_append,
      skipNumeral_whole hl.whole hl.leading hdigit]
    unfold skipFraction
    split
    · next heq =>
      have := hfollow '.' (by rw [heq]; rfl)
      simp at this
    · exact hexponent
  · rw [Literal.fractionText, if_neg hnil, List.cons_append,
      skipNumeral_whole hl.whole hl.leading (stops_cons.2 (by decide)), skipFraction,
      skipSomeDigits_append hl.fraction hnil hdigit]
    exact hexponent

end Reading

end ServiceProbe.Json
