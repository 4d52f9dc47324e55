import ServiceProbe.Idn.Composites

/-!
Canonical composition of texts, here lists of code points. Everything is taken
apart, marks on one letter are put into the order of their classes, and what
can be one character is put together. A label is written in the form that comes
out.
-/

namespace ServiceProbe.Idn

/-! ### Korean syllables -/

/-- The first leading consonant, vowel and trailing consonant and the first
syllable. A trailing consonant that is absent counts as the one before the
first. -/
def leadBase : Nat := 0x1100

def vowelBase : Nat := 0x1161

def trailBase : Nat := 0x11A7

def syllableBase : Nat := 0xAC00

def leadCount : Nat := 19

def vowelCount : Nat := 21

def trailCount : Nat := 28

def syllableCount : Nat := leadCount * vowelCount * trailCount

def isSyllable (c : Nat) : Bool :=
  syllableBase ≤ c && c < syllableBase + syllableCount

def syllableParts (c : Nat) : List Nat :=
  let n := c - syllableBase
  let trail := n % trailCount
  let start := [leadBase + n / trailCount / vowelCount, vowelBase + n / trailCount % vowelCount]
  if trail = 0 then start else start ++ [trailBase + trail]

/-- A leading consonant with a vowel, or such a syllable with a trailing
consonant. -/
def syllable? (a b : Nat) : Option Nat :=
  if leadBase ≤ a ∧ a < leadBase + leadCount ∧ vowelBase ≤ b ∧ b < vowelBase + vowelCount then
    some (syllableBase + ((a - leadBase) * vowelCount + (b - vowelBase)) * trailCount)
  else if isSyllable a ∧ (a - syllableBase) % trailCount = 0 ∧
      trailBase < b ∧ b < trailBase + trailCount then
    some (a + (b - trailBase))
  else none

/-! ### Taking apart and putting together -/

/-- Takes a character apart by the entries of a table of composites. -/
def splitBy : List (Nat × Nat × Nat) → Nat → List Nat
  | [], c => [c]
  | (whole, first, mark) :: rest, c =>
    if c = whole then splitBy rest first ++ [mark] else splitBy rest c

def split (c : Nat) : List Nat :=
  if isSyllable c then syllableParts c else splitBy composites c

/-- The character that two characters make up. -/
def join? (a b : Nat) : Option Nat :=
  (syllable? a b).or ((composites.find? fun e => e.2.1 = a && e.2.2 = b).map (·.1))

/-- Puts a character before a text, behind marks of lower classes if it is a
mark. -/
def placeMark (c : Nat) : List Nat → List Nat
  | [] => [c]
  | d :: rest =>
    if 0 < combiningClass d ∧ combiningClass d < combiningClass c then d :: placeMark c rest
    else c :: d :: rest

/-- The marks of every letter in the order of their classes; those of one class
stay as they are. -/
def orderMarks (s : List Nat) : List Nat :=
  s.foldr placeMark []

theorem placeMark_perm (c : Nat) (s : List Nat) : (placeMark c s).Perm (c :: s) := by
  induction s with
  | nil => exact List.Perm.refl _
  | cons d rest ih =>
    unfold placeMark
    split
    · exact (ih.cons d).trans (List.Perm.swap c d rest)
    · exact List.Perm.refl _

theorem orderMarks_perm (s : List Nat) : (orderMarks s).Perm s := by
  induction s with
  | nil => exact List.Perm.refl _
  | cons c rest ih => exact (placeMark_perm c (orderMarks rest)).trans (ih.cons c)

/-- A text under composition. -/
structure Composer where
  done : List Nat
  /-- The last character that is no mark. -/
  letter : Option Nat
  /-- The marks that follow it and were not put together with it. -/
  marks : List Nat
  deriving DecidableEq, Repr

namespace Composer

def start : Composer := ⟨[], none, []⟩

def finish (p : Composer) : List Nat :=
  p.done ++ p.letter.toList ++ p.marks

/-- A character joins the letter if no mark of its class, or none at all if it
is no mark, stands between them. -/
def feed (p : Composer) (c : Nat) : Composer :=
  let reaches := p.marks.getLast?.all fun m => combiningClass m < combiningClass c
  match if reaches then p.letter.bind (join? · c) else none with
  | some whole => { p with letter := some whole }
  | none =>
    if combiningClass c = 0 then ⟨p.finish, some c, []⟩
    else { p with marks := p.marks ++ [c] }

end Composer

/-- The composed form of a text. -/
def compose (s : List Nat) : List Nat :=
  ((orderMarks (s.flatMap split)).foldl Composer.feed Composer.start).finish

/-- Whether a text is in the composed form. -/
def isComposed (s : List Char) : Bool :=
  let points := s.map Char.toNat
  compose points == points

end ServiceProbe.Idn
