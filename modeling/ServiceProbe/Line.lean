import ServiceProbe.Text.Blank

/-!
The grammar of test lines. A header names the target and the protocol; clauses
after it set arguments, with values bare or between quotes of one kind:

    <target> must run <protocol> [with <name> <value>]...

A reader takes one part from the front of a text and gives back the rest.
-/

namespace ServiceProbe.Line

open Text

/-- A text without the given one at its front. -/
def dropPrefix? : List Char → List Char → Option (List Char)
  | [], s => some s
  | _ :: _, [] => none
  | c :: word, d :: s => if c = d then dropPrefix? word s else none

/-- What follows one blank or more. -/
def skipBlanks? : List Char → Option (List Char)
  | [] => none
  | c :: s => if isBlank c then some (trimStart s) else none

/-- What follows one blank or more and then a word of the grammar. -/
def keyword? (word : String) (s : List Char) : Option (List Char) :=
  (skipBlanks? s).bind (dropPrefix? word.toList)

structure Header where
  target : List Char
  protocol : List Char
  /-- Where the clauses stand. -/
  rest : List Char
  deriving DecidableEq, Repr

/-- Reads `<target> must run <protocol>`. What follows is on the same line. -/
def readHeader? (s : List Char) : Option Header := do
  guard (firstWord s ≠ [])
  let t ← keyword? "must" (afterWord s)
  let t ← keyword? "run" t
  let t ← skipBlanks? t
  guard (firstWord t ≠ [])
  guard ('\n' ∉ afterWord t)
  return ⟨firstWord s, firstWord t, afterWord t⟩

structure Clause where
  name : List Char
  value : List Char
  deriving DecidableEq, Repr

def isNameChar (c : Char) : Bool :=
  c.isAlphanum || c == '_' || c == '-'

/-- The text up to the next quote and what follows that quote. -/
def untilQuote? (quote : Char) (s : List Char) : Option (List Char × List Char) :=
  match s.dropWhile (· != quote) with
  | [] => none
  | _ :: rest => some (s.takeWhile (· != quote), rest)

/-- A value: between single quotes, between double quotes, or a bare word. -/
def readValue? : List Char → Option (List Char × List Char)
  | [] => none
  | '\'' :: s => untilQuote? '\'' s
  | '"' :: s => untilQuote? '"' s
  | c :: s => if isBlank c then none else some (firstWord (c :: s), afterWord (c :: s))

/-- Reads ` with <name> <value>`. -/
def readClause? (s : List Char) : Option (Clause × List Char) := do
  let s ← keyword? "with" s
  let s ← skipBlanks? s
  let name := s.takeWhile isNameChar
  guard (name ≠ [])
  let s ← skipBlanks? (s.dropWhile isNameChar)
  let (value, rest) ← readValue? s
  return (⟨name, value⟩, rest)

/-! ### A clause takes something away -/

theorem length_dropPrefix?_le {word s rest : List Char} (h : dropPrefix? word s = some rest) :
    rest.length ≤ s.length := by
  fun_induction dropPrefix? word s with
  | case1 => simp_all
  | case2 => simp at h
  | case3 c word s ih => have := ih h; simp; omega
  | case4 => simp at h

theorem length_dropWhile_le (p : Char → Bool) (s : List Char) :
    (s.dropWhile p).length ≤ s.length :=
  (List.dropWhile_suffix p).length_le

theorem length_skipBlanks?_lt {s rest : List Char} (h : skipBlanks? s = some rest) :
    rest.length < s.length := by
  unfold skipBlanks? at h
  split at h
  · simp at h
  · next c s =>
    split at h
    · cases h
      have := length_dropWhile_le isBlank s
      simp only [trimStart, List.length_cons]
      omega
    · simp at h

theorem length_keyword?_lt {word : String} {s rest : List Char}
    (h : keyword? word s = some rest) : rest.length < s.length := by
  obtain ⟨t, ht, hrest⟩ := Option.bind_eq_some_iff.1 h
  have := length_skipBlanks?_lt ht
  have := length_dropPrefix?_le hrest
  omega

theorem length_untilQuote?_le {quote : Char} {s value rest : List Char}
    (h : untilQuote? quote s = some (value, rest)) : rest.length ≤ s.length := by
  have := length_dropWhile_le (· != quote) s
  unfold untilQuote? at h
  split at h
  · simp at h
  · next heq =>
    rw [heq] at this
    cases h
    simp only [List.length_cons] at this
    omega

theorem length_readValue?_le {s rest value : List Char}
    (h : readValue? s = some (value, rest)) : rest.length ≤ s.length := by
  unfold readValue? at h
  split at h
  · simp at h
  · have := length_untilQuote?_le h
    simp only [List.length_cons]
    omega
  · have := length_untilQuote?_le h
    simp only [List.length_cons]
    omega
  · split at h
    · simp at h
    · cases h
      exact length_dropWhile_le _ _

theorem length_readClause?_lt {s rest : List Char} {clause : Clause}
    (h : readClause? s = some (clause, rest)) : rest.length < s.length := by
  obtain ⟨t, ht, h⟩ := Option.bind_eq_some_iff.1 h
  obtain ⟨u, hu, h⟩ := Option.bind_eq_some_iff.1 h
  obtain ⟨_, -, h⟩ := Option.bind_eq_some_iff.1 h
  obtain ⟨v, hv, h⟩ := Option.bind_eq_some_iff.1 h
  obtain ⟨w, hw, h⟩ := Option.bind_eq_some_iff.1 h
  cases h
  have h1 := length_keyword?_lt ht
  have h2 := length_skipBlanks?_lt hu
  have h3 := length_dropWhile_le isNameChar u
  have h4 := length_skipBlanks?_lt hv
  have h5 : w.2.length ≤ v.length := length_readValue?_le hw
  omega

end ServiceProbe.Line
