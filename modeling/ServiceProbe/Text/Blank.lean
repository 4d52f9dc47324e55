/-!
White space and the trimming of text. A character is blank when it has the
Unicode property White_Space: the 25 code points listed in `isBlank`. Lines,
durations and targets are all trimmed and divided by this one class.
-/

namespace ServiceProbe.Text

/-- The Unicode property White_Space. -/
def isBlank (c : Char) : Bool :=
  let n := c.toNat
  (0x09 ≤ n && n ≤ 0x0D) || n == 0x20 || n == 0x85 || n == 0xA0 || n == 0x1680 ||
    (0x2000 ≤ n && n ≤ 0x200A) || n == 0x2028 || n == 0x2029 || n == 0x202F ||
    n == 0x205F || n == 0x3000

theorem isBlank_of_isWhitespace {c : Char} (h : c.isWhitespace = true) : isBlank c = true := by
  simp only [Char.isWhitespace, Bool.or_eq_true, decide_eq_true_eq] at h
  rcases h with ((rfl | rfl) | rfl) | rfl <;> decide

def trimStart (s : List Char) : List Char :=
  s.dropWhile isBlank

def trimEnd (s : List Char) : List Char :=
  (s.reverse.dropWhile isBlank).reverse

def trim (s : List Char) : List Char :=
  trimEnd (trimStart s)

/-- The leading run of characters that are not blank. -/
def firstWord (s : List Char) : List Char :=
  s.takeWhile fun c => !isBlank c

/-- What follows that run. -/
def afterWord (s : List Char) : List Char :=
  s.dropWhile fun c => !isBlank c

@[simp] theorem firstWord_append_afterWord (s : List Char) : firstWord s ++ afterWord s = s :=
  List.takeWhile_append_dropWhile

theorem not_isBlank_of_mem_firstWord {c : Char} {s : List Char} (h : c ∈ firstWord s) :
    isBlank c = false := by
  have := List.all_takeWhile (p := fun c => !isBlank c) (l := s)
  simpa using List.all_eq_true.1 this c h

/-- The first word of a text, blanks before it aside. -/
def leadingWord? (s : List Char) : Option (List Char) :=
  match firstWord (trimStart s) with
  | [] => none
  | word => some word

end ServiceProbe.Text
