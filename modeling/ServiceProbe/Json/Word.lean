import ServiceProbe.Json.Fault
import ServiceProbe.Net.Address

/-!
White space, words and strings of JSON texts. A reader takes a part from the
front of a text and gives back the rest. Strings are read in one of two ways:
strictly, into their characters, or only up to their end, where broken pairs of
surrogates pass.
-/

namespace ServiceProbe.Json

open Text

/-- Readers of a part of a text. -/
abbrev Read (α : Type) := List Char → Except Fault (α × List Char)

def isSpace (c : Char) : Bool := c == ' ' || c == '\t' || c == '\n' || c == '\r'

def skipSpace (s : List Char) : List Char := s.dropWhile isSpace

theorem length_skipSpace_le (s : List Char) : (skipSpace s).length ≤ s.length :=
  (List.dropWhile_suffix isSpace).length_le

/-- The rest of a word whose first letter decided for it. -/
def readWord : List Char → Read Unit
  | [], s => .ok ((), s)
  | _ :: _, [] => .error (.here .endInValue [])
  | c :: word, d :: s => if d = c then readWord word s else .error (.next .expectedWord (d :: s))

theorem length_readWord_le {word s rest : List Char} (h : readWord word s = .ok ((), rest)) :
    rest.length ≤ s.length := by
  fun_induction readWord word s with
  | case1 => simp_all
  | case2 => simp at h
  | case3 word c s ih => have := ih h; simp; omega
  | case4 => simp at h

/-! ### Escapes -/

/-- A character code of four hexadecimal digits. -/
def readHex4 (s : List Char) : Except Fault (Nat × List Char) :=
  if byteLength (s.take 4) < 4 then .error (.here .endInString [])
  else
    match s with
    | a :: b :: c :: d :: rest =>
      match Net.hexDigit? a, Net.hexDigit? b, Net.hexDigit? c, Net.hexDigit? d with
      | some a, some b, some c, some d => .ok (((a * 16 + b) * 16 + c) * 16 + d, rest)
      | _, _, _, _ => .error ⟨.invalidEscape, s, 4⟩
    | _ => .error ⟨.invalidEscape, s, 4⟩

theorem length_readHex4_lt {s rest : List Char} {n : Nat} (h : readHex4 s = .ok (n, rest)) :
    rest.length < s.length := by
  unfold readHex4 at h
  split at h
  · simp at h
  · split at h
    · split at h
      · simp only [Except.ok.injEq, Prod.mk.injEq] at h
        rw [← h.2]
        simp only [List.length_cons]
        omega
      · simp at h
    · simp at h

def isHighSurrogate (n : Nat) : Bool := 0xD800 ≤ n && n ≤ 0xDBFF

def isLowSurrogate (n : Nat) : Bool := 0xDC00 ≤ n && n ≤ 0xDFFF

/-- What follows a high surrogate: a second escape with a low one. -/
def readLowSurrogate (high : Nat) (s : List Char) : Except Fault (Char × List Char) :=
  match s with
  | [] => .error (.here .endInString [])
  | '\\' :: t =>
    match t with
    | [] => .error (.here .endInString [])
    | 'u' :: u =>
      match readHex4 u with
      | .error e => .error e
      | .ok (low, rest) =>
        if isLowSurrogate low then
          .ok (Char.ofNat (0x10000 + (high - 0xD800) * 0x400 + (low - 0xDC00)), rest)
        else .error (.here .loneSurrogate rest)
    | t => .error (.next .unfinishedSurrogate t)
  | s => .error (.next .unfinishedSurrogate s)

theorem length_readLowSurrogate_lt {high : Nat} {s rest : List Char} {c : Char}
    (h : readLowSurrogate high s = .ok (c, rest)) : rest.length < s.length := by
  unfold readLowSurrogate at h
  split at h
  · simp at h
  · split at h
    · simp at h
    · split at h
      · simp at h
      · next heq =>
        split at h
        · simp only [Except.ok.injEq, Prod.mk.injEq] at h
          have := length_readHex4_lt heq
          rw [← h.2]
          simp only [List.length_cons]
          omega
        · simp at h
    · simp at h
  · simp at h

/-- The character that an escape of one letter stands for. -/
def shortEscape? : Char → Option Char
  | '"' => some '"'
  | '\\' => some '\\'
  | '/' => some '/'
  | 'b' => some '\x08'
  | 'f' => some '\x0C'
  | 'n' => some '\n'
  | 'r' => some '\r'
  | 't' => some '\t'
  | _ => none

/-- An escape, after its backslash. -/
def readEscape (s : List Char) : Except Fault (Char × List Char) :=
  match s with
  | [] => .error (.here .endInString [])
  | c :: rest =>
    match shortEscape? c with
    | some d => .ok (d, rest)
    | none =>
      if c ≠ 'u' then .error (.next .invalidEscape s)
      else
        match readHex4 rest with
        | .error e => .error e
        | .ok (n, rest) =>
          if isHighSurrogate n then readLowSurrogate n rest
          else if isLowSurrogate n then .error (.here .loneSurrogate rest)
          else .ok (Char.ofNat n, rest)

theorem length_readEscape_lt {s rest : List Char} {c : Char}
    (h : readEscape s = .ok (c, rest)) : rest.length < s.length := by
  unfold readEscape at h
  split at h
  · simp at h
  · split at h
    · simp only [Except.ok.injEq, Prod.mk.injEq] at h
      rw [← h.2]
      simp
    · split at h
      · simp at h
      · split at h
        · simp at h
        · next heq =>
          have := length_readHex4_lt heq
          split at h
          · have := length_readLowSurrogate_lt h
            simp only [List.length_cons]
            omega
          · split at h
            · simp at h
            · simp only [Except.ok.injEq, Prod.mk.injEq] at h
              rw [← h.2]
              simp only [List.length_cons]
              omega

/-- An escape of which only the extent matters. -/
def skipEscape (s : List Char) : Except Fault (List Char) :=
  match s with
  | [] => .error (.here .endInString [])
  | c :: rest =>
    if (shortEscape? c).isSome then .ok rest
    else if c ≠ 'u' then .error (.next .invalidEscape s)
    else (readHex4 rest).map (·.2)

theorem length_skipEscape_lt {s rest : List Char} (h : skipEscape s = .ok rest) :
    rest.length < s.length := by
  unfold skipEscape at h
  split at h
  · simp at h
  · split at h
    · simp only [Except.ok.injEq] at h
      rw [← h]
      simp
    · split at h
      · simp at h
      · next t _ _ =>
        cases heq : readHex4 t with
        | error e => simp [heq, Except.map] at h
        | ok result =>
          obtain ⟨_, u⟩ := result
          have := length_readHex4_lt heq
          simp only [heq, Except.map, Except.ok.injEq] at h
          rw [← h]
          simp only [List.length_cons]
          omega

/-! ### Strings -/

/-- The characters of a string after its opening quote, those read in reverse. -/
def readString (read : List Char) : Read (List Char)
  | [] => .error (.here .endInString [])
  | c :: s =>
    if c = '"' then .ok (read.reverse, s)
    else if c = '\\' then
      match _h : readEscape s with
      | .error e => .error e
      | .ok (d, rest) => readString (d :: read) rest
    else if c.toNat < 0x20 then .error (.next .controlCharacter (c :: s))
    else readString (c :: read) s
termination_by s => s.length
decreasing_by
  · have := length_readEscape_lt _h
    simp only [List.length_cons]
    omega
  · simp

theorem length_readString_lt {read s rest value : List Char}
    (h : readString read s = .ok (value, rest)) : rest.length < s.length := by
  fun_induction readString read s with
  | case1 => simp at h
  | case2 read s =>
    simp only [Except.ok.injEq, Prod.mk.injEq] at h
    rw [← h.2]
    simp
  | case3 => simp at h
  | case4 read s d rest' hread _ ih =>
    have := ih h
    have := length_readEscape_lt hread
    simp only [List.length_cons]
    omega
  | case5 => simp at h
  | case6 read c s h1 h2 h3 ih =>
    have := ih h
    simp only [List.length_cons]
    omega

/-- What follows a string, after its opening quote. -/
def skipString : List Char → Except Fault (List Char)
  | [] => .error (.here .endInString [])
  | c :: s =>
    if c = '"' then .ok s
    else if c = '\\' then
      match _h : skipEscape s with
      | .error e => .error e
      | .ok rest => skipString rest
    else if c.toNat < 0x20 then .error (.here .controlCharacter (c :: s))
    else skipString s
termination_by s => s.length
decreasing_by
  · have := length_skipEscape_lt _h
    simp only [List.length_cons]
    omega
  · simp

theorem length_skipString_lt {s rest : List Char} (h : skipString s = .ok rest) :
    rest.length < s.length := by
  fun_induction skipString s with
  | case1 => simp at h
  | case2 s =>
    simp only [Except.ok.injEq] at h
    rw [← h]
    simp
  | case3 => simp at h
  | case4 s rest' hskip _ ih =>
    have := ih h
    have := length_skipEscape_lt hskip
    simp only [List.length_cons]
    omega
  | case5 => simp at h
  | case6 c s h1 h2 h3 ih =>
    have := ih h
    simp only [List.length_cons]
    omega

end ServiceProbe.Json
