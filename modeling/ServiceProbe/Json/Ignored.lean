import ServiceProbe.Json.Numeral

/-!
Values that are read only to find their end. What is open around the reader is
a stack of frames, so values may be nested to any depth.
-/

namespace ServiceProbe.Json

inductive Frame where
  | list
  | object
  deriving DecidableEq, Repr

namespace Frame

def close : Frame → Char
  | list => ']'
  | object => '\x7d'

def endFault : Frame → Cause
  | list => .endInList
  | object => .endInObject

def commaFault : Frame → Cause
  | list => .expectedCommaOrBracket
  | object => .expectedCommaOrBrace

end Frame

/-- The rest after a value that is no list and no object. -/
def skipScalar (s : List Char) : Except Fault (List Char) :=
  match s with
  | [] => .error (.next .endInValue [])
  | c :: t =>
    if c = 'n' then (readWord "ull".toList t).map (·.2)
    else if c = 't' then (readWord "rue".toList t).map (·.2)
    else if c = 'f' then (readWord "alse".toList t).map (·.2)
    else if c = '"' then skipString t
    else if c = '-' then skipNumeral t
    else if isDigit c = true then skipNumeral s
    else .error (.next .expectedValue s)

/-- The rest after the key of a member and its colon. -/
def skipKey (s : List Char) : Except Fault (List Char) :=
  match skipSpace s with
  | [] => .error (.next .endInObject [])
  | c :: t =>
    if c ≠ '"' then .error (.next .keyNotString (c :: t))
    else
      match skipString t with
      | .error e => .error e
      | .ok rest =>
        match skipSpace rest with
        | [] => .error (.next .endInObject [])
        | d :: u => if d = ':' then .ok u else .error (.next .expectedColon (d :: u))

/-! ### Lengths -/

theorem length_map_readWord_le {word s rest : List Char}
    (h : (readWord word s).map (·.2) = .ok rest) : rest.length ≤ s.length := by
  cases heq : readWord word s with
  | error e => simp [heq, Except.map] at h
  | ok result =>
    obtain ⟨_, t⟩ := result
    have := length_readWord_le heq
    simp only [heq, Except.map, Except.ok.injEq] at h
    rw [← h]
    exact this

theorem length_skipDigits_le (s : List Char) : (skipDigits s).length ≤ s.length :=
  (List.dropWhile_suffix isDigit).length_le

theorem length_skipSomeDigits_le {s rest : List Char} {fault : List Char → Fault}
    (h : skipSomeDigits s fault = .ok rest) : rest.length ≤ s.length := by
  unfold skipSomeDigits at h
  split at h
  · cases h
    exact length_skipDigits_le s
  · simp at h

theorem length_skipExponent_le {s rest : List Char} (h : skipExponent s = .ok rest) :
    rest.length ≤ s.length := by
  unfold skipExponent at h
  split at h
  · cases h
    simp
  · split at h
    · have := length_skipSomeDigits_le h
      simp only [List.length_cons]
      split at this <;> simp_all <;> omega
    · cases h
      simp

theorem length_skipNumeral_lt {s rest : List Char} (h : skipNumeral s = .ok rest) :
    rest.length < s.length := by
  unfold skipNumeral at h
  split at h
  · simp at h
  · next c t =>
    split at h
    · simp at h
    · split at h
      · have hu : (if c = '0' then t else skipDigits t).length ≤ t.length := by
          split
          · simp
          · exact length_skipDigits_le t
        simp only at h
        split at h
        · next v heq =>
          rw [heq] at hu
          cases hskip : skipSomeDigits v (.next .invalidNumber) with
          | error e => simp [hskip, Except.bind] at h
          | ok w =>
            simp only [hskip, Except.bind] at h
            have h1 := length_skipSomeDigits_le hskip
            have h2 := length_skipExponent_le h
            simp only [List.length_cons] at hu ⊢
            omega
        · have := length_skipExponent_le h
          simp only [List.length_cons]
          omega
      · simp at h

theorem length_skipScalar_lt {s rest : List Char} (h : skipScalar s = .ok rest) :
    rest.length < s.length := by
  unfold skipScalar at h
  split at h
  · simp at h
  · next c t =>
    simp only [List.length_cons]
    split at h
    · have := length_map_readWord_le h
      omega
    · split at h
      · have := length_map_readWord_le h
        omega
      · split at h
        · have := length_map_readWord_le h
          omega
        · split at h
          · have := length_skipString_lt h
            omega
          · split at h
            · have := length_skipNumeral_lt h
              omega
            · split at h
              · have := length_skipNumeral_lt h
                simpa using this
              · simp at h

theorem length_skipKey_lt {s rest : List Char} (h : skipKey s = .ok rest) :
    rest.length < s.length := by
  have h0 := length_skipSpace_le s
  unfold skipKey at h
  split at h
  · simp at h
  · next c t heq =>
    rw [heq] at h0
    split at h
    · simp at h
    · split at h
      · simp at h
      · next rest' hskip =>
        have h1 := length_skipString_lt hskip
        have h2 := length_skipSpace_le rest'
        split at h
        · simp at h
        · next d u heq2 =>
          rw [heq2] at h2
          split at h
          · cases h
            simp only [List.length_cons] at h0 h2
            omega
          · simp at h

/-! ### Nested values -/

/-- What the reader is about to do inside its frames. -/
inductive Stage where
  /-- Read a value. -/
  | value
  /-- Go on after a value, or after the opening of a frame, where no comma may
  stand. -/
  | after (comma : Bool)
  /-- Read an element of a frame that is not at its end. -/
  | element
  deriving DecidableEq, Repr

/-- How many steps without reading may come before the next character is read. -/
def Stage.rank : Stage → Nat
  | value => 0
  | element => 1
  | after _ => 2

/-- Skips values until all frames are closed. -/
def skipNested : Stage → List Frame → List Char → Except Fault (List Char)
  | .value, frames, s =>
    match _hspace : skipSpace s with
    | [] => .error (.next .endInValue [])
    | c :: t =>
      if c = '[' then skipNested (.after false) (.list :: frames) t
      else if c = '\x7b' then skipNested (.after false) (.object :: frames) t
      else
        match _hscalar : skipScalar (c :: t) with
        | .error e => .error e
        | .ok rest => skipNested (.after true) frames rest
  | .after _, [], s => .ok s
  | .after comma, frame :: frames, s =>
    match _hspace : skipSpace s with
    | [] => .error (.next frame.endFault [])
    | c :: t =>
      if c = ',' ∧ comma then skipNested .element (frame :: frames) t
      else if c = frame.close then skipNested (.after true) frames t
      else if comma then .error (.next frame.commaFault (c :: t))
      else skipNested .element (frame :: frames) (c :: t)
  | .element, frames, s =>
    match frames with
    | .object :: _ =>
      match _hkey : skipKey s with
      | .error e => .error e
      | .ok rest => skipNested .value frames rest
    | _ => skipNested .value frames s
termination_by stage _ s => (s.length, stage.rank)
decreasing_by
  all_goals
    have hle := length_skipSpace_le s
    first
    | rw [_hspace] at hle
      simp only [List.length_cons] at hle
      first
      | exact Prod.Lex.left _ _ (by omega)
      | have := length_skipScalar_lt _hscalar
        simp only [List.length_cons] at this
        exact Prod.Lex.left _ _ (by omega)
      | rcases Nat.lt_or_eq_of_le hle with hlt | heq
        · exact Prod.Lex.left _ _ (by simpa using hlt)
        · simp only [List.length_cons, heq]
          exact Prod.Lex.right _ (by simp [Stage.rank])
    | exact Prod.Lex.left _ _ (length_skipKey_lt _hkey)
    | exact Prod.Lex.right _ (by simp [Stage.rank])

/-- What follows a value. -/
def skipValue (s : List Char) : Except Fault (List Char) :=
  skipNested .value [] s

end ServiceProbe.Json
