import ServiceProbe.Proofs.Json.Numerals
import ServiceProbe.Proofs.Json.Strings

/-!
JSON values, and that passing over one ends where it ends. A value may be nested
to any depth; the reader keeps the brackets that are open on a stack of its own,
so a value inside a list or an object is passed over like one that stands alone,
with the bracket around it still on the stack.
-/

namespace ServiceProbe.Json

open Text

/-! ### The grammar -/

/-- White space of JSON texts, any amount of it. -/
def Spaces (w : List Char) : Prop := ∀ c ∈ w, isSpace c = true

theorem spaces_nil : Spaces [] := List.forall_mem_nil _

/-- The parts of a text that the grammar has names for. -/
inductive Part where
  | value
  /-- One element of a list or more, with commas between them. -/
  | elements
  /-- One member of an object or more. -/
  | members
  deriving DecidableEq, Repr

def words : List (List Char) := ["null".toList, "true".toList, "false".toList]

inductive Valid : Part → List Char → Prop where
  | word {w : List Char} (h : w ∈ words) : Valid .value w
  | string {body : List Char} (h : Loose body) : Valid .value (quotedText body)
  | number {l : Literal} (h : l.WellFormed) : Valid .value l.text
  | emptyList {w : List Char} (hw : Spaces w) : Valid .value ('[' :: (w ++ [']']))
  | list {s : List Char} (h : Valid .elements s) : Valid .value ('[' :: (s ++ [']']))
  | emptyObject {w : List Char} (hw : Spaces w) : Valid .value ('\x7b' :: (w ++ ['\x7d']))
  | object {s : List Char} (h : Valid .members s) : Valid .value ('\x7b' :: (s ++ ['\x7d']))
  | element {w v w' : List Char} (hw : Spaces w) (hv : Valid .value v) (hw' : Spaces w') :
      Valid .elements (w ++ (v ++ w'))
  | elements {w v w' s : List Char} (hw : Spaces w) (hv : Valid .value v) (hw' : Spaces w')
      (h : Valid .elements s) : Valid .elements (w ++ (v ++ (w' ++ ',' :: s)))
  | member {w key w₁ w₂ v w' : List Char} (hw : Spaces w) (hkey : Loose key) (hw₁ : Spaces w₁)
      (hw₂ : Spaces w₂) (hv : Valid .value v) (hw' : Spaces w') :
      Valid .members (w ++ (quotedText key ++ (w₁ ++ ':' :: (w₂ ++ (v ++ w')))))
  | members {w key w₁ w₂ v w' s : List Char} (hw : Spaces w) (hkey : Loose key) (hw₁ : Spaces w₁)
      (hw₂ : Spaces w₂) (hv : Valid .value v) (hw' : Spaces w') (h : Valid .members s) :
      Valid .members
        (w ++ (quotedText key ++ (w₁ ++ ':' :: (w₂ ++ (v ++ (w' ++ ',' :: s))))))

/-! ### Spaces -/

section Space

variable {w rest : List Char}

theorem skipSpace_append (hw : Spaces w) (hrest : Stops isSpace rest) :
    skipSpace (w ++ rest) = rest :=
  dropWhile_append_of_stops hw hrest

theorem skipSpace_append_cons (hw : Spaces w) {c : Char} (hc : isSpace c = false) (s : List Char) :
    skipSpace (w ++ c :: s) = c :: s :=
  skipSpace_append hw (stops_cons.2 hc)

theorem skipSpace_skipSpace (s : List Char) : skipSpace (skipSpace s) = skipSpace s := by
  have h := skipSpace_append (w := []) spaces_nil (stops_dropWhile isSpace s)
  exact h

/-- Spaces end a number. -/
theorem stops_continues (hw : Spaces w) (hrest : Stops continues rest) :
    Stops continues (w ++ rest) := by
  cases w with
  | nil => exact hrest
  | cons c w =>
    have hc := hw c (by simp)
    simp only [isSpace, Bool.or_eq_true, beq_iff_eq] at hc
    refine stops_cons.2 ?_
    rcases hc with ((rfl | rfl) | rfl) | rfl <;> decide

end Space

/-! ### Scalars -/

theorem readWord_append (word rest : List Char) :
    readWord word (word ++ rest) = .ok ((), rest) := by
  induction word with
  | nil => cases rest <;> rfl
  | cons c word ih => rw [List.cons_append, readWord, if_pos rfl, ih]

/-- A number begins with its sign or with a digit. -/
theorem Literal.WellFormed.text_eq_cons {l : Literal} (hl : l.WellFormed) :
    ∃ c t, l.text = c :: t ∧ (c = '-' ∧ l.isNegative = true ∧ t = l.unsigned ∨
      c.isDigit = true ∧ l.isNegative = false ∧ c :: t = l.unsigned) := by
  unfold Literal.text
  cases hsign : l.isNegative with
  | true => exact ⟨'-', l.unsigned, rfl, .inl ⟨rfl, rfl, rfl⟩⟩
  | false =>
    obtain ⟨c, s, hs⟩ : ∃ c s, l.whole = c :: s := by
      refine List.exists_cons_of_ne_nil ?_
      rcases hl.leading with h | h
      · rw [h]
        simp
      · exact h.1
    have hunsigned : l.unsigned = c :: (s ++ (l.fractionText ++ l.exponentText)) := by
      rw [Literal.unsigned, hs, List.cons_append]
    exact ⟨c, _, hunsigned, .inr ⟨hl.whole c (by simp [hs]), rfl, hunsigned.symm⟩⟩

/-- The characters that a value may begin with. -/
def startsValue (c : Char) : Bool :=
  c == '"' || c == '-' || c.isDigit || c == '[' || c == '\x7b' || c == 'n' || c == 't' || c == 'f'

theorem Valid.head {v : List Char} (h : Valid .value v) :
    ∃ c t, v = c :: t ∧ startsValue c = true := by
  cases h with
  | word h =>
    simp only [words, List.mem_cons, List.not_mem_nil, or_false] at h
    rcases h with rfl | rfl | rfl
    · exact ⟨'n', _, rfl, rfl⟩
    · exact ⟨'t', _, rfl, rfl⟩
    · exact ⟨'f', _, rfl, rfl⟩
  | string h => exact ⟨'"', _, rfl, rfl⟩
  | number h =>
    obtain ⟨c, t, heq, ⟨rfl, -⟩ | ⟨hc, -⟩⟩ := h.text_eq_cons
    · exact ⟨'-', t, heq, rfl⟩
    · exact ⟨c, t, heq, by simp [startsValue, hc]⟩
  | emptyList => exact ⟨'[', _, rfl, rfl⟩
  | list => exact ⟨'[', _, rfl, rfl⟩
  | emptyObject => exact ⟨'\x7b', _, rfl, rfl⟩
  | object => exact ⟨'\x7b', _, rfl, rfl⟩

theorem isSpace_of_startsValue {c : Char} (h : startsValue c = true) : isSpace c = false := by
  by_contra hspace
  simp only [Bool.not_eq_false, isSpace, Bool.or_eq_true, beq_iff_eq] at hspace
  rcases hspace with ((rfl | rfl) | rfl) | rfl <;> revert h <;> decide

theorem skipScalar_number {l : Literal} (hl : l.WellFormed) {rest : List Char}
    (hrest : Stops continues rest) : skipScalar (l.text ++ rest) = .ok rest := by
  have hskip := skipNumeral_unsigned hl hrest
  obtain ⟨c, t, heq, ⟨rfl, -, rfl⟩ | ⟨hc, -, hunsigned⟩⟩ := hl.text_eq_cons
  · rw [heq]
    exact hskip
  · have hother : c ≠ 'n' ∧ c ≠ 't' ∧ c ≠ 'f' ∧ c ≠ '"' ∧ c ≠ '-' := by
      refine ⟨?_, ?_, ?_, ?_, ?_⟩ <;> rintro rfl <;> revert hc <;> decide
    obtain ⟨hn, ht, hf, hq, hm⟩ := hother
    rw [heq, List.cons_append, skipScalar, if_neg hn, if_neg ht, if_neg hf, if_neg hq, if_neg hm,
      if_pos (by rw [isDigit_eq, hc]), ← List.cons_append, hunsigned, hskip]

theorem skipScalar_string {body : List Char} (h : Loose body) (rest : List Char) :
    skipScalar (quotedText body ++ rest) = .ok rest := by
  have hskip := skipString_append h rest
  rw [quotedText, List.cons_append, List.append_assoc, List.singleton_append, skipScalar,
    if_neg (by decide), if_neg (by decide), if_neg (by decide), if_pos rfl, hskip]

theorem skipScalar_word {w : List Char} (h : w ∈ words) (rest : List Char) :
    skipScalar (w ++ rest) = .ok rest := by
  simp only [words, List.mem_cons, List.not_mem_nil, or_false] at h
  rcases h with rfl | rfl | rfl
  · exact congrArg (Except.map Prod.snd) (readWord_append "ull".toList rest)
  · exact congrArg (Except.map Prod.snd) (readWord_append "rue".toList rest)
  · exact congrArg (Except.map Prod.snd) (readWord_append "alse".toList rest)

/-! ### Nested values -/

section Nested

variable {frames : List Frame}

theorem skipNested_scalar {c : Char} {s t rest : List Char} (hs : skipSpace s = c :: t)
    (hlist : c ≠ '[') (hobject : c ≠ '\x7b') (h : skipScalar (c :: t) = .ok rest) :
    skipNested .value frames s = skipNested (.after true) frames rest := by
  rw [skipNested]
  split
  · next heq =>
    rw [hs] at heq
    cases heq
  · next heq =>
    rw [hs] at heq
    cases heq
    rw [if_neg hlist, if_neg hobject]
    split
    · next heq =>
      rw [h] at heq
      cases heq
    · next heq =>
      rw [h] at heq
      cases heq
      rfl

theorem skipNested_openList {s t : List Char} (hs : skipSpace s = '[' :: t) :
    skipNested .value frames s = skipNested (.after false) (.list :: frames) t := by
  rw [skipNested]
  split
  · next heq =>
    rw [hs] at heq
    cases heq
  · next heq =>
    rw [hs] at heq
    cases heq
    rw [if_pos rfl]

theorem skipNested_openObject {s t : List Char} (hs : skipSpace s = '\x7b' :: t) :
    skipNested .value frames s = skipNested (.after false) (.object :: frames) t := by
  rw [skipNested]
  split
  · next heq =>
    rw [hs] at heq
    cases heq
  · next heq =>
    rw [hs] at heq
    cases heq
    rw [if_neg (by decide), if_pos rfl]

theorem skipNested_close {s t : List Char} {frame : Frame} (comma : Bool)
    (hs : skipSpace s = frame.close :: t) :
    skipNested (.after comma) (frame :: frames) s = skipNested (.after true) frames t := by
  have hcomma : frame.close ≠ ',' := by cases frame <;> decide
  rw [skipNested]
  split
  · next heq =>
    rw [hs] at heq
    cases heq
  · next heq =>
    rw [hs] at heq
    cases heq
    rw [if_neg (fun h => hcomma h.1), if_pos rfl]

theorem skipNested_comma {s t : List Char} {frame : Frame} (hs : skipSpace s = ',' :: t) :
    skipNested (.after true) (frame :: frames) s = skipNested .element (frame :: frames) t := by
  rw [skipNested]
  split
  · next heq =>
    rw [hs] at heq
    cases heq
  · next heq =>
    rw [hs] at heq
    cases heq
    rw [if_pos ⟨rfl, rfl⟩]

/-- After an opening bracket an element begins, if the bracket is not closed at
once. -/
theorem skipNested_first {s t : List Char} {c : Char} {frame : Frame} (hs : skipSpace s = c :: t)
    (hc : c ≠ frame.close) :
    skipNested (.after false) (frame :: frames) s =
      skipNested .element (frame :: frames) (c :: t) := by
  rw [skipNested]
  split
  · next heq =>
    rw [hs] at heq
    cases heq
  · next heq =>
    rw [hs] at heq
    cases heq
    rw [if_neg (by simp), if_neg hc, if_neg (by decide)]

theorem skipNested_element_list (s : List Char) :
    skipNested .element (.list :: frames) s = skipNested .value (.list :: frames) s := by
  conv_lhs =>
    rw [skipNested]
    · skip
    · tactic => simp

theorem skipNested_element_object {s rest : List Char} (h : skipKey s = .ok rest) :
    skipNested .element (.object :: frames) s = skipNested .value (.object :: frames) rest := by
  conv_lhs => rw [skipNested]
  split
  · next heq =>
    rw [h] at heq
    cases heq
  · next heq =>
    rw [h] at heq
    cases heq
    rfl

theorem skipKey_eq {s key w rest : List Char} (hkey : Loose key) (hw : Spaces w)
    (hs : skipSpace s = quotedText key ++ (w ++ ':' :: rest)) : skipKey s = .ok rest := by
  have hskip := skipString_append hkey (w ++ ':' :: rest)
  have hcolon : skipSpace (w ++ ':' :: rest) = ':' :: rest :=
    skipSpace_append_cons hw (by decide) rest
  rw [quotedText, List.cons_append, List.append_assoc, List.singleton_append] at hs
  rw [skipKey, hs]
  simp only [ne_eq, not_true_eq_false, if_false, hskip, hcolon, if_true]

/-- What passing over each part comes to, whatever brackets are open around it. -/
def Passes : Part → List Char → Prop
  | .value, v => ∀ frames s rest, Stops continues rest → skipSpace s = v ++ rest →
      skipNested .value frames s = skipNested (.after true) frames rest
  | .elements, es => ∀ frames s rest, skipSpace s = skipSpace (es ++ ']' :: rest) →
      skipNested .element (.list :: frames) s = skipNested (.after true) frames rest
  | .members, ms => ∀ frames s rest, skipSpace s = skipSpace (ms ++ '\x7d' :: rest) →
      skipNested .element (.object :: frames) s = skipNested (.after true) frames rest

theorem passes_scalar {v : List Char} (h : Valid .value v) (hlist : v.head? ≠ some '[')
    (hobject : v.head? ≠ some '\x7b')
    (hskip : ∀ rest, Stops continues rest → skipScalar (v ++ rest) = .ok rest) :
    Passes .value v := by
  intro frames s rest hrest hs
  obtain ⟨c, t, rfl, hc⟩ := h.head
  refine skipNested_scalar hs ?_ ?_ (hskip rest hrest)
  · simpa using hlist
  · simpa using hobject

/-- The first character after the white space before an element or a member. -/
theorem Valid.first {part : Part} {s : List Char} (h : Valid part s) (hpart : part ≠ .value)
    (rest : List Char) : ∃ c t, skipSpace (s ++ rest) = c :: t ∧ startsValue c = true := by
  cases h with
  | element hw hv hw' =>
    obtain ⟨c, t, rfl, hc⟩ := hv.head
    rw [List.append_assoc, List.append_assoc, List.cons_append]
    exact ⟨c, _, skipSpace_append_cons hw (isSpace_of_startsValue hc) _, hc⟩
  | elements hw hv hw' h =>
    obtain ⟨c, t, rfl, hc⟩ := hv.head
    rw [List.append_assoc, List.append_assoc, List.cons_append]
    exact ⟨c, _, skipSpace_append_cons hw (isSpace_of_startsValue hc) _, hc⟩
  | member hw =>
    rw [List.append_assoc]
    exact ⟨'"', _, skipSpace_append_cons hw (by decide) _, rfl⟩
  | members hw =>
    rw [List.append_assoc]
    exact ⟨'"', _, skipSpace_append_cons hw (by decide) _, rfl⟩
  | _ => exact absurd rfl hpart

/-- Nothing but white space before a closing bracket or a comma ends a number. -/
theorem stops_spaces_cons {w : List Char} (hw : Spaces w) {c : Char} (hc : continues c = false)
    (s : List Char) : Stops continues (w ++ c :: s) :=
  stops_continues hw (stops_cons.2 hc)

theorem Valid.passes {part : Part} {s : List Char} (h : Valid part s) : Passes part s := by
  induction h with
  | word h =>
    refine passes_scalar (.word h) ?_ ?_ fun rest _ => skipScalar_word h rest <;>
    · simp only [words, List.mem_cons, List.not_mem_nil, or_false] at h
      rcases h with rfl | rfl | rfl <;> decide
  | string h =>
    exact passes_scalar (.string h) (by simp [quotedText]) (by simp [quotedText])
      fun rest _ => skipScalar_string h rest
  | number h =>
    obtain ⟨c, t, heq, hc⟩ := h.text_eq_cons
    refine passes_scalar (.number h) ?_ ?_ fun rest hrest => skipScalar_number h hrest <;>
    · rw [heq]
      rcases hc with ⟨rfl, -⟩ | ⟨hc, -⟩
      · simp
      · simp only [List.head?_cons, ne_eq, Option.some.injEq]
        rintro rfl
        revert hc
        decide
  | @emptyList w hw =>
    intro frames s rest _ hs
    have hclose : skipSpace (w ++ ']' :: rest) = Frame.list.close :: rest :=
      skipSpace_append_cons hw (by decide) rest
    rw [List.cons_append, List.append_assoc] at hs
    rw [skipNested_openList hs, List.singleton_append, skipNested_close false hclose]
  | @list es h ih =>
    intro frames s rest _ hs
    obtain ⟨c, t, hfirst, hc⟩ := h.first (by decide) (']' :: rest)
    rw [List.cons_append, List.append_assoc] at hs
    have hskip : skipSpace (c :: t) = skipSpace (es ++ ']' :: rest) := by
      rw [← hfirst, skipSpace_skipSpace]
    rw [skipNested_openList hs, List.singleton_append,
      skipNested_first hfirst (by rintro rfl; revert hc; decide), ih frames _ rest hskip]
  | @emptyObject w hw =>
    intro frames s rest _ hs
    have hclose : skipSpace (w ++ '\x7d' :: rest) = Frame.object.close :: rest :=
      skipSpace_append_cons hw (by decide) rest
    rw [List.cons_append, List.append_assoc] at hs
    rw [skipNested_openObject hs, List.singleton_append, skipNested_close false hclose]
  | @object ms h ih =>
    intro frames s rest _ hs
    obtain ⟨c, t, hfirst, hc⟩ := h.first (by decide) ('\x7d' :: rest)
    rw [List.cons_append, List.append_assoc] at hs
    have hskip : skipSpace (c :: t) = skipSpace (ms ++ '\x7d' :: rest) := by
      rw [← hfirst, skipSpace_skipSpace]
    rw [skipNested_openObject hs, List.singleton_append,
      skipNested_first hfirst (by rintro rfl; revert hc; decide), ih frames _ rest hskip]
  | @element w v w' hw hv hw' ih =>
    intro frames s rest hs
    obtain ⟨c, t, rfl, hc⟩ := hv.head
    have hvalue : skipSpace s = c :: t ++ (w' ++ ']' :: rest) := by
      rw [hs, List.append_assoc, List.append_assoc, List.cons_append]
      exact skipSpace_append_cons hw (isSpace_of_startsValue hc) _
    have hclose : skipSpace (w' ++ ']' :: rest) = Frame.list.close :: rest :=
      skipSpace_append_cons hw' (by decide) rest
    rw [skipNested_element_list, ih _ s _ (stops_spaces_cons hw' (by decide) rest) hvalue,
      skipNested_close true hclose]
  | @elements w v w' es hw hv hw' h ihv ih =>
    intro frames s rest hs
    obtain ⟨c, t, rfl, hc⟩ := hv.head
    have hvalue : skipSpace s = c :: t ++ (w' ++ ',' :: (es ++ ']' :: rest)) := by
      rw [hs]
      simp only [List.append_assoc, List.cons_append]
      exact skipSpace_append_cons hw (isSpace_of_startsValue hc) _
    have hcomma : skipSpace (w' ++ ',' :: (es ++ ']' :: rest)) = ',' :: (es ++ ']' :: rest) :=
      skipSpace_append_cons hw' (by decide) _
    rw [skipNested_element_list, ihv _ s _ (stops_spaces_cons hw' (by decide) _) hvalue,
      skipNested_comma hcomma, ih frames _ rest rfl]
  | @member w key w₁ w₂ v w' hw hkey hw₁ hw₂ hv hw' ih =>
    intro frames s rest hs
    obtain ⟨c, t, rfl, hc⟩ := hv.head
    have hspace : skipSpace s =
        quotedText key ++ (w₁ ++ ':' :: (w₂ ++ (c :: t ++ (w' ++ '\x7d' :: rest)))) := by
      rw [hs]
      simp only [List.append_assoc, List.cons_append]
      exact skipSpace_append_cons hw (by decide) _
    have hvalue : skipSpace (w₂ ++ (c :: t ++ (w' ++ '\x7d' :: rest))) =
        c :: t ++ (w' ++ '\x7d' :: rest) :=
      skipSpace_append_cons hw₂ (isSpace_of_startsValue hc) _
    have hclose : skipSpace (w' ++ '\x7d' :: rest) = Frame.object.close :: rest :=
      skipSpace_append_cons hw' (by decide) rest
    rw [skipNested_element_object (skipKey_eq hkey hw₁ hspace),
      ih _ _ _ (stops_spaces_cons hw' (by decide) rest) hvalue, skipNested_close true hclose]
  | @members w key w₁ w₂ v w' ms hw hkey hw₁ hw₂ hv hw' h ihv ih =>
    intro frames s rest hs
    obtain ⟨c, t, rfl, hc⟩ := hv.head
    have hspace : skipSpace s = quotedText key ++
        (w₁ ++ ':' :: (w₂ ++ (c :: t ++ (w' ++ ',' :: (ms ++ '\x7d' :: rest))))) := by
      rw [hs]
      simp only [List.append_assoc, List.cons_append]
      exact skipSpace_append_cons hw (by decide) _
    have hvalue : skipSpace (w₂ ++ (c :: t ++ (w' ++ ',' :: (ms ++ '\x7d' :: rest)))) =
        c :: t ++ (w' ++ ',' :: (ms ++ '\x7d' :: rest)) :=
      skipSpace_append_cons hw₂ (isSpace_of_startsValue hc) _
    have hcomma : skipSpace (w' ++ ',' :: (ms ++ '\x7d' :: rest)) =
        ',' :: (ms ++ '\x7d' :: rest) :=
      skipSpace_append_cons hw' (by decide) _
    rw [skipNested_element_object (skipKey_eq hkey hw₁ hspace),
      ihv _ _ _ (stops_spaces_cons hw' (by decide) _) hvalue, skipNested_comma hcomma,
      ih frames _ rest rfl]

/-- Passing over a value ends where it ends. -/
theorem skipValue_append {w v rest : List Char} (hw : Spaces w) (hv : Valid .value v)
    (hrest : Stops continues rest) : skipValue (w ++ (v ++ rest)) = .ok rest := by
  obtain ⟨c, t, rfl, hc⟩ := hv.head
  have hs := skipSpace_append_cons hw (isSpace_of_startsValue hc) (t ++ rest)
  rw [skipValue, List.cons_append, hv.passes [] _ rest hrest hs, skipNested]

end Nested

end ServiceProbe.Json
