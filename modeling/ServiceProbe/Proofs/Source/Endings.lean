import ServiceProbe.Proofs.Source.Numbering

/-!
Lines on their own. A line says the same with a carriage return at its end, so it does
not matter how lines end. And it says the same after any other lines, in which only its
number changes, so a source yields what its lines yield, one after the other.
-/

namespace ServiceProbe

open Text

/-- What ends a line. -/
inductive LineEnd where
  | feed
  | returnFeed
  deriving DecidableEq, Repr

def LineEnd.bytes : LineEnd → Bytes
  | feed => [lineFeed]
  | returnFeed => [carriageReturn, lineFeed]

/-- Lines and their ends as one content. The last line has its end only if the content
is terminated. -/
def joinLines (terminated : Bool) : List (Bytes × LineEnd) → Bytes
  | [] => []
  | [(line, ending)] => if terminated then line ++ ending.bytes else line
  | (line, ending) :: next :: lines => line ++ ending.bytes ++ joinLines terminated (next :: lines)

/-- The error without the number of its line. -/
def ParseError.unnumbered : ParseError → ParseError
  | inLine _ fault => inLine 0 fault
  | read source error => read source error

/-- Results with the numbers of lines left out. -/
def unnumbered (results : List (Except ParseError Test)) : List (Except ParseError Test) :=
  results.map (Except.mapError ParseError.unnumbered)

namespace Parser

variable {registry : Registry} {source : String} {number : Nat} {line : Bytes}

/-! ### Ends of lines -/

/-- A line is read for its trimmed text. -/
theorem yielded_congr {line' : Bytes} (h : (decode? line).map trim = (decode? line').map trim) :
    yielded registry source number line = yielded registry source number line' := by
  cases hdecode : decode? line with
  | none =>
    rw [hdecode, Option.map_none, eq_comm, Option.map_eq_none_iff] at h
    rw [yielded_of_decode?_eq_none hdecode, yielded_of_decode?_eq_none h]
  | some text =>
    rw [hdecode, Option.map_some, eq_comm, Option.map_eq_some_iff] at h
    obtain ⟨text', hdecode', htrim⟩ := h
    rw [yielded_of_decode? hdecode, yielded_of_decode? hdecode', parseLine_fst, parseLine_fst,
      String.toList_ofList, String.toList_ofList, htrim]

theorem yielded_append_return :
    yielded registry source number (line ++ [carriageReturn]) =
      yielded registry source number line := by
  apply yielded_congr
  have htrim (text : List Char) : trim (text ++ ['\r']) = trim text :=
    trim_append_of_blank (List.forall_mem_singleton.2 (by decide)) text
  rw [decode?_append_return, Option.map_map, (funext htrim : trim ∘ (· ++ ['\r']) = trim)]

theorem yielded_dropReturn :
    yielded registry source number (dropReturn line) = yielded registry source number line := by
  rcases List.eq_nil_or_concat line with rfl | ⟨start, b, rfl⟩
  · rfl
  · rw [List.concat_eq_append, dropReturn, List.getLast?_concat]
    dsimp only
    split
    · next hb =>
      rw [hb, List.dropLast_concat, yielded_append_return]
    · rfl

theorem testsFrom_ended (h : lineFeed ∉ line) (ending : LineEnd) (rest : Bytes) :
    (fresh.testsFrom registry source number (splitLines (line ++ ending.bytes ++ rest))).1 =
      (fresh.testsFrom registry source number (line :: splitLines rest)).1 := by
  cases ending with
  | feed =>
    have hcontent : line ++ LineEnd.feed.bytes ++ rest = line ++ lineFeed :: rest := by
      simp [LineEnd.bytes]
    rw [hcontent, splitLines_append h, testsFrom_cons, testsFrom_cons, yielded_dropReturn]
  | returnFeed =>
    have hcontent : line ++ LineEnd.returnFeed.bytes ++ rest =
        line ++ [carriageReturn] ++ lineFeed :: rest := by
      simp [LineEnd.bytes]
    have hreturn : lineFeed ∉ line ++ [carriageReturn] := by
      rw [List.mem_append, not_or]
      exact ⟨h, by decide⟩
    rw [hcontent, splitLines_append hreturn, testsFrom_cons, testsFrom_cons,
      yielded_dropReturn, yielded_append_return]

/-- A line without an end, which may be empty and is no line then. -/
theorem testsFrom_unended (h : lineFeed ∉ line) :
    (fresh.testsFrom registry source number (splitLines line)).1 =
      (fresh.testsFrom registry source number [line]).1 := by
  by_cases hne : line = []
  · have hskipped : isSkipped [] = true := by decide
    rw [hne, testsFrom_cons, yielded_of_isSkipped hskipped, splitLines_nil]
    rfl
  · rw [splitLines_of_not_mem hne h]

theorem testsFrom_joinLines {lines : List (Bytes × LineEnd)}
    (h : ∀ line ∈ lines, lineFeed ∉ line.1) (terminated : Bool) :
    (fresh.testsFrom registry source number (splitLines (joinLines terminated lines))).1 =
      (fresh.testsFrom registry source number (lines.map (·.1))).1 := by
  fun_induction joinLines terminated lines generalizing number with
  | case1 => rw [splitLines_nil, List.map_nil]
  | case2 line ending hterminated =>
    have hline : lineFeed ∉ line := h (line, ending) (List.mem_singleton_self _)
    rw [← List.append_nil (line ++ ending.bytes), testsFrom_ended hline, splitLines_nil,
      List.map_singleton]
  | case3 line ending hterminated =>
    exact testsFrom_unended (h (line, ending) (List.mem_singleton_self _))
  | case4 line ending next lines ih =>
    obtain ⟨hline, hlines⟩ := List.forall_mem_cons.1 h
    rw [testsFrom_ended hline, testsFrom_cons, ih hlines]
    exact (testsFrom_cons registry source number line _).symm

/-! ### Numbers of lines -/

theorem unnumbered_yielded :
    unnumbered (yielded registry source number line).1.toList =
      unnumbered (yielded registry source 0 line).1.toList := by
  cases hdecode : decode? line with
  | none => rw [yielded_of_decode?_eq_none hdecode, yielded_of_decode?_eq_none hdecode]
  | some text =>
    rw [yielded_of_decode? hdecode, yielded_of_decode? hdecode, parseLine_fst, parseLine_fst]
    cases lineResult (fun protocol => (fresh.schema registry protocol).1)
        (trim (String.ofList text).toList) with
    | ok result => rfl
    | error fault => rfl

theorem unnumbered_testsFrom (lines : List Bytes) :
    unnumbered (fresh.testsFrom registry source number lines).1 =
      lines.flatMap fun line => unnumbered (yielded registry source 0 line).1.toList := by
  induction lines generalizing number with
  | nil => rfl
  | cons line lines ih =>
    rw [testsFrom_cons, unnumbered, List.map_append, List.flatMap_cons]
    exact congrArg₂ _ unnumbered_yielded ih

/-! ### One line alone -/

theorem tests_line (h : lineFeed ∉ line) :
    (fresh.tests registry line source).1 = (yielded registry source 0 line).1.toList := by
  rw [tests, testsFrom_unended h, testsFrom_cons]
  exact List.append_nil _

/-- A line that can be read and not parsed has its fault. -/
theorem exists_hasFault_of_isFaulty (h : registry.IsFaulty line) (htext : isText line = true) :
    ∃ fault, registry.HasFault line fault := by
  obtain ⟨e, he⟩ := yielded_of_isFaulty h "" 0
  obtain ⟨text, hdecode⟩ := Option.isSome_iff_exists.1 htext
  rw [yielded_of_decode? hdecode] at he
  split at he
  · next result hparse =>
    rcases result with _ | test <;> cases he
  · next e' hparse =>
    obtain ⟨fault, -, hresult⟩ := parseLine_fst_eq_error_iff.1 hparse
    rw [String.toList_ofList] at hresult
    exact ⟨fault, hasFault_iff.2 ⟨text, hdecode, hresult⟩⟩

/-- A line read alone gives nothing if it is blank or a comment. Otherwise it gives one
result: that it cannot be read, or its test, or what is wrong with it. -/
theorem tests_line_cases (registry : Registry) (source : String) {line : Bytes}
    (h : lineFeed ∉ line) :
    (isSkipped line = true → (fresh.tests registry line source).1 = []) ∧
    (isText line = false →
      (fresh.tests registry line source).1 = [.error (.read source .notUtf8)]) ∧
    (isText line = true → isSkipped line = false →
      (∃ test, registry.testOf? line = some test ∧
        (fresh.tests registry line source).1 = [.ok test]) ∨
      ∃ fault, registry.HasFault line fault ∧
        (fresh.tests registry line source).1 = [.error (.inLine 1 fault)]) := by
  rw [tests_line h]
  refine ⟨?_, ?_, ?_⟩
  · intro hskipped
    rw [yielded_of_isSkipped hskipped]
    rfl
  · intro htext
    have hdecode : decode? line = none := by simpa [isText] using htext
    rw [yielded_of_decode?_eq_none hdecode]
    rfl
  · intro htext hkept
    cases htest : registry.testOf? line with
    | some test =>
      rw [yielded_of_testOf? htest]
      exact .inl ⟨test, rfl, rfl⟩
    | none =>
      obtain ⟨fault, hfault⟩ := exists_hasFault_of_isFaulty ⟨hkept, htest⟩ htext
      rw [yielded_eq_inLine_iff.2 ⟨rfl, hfault⟩]
      exact .inr ⟨fault, hfault, rfl⟩

/-- Whatever was read before and however the lines end, a content yields what its lines
yield, each read alone, up to the numbers of lines: nothing for a blank line or a
comment, and one result for any other line. With other ends of lines not even a number
changes. -/
theorem lines_stand_alone (registry : Registry) (history : List String) (source : String)
    {lines : List (Bytes × LineEnd)} (h : ∀ line ∈ lines, lineFeed ∉ line.1)
    (terminated : Bool) :
    unnumbered
        ((fresh.after registry history).tests registry (joinLines terminated lines) source).1 =
      (lines.flatMap fun line => unnumbered (fresh.tests registry line.1 source).1) ∧
    (∀ (lines' : List (Bytes × LineEnd)) (terminated' : Bool),
      lines'.map (·.1) = lines.map (·.1) →
        ((fresh.after registry history).tests registry (joinLines terminated' lines') source).1 =
          ((fresh.after registry history).tests registry (joinLines terminated lines) source).1) ∧
    ∀ line ∈ lines,
      (isSkipped line.1 = true → (fresh.tests registry line.1 source).1 = []) ∧
      (isText line.1 = false →
        (fresh.tests registry line.1 source).1 = [.error (.read source .notUtf8)]) ∧
      (isText line.1 = true → isSkipped line.1 = false →
        (∃ test, registry.testOf? line.1 = some test ∧
          (fresh.tests registry line.1 source).1 = [.ok test]) ∨
        ∃ fault, registry.HasFault line.1 fault ∧
          (fresh.tests registry line.1 source).1 = [.error (.inLine 1 fault)]) := by
  refine ⟨?_, ?_, ?_⟩
  · rw [tests_after, testsFrom_joinLines h, unnumbered_testsFrom, List.flatMap_map]
    apply List.flatMap_congr
    intro line hline
    rw [tests_line (h line hline)]
  · intro lines' terminated' hlines
    have h' : ∀ line ∈ lines', lineFeed ∉ line.1 := by
      rw [← List.forall_mem_map (P := (lineFeed ∉ ·)), hlines, List.forall_mem_map]
      exact h
    rw [tests_after, tests_after, testsFrom_joinLines h, testsFrom_joinLines h', hlines]
  · intro line hline
    exact tests_line_cases registry source (h line hline)

theorem lines_stand_alone_between_faults :
    let registry := Registry.empty.register "counting" .counting
    let lines : List (Bytes × LineEnd) :=
      [(encode "#".toList, .feed), ([0xFF], .returnFeed), (encode "lost".toList, .feed),
        (encode "a must run counting".toList, .returnFeed)]
    (∀ line ∈ lines, lineFeed ∉ line.1) ∧
      unnumbered (fresh.tests registry (joinLines false lines) "f").1 =
        [.error (.read "f" .notUtf8), .error (.inLine 0 (.malformedHeader "lost")),
          .ok ⟨"a", "counting", "a must run counting", []⟩] := by
  intro registry lines
  have hlines : ∀ line ∈ lines, lineFeed ∉ line.1 := by decide
  have halone := (lines_stand_alone registry [] "f" hlines false).1
  refine ⟨hlines, halone.trans ?_⟩
  cbv

end Parser

end ServiceProbe
