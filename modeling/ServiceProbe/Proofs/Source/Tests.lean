import Mathlib
import ServiceProbe.Probe.Sample
import ServiceProbe.Proofs.Parser.Schema
import ServiceProbe.Proofs.Source.Lines

/-!
What a content yields. A parser that is current with the registry yields what a
fresh one does, line by line, and is current afterwards. A test that is yielded
comes from a line, so its input has no line feed, and the input alone gives the
test again: to the same parser or another, and written into a content as well.
-/

namespace ServiceProbe

open Text

namespace Parser

variable {registry : Registry} {parser : Parser}

/-! ### Reading line by line -/

theorem current_parseLine (h : parser.Current registry) (line : String) (number : Nat) :
    (parser.parseLine registry line number).2.Current registry := by
  rw [parseLine_snd]
  exact current_readLine h line.toList

/-- What a line of a source yields, and the count after it. -/
def yielded (registry : Registry) (source : String) (number : Nat) (line : Bytes) :
    Option (Except ParseError Test) × Nat :=
  ((fresh.takeLine registry source number line).1,
    (fresh.takeLine registry source number line).2.1)

theorem takeLine_of_current (h : parser.Current registry) (source : String) (number : Nat)
    (line : Bytes) :
    ∃ later : Parser, later.Current registry ∧
      parser.takeLine registry source number line =
        ((yielded registry source number line).1, (yielded registry source number line).2,
          later) := by
  unfold yielded takeLine
  cases decode? line with
  | none => exact ⟨parser, h, rfl⟩
  | some text =>
    have hresult := parseLine_fst_of_current h (String.ofList text) (number + 1)
    have hlater := current_parseLine h (String.ofList text) (number + 1)
    rcases hp : parser.parseLine registry (String.ofList text) (number + 1) with ⟨result, later⟩
    rcases hq : fresh.parseLine registry (String.ofList text) (number + 1) with ⟨result', other⟩
    rw [hp] at hresult hlater
    rw [hq] at hresult
    obtain rfl : result = result' := hresult
    refine ⟨later, hlater, ?_⟩
    simp only [hp, hq]
    rcases result with _ | _ | _ <;> rfl

theorem testsFrom_eq_of_current {other : Parser} (h : parser.Current registry)
    (h' : other.Current registry) (source : String) (number : Nat) (lines : List Bytes) :
    (parser.testsFrom registry source number lines).1 =
      (other.testsFrom registry source number lines).1 := by
  induction lines generalizing parser other number with
  | nil => rfl
  | cons line lines ih =>
    obtain ⟨later, hlater, htake⟩ := takeLine_of_current h source number line
    obtain ⟨later', hlater', htake'⟩ := takeLine_of_current h' source number line
    simp only [testsFrom, htake, htake', ih hlater hlater']

theorem testsFrom_cons (registry : Registry) (source : String) (number : Nat) (line : Bytes)
    (lines : List Bytes) :
    (fresh.testsFrom registry source number (line :: lines)).1 =
      (yielded registry source number line).1.toList ++
        (fresh.testsFrom registry source (yielded registry source number line).2 lines).1 := by
  obtain ⟨later, hlater, htake⟩ := takeLine_of_current (current_fresh registry) source number line
  simp only [testsFrom, htake, testsFrom_eq_of_current hlater (current_fresh registry)]

theorem yielded_of_decode? {source : String} {number : Nat} {line : Bytes} {text : List Char}
    (h : decode? line = some text) :
    yielded registry source number line =
      (match (fresh.parseLine registry (String.ofList text) (number + 1)).1 with
        | .ok result => result.map .ok
        | .error e => some (.error e), number + 1) := by
  simp only [yielded, takeLine, h]
  rcases fresh.parseLine registry (String.ofList text) (number + 1) with ⟨_ | _ | _, _⟩ <;> rfl

theorem yielded_of_decode?_eq_none {source : String} {number : Nat} {line : Bytes}
    (h : decode? line = none) :
    yielded registry source number line = (some (.error (.read source .notUtf8)), number) := by
  simp only [yielded, takeLine, h]

/-- Each test that is yielded comes from a line. -/
theorem exists_line_of_mem_testsFrom {source : String} {number : Nat} {lines : List Bytes}
    {test : Test} (h : .ok test ∈ (fresh.testsFrom registry source number lines).1) :
    ∃ line ∈ lines, ∃ text k, decode? line = some text ∧
      (fresh.parseLine registry (String.ofList text) k).1 = .ok (some test) := by
  induction lines generalizing number with
  | nil => simp [testsFrom] at h
  | cons line lines ih =>
    rw [testsFrom_cons, List.mem_append] at h
    rcases h with h | h
    · refine ⟨line, by simp, ?_⟩
      rw [Option.mem_toList] at h
      cases hdecode : decode? line with
      | none => simp [yielded_of_decode?_eq_none hdecode] at h
      | some text =>
        refine ⟨text, number + 1, rfl, ?_⟩
        rw [yielded_of_decode? hdecode] at h
        cases hparse : (fresh.parseLine registry (String.ofList text) (number + 1)).1 with
        | error e => simp [hparse] at h
        | ok result => simpa [hparse] using h
    · obtain ⟨line, hline, hparse⟩ := ih h
      exact ⟨line, by simp [hline], hparse⟩

/-! ### Inputs -/

/-- The input of a test is the trimmed line, and reading it gives the test again. -/
theorem parseLine_input_of_current {other : Parser} (h : parser.Current registry)
    (h' : other.Current registry) {line : String} {n : Nat} {test : Test}
    (hparse : (parser.parseLine registry line n).1 = .ok (some test)) (m : Nat) :
    (other.parseLine registry test.input m).1 = .ok (some test) := by
  have hschemas : (fun protocol => (other.schema registry protocol).1) =
      fun protocol => (parser.schema registry protocol).1 := by
    funext protocol
    rw [schema_fst_of_current h, schema_fst_of_current h']
  rw [parseLine_fst_eq_ok_iff] at hparse ⊢
  rw [hschemas, input_of_lineResult hparse, String.toList_ofList, trim_trim]
  exact hparse

/-- The parser that gave a test gives it again, whatever it kept before. -/
theorem parseLine_input_again {line : String} {n : Nat} {test : Test}
    (hparse : (parser.parseLine registry line n).1 = .ok (some test)) (m : Nat) :
    ((parser.parseLine registry line n).2.parseLine registry test.input m).1 =
      .ok (some test) := by
  rw [parseLine_fst_eq_ok_iff] at hparse ⊢
  obtain ⟨hskip, header, schema, arguments, hheader, hschema, hread, htest⟩ :=
    lineResult_eq_ok_some_iff.1 hparse
  rw [input_of_lineResult hparse, String.toList_ofList, trim_trim, parseLine_snd,
    readLine_snd_of_header hskip hheader]
  exact lineResult_eq_ok_some_iff.2
    ⟨hskip, header, schema, arguments, hheader, schema_fst_schema_snd hschema, hread, htest⟩

/-- What is asked of an input that is to stand on a line of its own. -/
theorem input_of_mem_tests {content : Bytes} {source : String} {test : Test}
    (h : .ok test ∈ (fresh.tests registry content source).1) :
    (test.input.toList ≠ [] ∧ Trimmed test.input.toList ∧ '\n' ∉ test.input.toList) ∧
      ∀ m, (fresh.parseLine registry test.input m).1 = .ok (some test) := by
  obtain ⟨line, hline, text, k, hdecode, hparse⟩ := exists_line_of_mem_testsFrom h
  refine ⟨?_, parseLine_input_of_current (current_fresh registry) (current_fresh registry) hparse⟩
  rw [parseLine_fst_eq_ok_iff, String.toList_ofList] at hparse
  rw [input_of_lineResult hparse, String.toList_ofList]
  refine ⟨(lineResult_eq_ok_some_iff.1 hparse).1.1, trimmed_trim text, fun hmem => ?_⟩
  -- a line feed of the text would be a byte of the line
  have hfeed : lineFeed ∈ line := by
    rw [← decode?_eq_some_iff.1 hdecode, lineFeed_mem_encode]
    exact mem_of_mem_trim hmem
  exact not_mem_of_mem_splitLines hline hfeed

theorem testsFrom_inputs {tests : List Test}
    (h : ∀ test ∈ tests, ∀ m, (fresh.parseLine registry test.input m).1 = .ok (some test))
    (source : String) (number : Nat) :
    (fresh.testsFrom registry source number
      ((tests.map (·.input)).map (encode ·.toList))).1 = tests.map .ok := by
  induction tests generalizing number with
  | nil => rfl
  | cons test tests ih =>
    rw [List.forall_mem_cons] at h
    rw [List.map_cons, List.map_cons, testsFrom_cons, yielded_of_decode? (decode?_encode _),
      String.ofList_toList, h.1]
    dsimp only
    rw [ih h.2]
    rfl

/-- The input of a test stands for the test. The parser that gave it, and every
other parser over the registry, reads the test from its input; and the inputs of
all tests of a content, one on each line, are a content that yields those tests,
in their order, and no error. -/
theorem reread (registry : Registry) :
    (∀ (history history' : List String) (line : String) (n m : Nat) (test : Test),
      ((fresh.after registry history).parseLine registry line n).1 = .ok (some test) →
        ((fresh.after registry history').parseLine registry test.input m).1 =
          .ok (some test)) ∧
    (∀ (parser : Parser) (line : String) (n m : Nat) (test : Test),
      (parser.parseLine registry line n).1 = .ok (some test) →
        ((parser.parseLine registry line n).2.parseLine registry test.input m).1 =
          .ok (some test)) ∧
    ∀ (history history' : List String) (content : Bytes) (source source' : String),
      let tests := ((fresh.after registry history).tests registry content source).1.filterMap
        Except.toOption
      let written := encode ("\n".intercalate (tests.map (·.input))).toList
      ((fresh.after registry history').tests registry written source').1 = tests.map .ok := by
  refine ⟨?_, ?_, ?_⟩
  · intro history history' line n m test hparse
    exact parseLine_input_of_current (current_fresh_after registry history)
      (current_fresh_after registry history') hparse m
  · intro parser line n m test hparse
    exact parseLine_input_again hparse m
  · intro history history' content source source' tests written
    have hyielded : ∀ test ∈ tests, .ok test ∈ (fresh.tests registry content source).1 := by
      intro test htest
      obtain ⟨result, hresult, hok⟩ := List.mem_filterMap.1 htest
      rw [Parser.tests, testsFrom_eq_of_current (current_fresh_after registry history)
        (current_fresh registry)] at hresult
      cases result with
      | error e => simp [Except.toOption] at hok
      | ok test' =>
        cases hok
        exact hresult
    have hlines : splitLines written = (tests.map (·.input)).map (encode ·.toList) := by
      refine splitLines_intercalate fun s hs => ?_
      obtain ⟨test, htest, rfl⟩ := List.mem_map.1 hs
      exact (input_of_mem_tests (hyielded test htest)).1
    rw [Parser.tests, testsFrom_eq_of_current (current_fresh_after registry history')
      (current_fresh registry), hlines]
    exact testsFrom_inputs (fun test htest => (input_of_mem_tests (hyielded test htest)).2) _ _

theorem reread_padded_line :
    let registry := Registry.empty.register "counting" .counting
    let test : Test := ⟨"host", "counting", "host must run counting with expect '7'",
      [("expect", "7")]⟩
    ((fresh.after registry []).parseLine registry
        " host must run counting with expect '7'\t" 3).1 = .ok (some test) ∧
      ((fresh.after registry []).parseLine registry test.input 9).1 = .ok (some test) := by
  intro registry test
  have hparse : ((fresh.after registry []).parseLine registry
      " host must run counting with expect '7'\t" 3).1 = .ok (some test) := by cbv
  exact ⟨hparse, (reread registry).1 [] [] _ 3 9 test hparse⟩

end Parser

end ServiceProbe
