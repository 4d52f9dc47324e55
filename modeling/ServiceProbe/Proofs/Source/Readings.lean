import ServiceProbe.Proofs.Source.Tests

/-!
The lines of a source, each on its own. A line is skipped, or gives a test, or is
at fault; what a source yields is told by this, line by line. Up to the first
line at fault a source yields its tests, and then an error; its tests altogether
are those of all lines, before and after lines at fault.
-/

namespace ServiceProbe

open Text

/-- The line is blank or a comment. A line that is not UTF-8 is neither. -/
def isSkipped (line : Bytes) : Bool :=
  match decode? line with
  | none => false
  | some text => trim text = [] || (trim text).head? = some '#'

/-- The text of a line without the blanks around it. -/
def trimmedText (line : Bytes) : String := String.ofList (trim ((decode? line).getD []))

/-- The lines of the source at a path, if it can be opened and read. -/
def Files.linesOf (files : Files) (path : String) : List Bytes :=
  match openSource files path with
  | .ok (.content content) => splitLines content
  | _ => []

namespace Registry

/-- The test that a line gives, if it parses. -/
def testOf? (registry : Registry) (line : Bytes) : Option Test :=
  match decode? line with
  | none => none
  | some text =>
    match (Parser.fresh.parseLine registry (String.ofList text) 1).1 with
    | .ok result => result
    | .error _ => none

/-- The line ought to give a test and does not: it cannot be read or parsed. -/
def IsFaulty (registry : Registry) (line : Bytes) : Prop :=
  isSkipped line = false ∧ registry.testOf? line = none

instance (registry : Registry) (line : Bytes) : Decidable (registry.IsFaulty line) :=
  inferInstanceAs (Decidable (_ ∧ _))

/-- The source at a path can be opened and read, and none of its lines is at fault. -/
def IsClean (registry : Registry) (files : Files) (path : String) : Prop :=
  ∃ content, openSource files path = .ok (.content content) ∧
    ∀ line ∈ splitLines content, ¬ registry.IsFaulty line

end Registry

namespace Parser

variable {registry : Registry}

/-! ### One line -/

theorem yielded_of_isSkipped {line : Bytes} (h : isSkipped line = true) (source : String)
    (number : Nat) : yielded registry source number line = (none, number + 1) := by
  unfold isSkipped at h
  split at h
  · contradiction
  · next text hdecode =>
    have hparse : (fresh.parseLine registry (String.ofList text) (number + 1)).1 = .ok none := by
      rw [parseLine_fst_eq_ok_iff, lineResult_eq_ok_none_iff, String.toList_ofList]
      simpa using h
    rw [yielded_of_decode? hdecode, hparse]
    rfl

theorem yielded_of_testOf? {line : Bytes} {test : Test} (h : registry.testOf? line = some test)
    (source : String) (number : Nat) :
    yielded registry source number line = (some (.ok test), number + 1) := by
  unfold Registry.testOf? at h
  split at h
  · contradiction
  · next text hdecode =>
    split at h
    · next result hfirst =>
      -- the number of a line shows in its error only
      have hparse : (fresh.parseLine registry (String.ofList text) (number + 1)).1 =
          .ok (some test) := by
        rw [h] at hfirst
        rwa [parseLine_fst_eq_ok_iff] at hfirst ⊢
      rw [yielded_of_decode? hdecode, hparse]
      rfl
    · contradiction

theorem testOf?_of_isSkipped {line : Bytes} (h : isSkipped line = true) :
    registry.testOf? line = none := by
  cases htest : registry.testOf? line with
  | none => rfl
  | some test =>
    have hskipped : yielded registry "" 0 line = (none, 1) := yielded_of_isSkipped h "" 0
    rw [yielded_of_testOf? htest] at hskipped
    simp at hskipped

theorem yielded_of_isFaulty {line : Bytes} (h : registry.IsFaulty line) (source : String)
    (number : Nat) : ∃ e, (yielded registry source number line).1 = some (.error e) := by
  obtain ⟨hskipped, htest⟩ := h
  unfold isSkipped at hskipped
  unfold Registry.testOf? at htest
  cases hdecode : decode? line with
  | none => exact ⟨.read source .notUtf8, by rw [yielded_of_decode?_eq_none hdecode]⟩
  | some text =>
    rw [yielded_of_decode? hdecode]
    cases hparse : (fresh.parseLine registry (String.ofList text) (number + 1)).1 with
    | error e => exact ⟨e, rfl⟩
    | ok result =>
      have hfirst : (fresh.parseLine registry (String.ofList text) 1).1 = .ok result := by
        rwa [parseLine_fst_eq_ok_iff] at hparse ⊢
      simp only [hdecode, hfirst] at htest
      rw [htest, parseLine_fst_eq_ok_iff, lineResult_eq_ok_none_iff,
        String.toList_ofList] at hparse
      simp only [hdecode, Bool.or_eq_false_iff, decide_eq_false_iff_not] at hskipped
      exact absurd hparse (not_or.2 hskipped)

/-- What a test was read from is its input. -/
theorem input_of_testOf? {line : Bytes} {test : Test} (h : registry.testOf? line = some test) :
    test.input = trimmedText line := by
  unfold Registry.testOf? at h
  split at h
  · contradiction
  · next text hdecode =>
    split at h
    · next result hparse =>
      rw [h, parseLine_fst_eq_ok_iff, String.toList_ofList] at hparse
      rw [input_of_lineResult hparse, trimmedText, hdecode]
      rfl
    · contradiction

/-- A line is one of three things. -/
theorem line_cases (registry : Registry) (line : Bytes) :
    isSkipped line = true ∨ (∃ test, registry.testOf? line = some test) ∨
      registry.IsFaulty line := by
  cases hskipped : isSkipped line with
  | true => exact .inl rfl
  | false =>
    cases htest : registry.testOf? line with
    | none => exact .inr (.inr ⟨hskipped, htest⟩)
    | some test => exact .inr (.inl ⟨test, rfl⟩)

/-! ### Many lines -/

/-- Errors aside, a source yields the tests of its lines. -/
theorem filterMap_testsFrom (registry : Registry) (source : String) (number : Nat)
    (lines : List Bytes) :
    (fresh.testsFrom registry source number lines).1.filterMap Except.toOption =
      lines.filterMap registry.testOf? := by
  induction lines generalizing number with
  | nil => rfl
  | cons line lines ih =>
    rw [testsFrom_cons, List.filterMap_append, ih, List.filterMap_cons]
    rcases line_cases registry line with hskipped | ⟨test, htest⟩ | hfaulty
    · rw [yielded_of_isSkipped hskipped, testOf?_of_isSkipped hskipped]
      rfl
    · rw [yielded_of_testOf? htest, htest]
      rfl
    · obtain ⟨e, he⟩ := yielded_of_isFaulty hfaulty source number
      rw [he, hfaulty.2]
      rfl

/-- Lines that are not at fault yield their tests and nothing else, whatever
comes after them. -/
theorem testsFrom_append {lines : List Bytes} (h : ∀ line ∈ lines, ¬ registry.IsFaulty line)
    (source : String) (number : Nat) (rest : List Bytes) :
    (fresh.testsFrom registry source number (lines ++ rest)).1 =
      (lines.filterMap registry.testOf?).map .ok ++
        (fresh.testsFrom registry source (number + lines.length) rest).1 := by
  induction lines generalizing number with
  | nil => rfl
  | cons line lines ih =>
    rw [List.forall_mem_cons] at h
    have hrest := ih h.2 (number + 1)
    rw [Nat.add_assoc, Nat.add_comm 1] at hrest
    rw [List.cons_append, testsFrom_cons, List.filterMap_cons, List.length_cons]
    rcases line_cases registry line with hskipped | ⟨test, htest⟩ | hfaulty
    · rw [yielded_of_isSkipped hskipped, testOf?_of_isSkipped hskipped]
      exact hrest
    · rw [yielded_of_testOf? htest, htest, hrest]
      rfl
    · exact absurd hfaulty h.1

theorem testsFrom_of_sound {lines : List Bytes} (h : ∀ line ∈ lines, ¬ registry.IsFaulty line)
    (source : String) (number : Nat) :
    (fresh.testsFrom registry source number lines).1 =
      (lines.filterMap registry.testOf?).map .ok := by
  have hlines := testsFrom_append h source number []
  rwa [List.append_nil, testsFrom, List.append_nil] at hlines

/-- With the first line at fault comes the first error. -/
theorem testsFrom_of_fault {earlier : List Bytes} {line : Bytes}
    (h : ∀ l ∈ earlier, ¬ registry.IsFaulty l) (hfaulty : registry.IsFaulty line)
    (source : String) (number : Nat) (later : List Bytes) :
    ∃ e results, (yielded registry source (number + earlier.length) line).1 = some (.error e) ∧
      (fresh.testsFrom registry source number (earlier ++ line :: later)).1 =
        (earlier.filterMap registry.testOf?).map .ok ++ .error e :: results := by
  obtain ⟨e, he⟩ := yielded_of_isFaulty hfaulty source (number + earlier.length)
  let count := (yielded registry source (number + earlier.length) line).2
  refine ⟨e, (fresh.testsFrom registry source count later).1, he, ?_⟩
  rw [testsFrom_append h, testsFrom_cons, he]
  rfl

theorem exists_first_fault {lines : List Bytes} (h : ∃ line ∈ lines, registry.IsFaulty line) :
    ∃ earlier line later, lines = earlier ++ line :: later ∧
      (∀ l ∈ earlier, ¬ registry.IsFaulty l) ∧ registry.IsFaulty line := by
  induction lines with
  | nil => simp at h
  | cons head lines ih =>
    by_cases hhead : registry.IsFaulty head
    · exact ⟨[], head, lines, rfl, by simp, hhead⟩
    · obtain ⟨fault, hmem, hfault⟩ := h
      have hmem : fault ∈ lines :=
        (List.mem_cons.1 hmem).resolve_left fun heq => hhead (heq ▸ hfault)
      obtain ⟨earlier, line, later, rfl, hearlier, hline⟩ := ih ⟨fault, hmem, hfault⟩
      refine ⟨head :: earlier, line, later, rfl, ?_, hline⟩
      rw [List.forall_mem_cons]
      exact ⟨hhead, hearlier⟩

/-- Where no line is at fault, each line that is not skipped gives a test. -/
theorem inputs_of_sound {lines : List Bytes} (h : ∀ line ∈ lines, ¬ registry.IsFaulty line) :
    (lines.filterMap registry.testOf?).map (·.input) =
      (lines.filter (!isSkipped ·)).map trimmedText := by
  induction lines with
  | nil => rfl
  | cons line lines ih =>
    rw [List.forall_mem_cons] at h
    rcases line_cases registry line with hskipped | ⟨test, htest⟩ | hfaulty
    · rw [List.filterMap_cons, testOf?_of_isSkipped hskipped,
        List.filter_cons_of_neg (by simp [hskipped])]
      exact ih h.2
    · have hkept : isSkipped line = false := by
        rw [← Bool.not_eq_true]
        intro hskipped
        rw [testOf?_of_isSkipped hskipped] at htest
        contradiction
      rw [List.filterMap_cons, htest, List.filter_cons_of_pos (by simp [hkept]), List.map_cons,
        List.map_cons, input_of_testOf? htest, ih h.2]
    · exact absurd hfaulty h.1

/-- Where a line is at fault there is an error, and nowhere else. -/
theorem exists_error_iff {source : String} {number : Nat} {lines : List Bytes} :
    (∃ e, .error e ∈ (fresh.testsFrom registry source number lines).1) ↔
      ∃ line ∈ lines, registry.IsFaulty line := by
  constructor
  · rintro ⟨e, hmem⟩
    by_contra hnone
    have hsound : ∀ line ∈ lines, ¬ registry.IsFaulty line := by
      intro line hline hfaulty
      exact hnone ⟨line, hline, hfaulty⟩
    rw [testsFrom_of_sound hsound, List.mem_map] at hmem
    obtain ⟨test, -, htest⟩ := hmem
    contradiction
  · intro h
    obtain ⟨earlier, line, later, rfl, hearlier, hfaulty⟩ := exists_first_fault h
    obtain ⟨e, results, -, hresults⟩ :=
      testsFrom_of_fault hearlier hfaulty source number later
    refine ⟨e, ?_⟩
    rw [hresults]
    simp

/-! ### What is made of the results -/

theorem allTests_map_ok (tests : List Test) : allTests (tests.map .ok) = .ok tests := by
  induction tests with
  | nil => rfl
  | cons test tests ih =>
    rw [List.map_cons, allTests, ih]
    rfl

theorem allTests_append_error (tests : List Test) (e : ParseError)
    (results : List (Except ParseError Test)) :
    allTests (tests.map .ok ++ .error e :: results) = .error e := by
  induction tests with
  | nil => rfl
  | cons test tests ih =>
    rw [List.map_cons, List.cons_append, allTests, ih]
    rfl

theorem current_testsFrom {parser : Parser} (h : parser.Current registry) (source : String)
    (number : Nat) (lines : List Bytes) :
    (parser.testsFrom registry source number lines).2.Current registry := by
  induction lines generalizing parser number with
  | nil => exact h
  | cons line lines ih =>
    obtain ⟨later, hlater, htake⟩ := takeLine_of_current h source number line
    rw [testsFrom, htake]
    exact ih hlater _

theorem testsOf_of_current {parser : Parser} (h : parser.Current registry) (source : Source)
    (name : String) :
    (parser.testsOf registry source name).1 = (fresh.testsOf registry source name).1 := by
  cases source with
  | unreadable e => rfl
  | content bytes => exact testsFrom_eq_of_current h (current_fresh registry) name 0 _

theorem current_testsOf {parser : Parser} (h : parser.Current registry) (source : Source)
    (name : String) :
    (parser.testsOf registry source name).2.Current registry := by
  cases source with
  | unreadable e => exact h
  | content bytes => exact current_testsFrom h name 0 (splitLines bytes)

end Parser

/-! ### Whole sources -/

theorem linesOf_of_content {files : Files} {path : String} {content : Bytes}
    (h : openSource files path = .ok (.content content)) :
    files.linesOf path = splitLines content := by
  rw [Files.linesOf, h]

/-- The source at a path can be opened, and all lines that say anything parse. -/
structure Registry.Reads (registry : Registry) (files : Files) (path : String) : Prop where
  opened : ∃ source, openSource files path = .ok source
  parsed : ∀ line ∈ files.linesOf path, isSkipped line = false →
    ∃ test, registry.testOf? line = some test

theorem Registry.not_isFaulty_iff {registry : Registry} {line : Bytes} :
    ¬ registry.IsFaulty line ↔
      (isSkipped line = false → ∃ test, registry.testOf? line = some test) := by
  rw [IsFaulty, not_and, ← ne_eq, Option.ne_none_iff_exists']

theorem find_of_unreadable {files : Files} {path : String} {e : IoError}
    (h : openSource files path = .ok (.unreadable e)) :
    path ≠ standardInputPath ∧ files.find path = .ok .directory := by
  unfold openSource at h
  split at h
  · cases h
  · next hname =>
    refine ⟨hname, ?_⟩
    split at h <;> simp_all

/-- Nothing but a directory can be opened and not read. -/
theorem Registry.reads_iff {registry : Registry} {files : Files} {path : String}
    (h : path ≠ standardInputPath → files.find path ≠ .ok .directory) :
    registry.Reads files path ↔ registry.IsClean files path := by
  constructor
  · rintro ⟨⟨source, hopen⟩, hparsed⟩
    cases source with
    | unreadable e =>
      obtain ⟨hname, hfind⟩ := find_of_unreadable hopen
      exact absurd hfind (h hname)
    | content content =>
      rw [linesOf_of_content hopen] at hparsed
      exact ⟨content, hopen, fun line hline => not_isFaulty_iff.2 (hparsed line hline)⟩
  · rintro ⟨content, hopen, hsound⟩
    refine ⟨⟨_, hopen⟩, ?_⟩
    rw [linesOf_of_content hopen]
    exact fun line hline => not_isFaulty_iff.1 (hsound line hline)

end ServiceProbe
