import ServiceProbe.Probe.Sample
import ServiceProbe.Proofs.Program.Collect

/-!
Three readers of test files: one gives all tests of a file or its first error, one
collects the tests of many files for a run here, and one puts them on a queue.
On a file without faults they agree. On any other they agree up to the first
fault, where the first and the last of them stop and the second goes on. The
queue holds what was read: its jobs, read again, are the tests collected.
-/

namespace ServiceProbe

open Enqueue Text

/-- How three readers of one source compare: the tests or the error that are
given, the tests that are collected and the jobs that are pushed. -/
structure Agreement (registry : Registry) (path : String) (lines : List Bytes)
    (parsed : Except ParseError (List Test)) (collected : List Test) (pushed : List String) :
    Prop where
  /-- Every line that parses is collected, before and after a fault. -/
  collects : collected = lines.filterMap registry.testOf?
  accepts : (∃ tests, parsed = .ok tests) ↔ ∀ line ∈ lines, ¬ registry.IsFaulty line
  same : ∀ tests, parsed = .ok tests → collected = tests ∧ pushed = tests.map (·.input)
  /-- The error is that of the first line at fault. -/
  stops : ∀ e, parsed = .error e → ∃ earlier line later, lines = earlier ++ line :: later ∧
    (∀ l ∈ earlier, ¬ registry.IsFaulty l) ∧
    (Parser.yielded registry path earlier.length line).1 = some (.error e) ∧
    pushed = (earlier.filterMap registry.testOf?).map (·.input) ∧
    collected = earlier.filterMap registry.testOf? ++ later.filterMap registry.testOf?

/-- Reads texts one after the other with one parser. -/
def Parser.readEach (parser : Parser) (registry : Registry) :
    (number : Nat) → List String → List (Except ParseError (Option Test))
  | _, [] => []
  | number, text :: texts =>
    let (result, parser) := parser.parseLine registry text number
    result :: readEach parser registry (number + 1) texts

variable {registry : Registry} {files : Files} {parser : Parser} {path : String}

/-! ### One file -/

theorem Parser.parsePath_fst_of_current (h : parser.Current registry) (files : Files)
    (path : String) :
    (parser.parsePath registry files path).1 = allTests (results registry files path) := by
  rw [parsePath, results]
  cases openSource files path with
  | error e => rfl
  | ok source => exact congrArg allTests (testsOf_of_current h source path)

section

variable {content : Bytes} {parser' : Parser}
  (hopen : openSource files path = .ok (.content content))
  (h : parser.Current registry) (h' : parser'.Current registry)

include hopen h h'

theorem agreement_of_sound (hsound : ∀ line ∈ splitLines content, ¬ registry.IsFaulty line) :
    Agreement registry path (splitLines content) (parser.parsePath registry files path).1
      (Program.collectPath registry files path parser').1.tests
      ((leading (results registry files path)).map (·.input)) := by
  have hcollected := Program.tests_collectPath h' files path
  have hresults := results_of_isClean ⟨content, hopen, hsound⟩
  rw [linesOf_of_content hopen] at hcollected hresults
  have hparsed : (parser.parsePath registry files path).1 =
      .ok ((splitLines content).filterMap registry.testOf?) := by
    rw [Parser.parsePath_fst_of_current h, hresults, Parser.allTests_map_ok]
  constructor
  · exact hcollected
  · rw [hparsed]
    exact iff_of_true ⟨_, rfl⟩ hsound
  · intro tests htests
    rw [hparsed] at htests
    cases htests
    exact ⟨hcollected, by rw [hresults, leading_map_ok]⟩
  · intro e he
    rw [hparsed] at he
    contradiction

theorem agreement_of_fault (hfault : ∃ line ∈ splitLines content, registry.IsFaulty line) :
    Agreement registry path (splitLines content) (parser.parsePath registry files path).1
      (Program.collectPath registry files path parser').1.tests
      ((leading (results registry files path)).map (·.input)) := by
  obtain ⟨earlier, line, later, hsplit, hearlier, hfaulty⟩ := Parser.exists_first_fault hfault
  obtain ⟨e, rest, he, hrest⟩ := Parser.testsFrom_of_fault hearlier hfaulty path 0 later
  rw [Nat.zero_add] at he
  have hcollected := Program.tests_collectPath h' files path
  rw [linesOf_of_content hopen] at hcollected
  have hresults := results_of_content registry hopen
  rw [hsplit, hrest] at hresults
  have hparsed : (parser.parsePath registry files path).1 = .error e := by
    rw [Parser.parsePath_fst_of_current h, hresults, Parser.allTests_append_error]
  constructor
  · exact hcollected
  · rw [hparsed]
    constructor
    · rintro ⟨tests, htests⟩
      contradiction
    · intro hsound
      obtain ⟨fault, hmem, hfault⟩ := hfault
      exact absurd hfault (hsound fault hmem)
  · intro tests htests
    rw [hparsed] at htests
    contradiction
  · intro e' he'
    rw [hparsed] at he'
    cases he'
    refine ⟨earlier, line, later, hsplit, hearlier, he, ?_, ?_⟩
    · rw [hresults, leading_append_error]
    · rw [hcollected, hsplit, List.filterMap_append, List.filterMap_cons, hfaulty.2]

/-- Whatever the three have read before, they agree on a file. -/
theorem agreement_of_content :
    Agreement registry path (files.linesOf path) (parser.parsePath registry files path).1
      (Program.collectPath registry files path parser').1.tests
      ((leading (results registry files path)).map (·.input)) := by
  rw [linesOf_of_content hopen]
  by_cases hfault : ∃ line ∈ splitLines content, registry.IsFaulty line
  · exact agreement_of_fault hopen h h' hfault
  · apply agreement_of_sound hopen h h'
    intro line hline hfaulty
    exact hfault ⟨line, hline, hfaulty⟩

end

/-! ### What is pushed -/

theorem parseLine_input_of_testOf? {line : Bytes} {test : Test}
    (h : registry.testOf? line = some test) (number : Nat) :
    (Parser.fresh.parseLine registry test.input number).1 = .ok (some test) := by
  unfold Registry.testOf? at h
  split at h
  · contradiction
  · split at h
    · next hparse =>
      rw [h] at hparse
      exact Parser.parseLine_input_of_current (Parser.current_fresh registry)
        (Parser.current_fresh registry) hparse number
    · contradiction

theorem Parser.readEach_cons (parser : Parser) (registry : Registry) (number : Nat)
    (text : String) (texts : List String) :
    parser.readEach registry number (text :: texts) =
      (parser.parseLine registry text number).1 ::
        (parser.parseLine registry text number).2.readEach registry (number + 1) texts := rfl

/-- Inputs of tests are read as those tests, one after the other. -/
theorem Parser.readEach_inputs (h : parser.Current registry) {tests : List Test}
    (htests : ∀ test ∈ tests, ∀ number,
      (fresh.parseLine registry test.input number).1 = .ok (some test)) (number : Nat) :
    parser.readEach registry number (tests.map (·.input)) =
      tests.map fun test => .ok (some test) := by
  -- each text may leave a schema with the parser, which stays current
  induction tests generalizing parser number with
  | nil => rfl
  | cons test tests ih =>
    rw [List.forall_mem_cons] at htests
    rw [List.map_cons, List.map_cons, readEach_cons, parseLine_fst_of_current h, htests.1,
      ih (current_parseLine h test.input number) htests.2]

/-! ### Many files -/

/-- Three readers of files agree: one that reads a file at a time, one that collects
the tests of all files and one that puts them on a queue, every call of which is
accepted. The last two give or push file by file what they do with a fresh parser,
and on each file all three agree, whatever they have read before. What is pushed
from files without faults is read back, by one parser, as the tests collected. -/
theorem readers_agree {State : Type} (queue : JobQueue State) (registry : Registry)
    (files : Files) (list : List String) (state : State)
    (hregular : ∀ path ∈ list, path ≠ standardInputPath ∧
      ∃ content, files.find path = .ok (.file content))
    (haccepted : ∀ call ∈ calls queue registry files list state, call.accepted = true) :
    let pushes := calls queue registry files list state
    let parts := (eachAlone queue registry files list (queue.ping state).2).1
    let collected := (Program.collect registry files list .fresh).tests
    pushes = ⟨none, .ok ()⟩ :: parts.flatMap (·.2) ∧
    collected = list.flatMap (fun path =>
      (Program.collectPath registry files path .fresh).1.tests) ∧
    List.Forall₂ (fun path part => ∀ history history',
        Agreement registry path (files.linesOf path)
          ((Parser.fresh.after registry history).parsePath registry files path).1
          (Program.collectPath registry files path (Parser.fresh.after registry history')).1.tests
          (part.2.filterMap (·.job)))
      list parts ∧
    ((∀ path ∈ list, ∀ line ∈ files.linesOf path, ¬ registry.IsFaulty line) → ∀ number,
      Parser.fresh.readEach registry number (pushes.filterMap (·.job)) =
        collected.map fun test => .ok (some test)) := by
  intro pushes parts collected
  have hopen : ∀ path ∈ list, ∃ content, openSource files path = .ok (.content content) := by
    intro path hpath
    obtain ⟨hname, content, hfind⟩ := hregular path hpath
    exact ⟨content, by rw [openSource, if_neg hname, hfind]⟩
  have hprocessed : processed list = list :=
    processed_of_not_mem fun path hpath => (hregular path hpath).1
  have hcollected := Program.tests_collect (Parser.current_fresh registry) files list
  rw [hprocessed] at hcollected
  obtain ⟨hpushes, hparts⟩ := calls_of_accepted haccepted
  rw [hprocessed] at hpushes hparts
  have haccounts := accounts_eachAlone queue registry files list (queue.ping state).2
  refine ⟨hpushes, ?_, ?_, ?_⟩
  · simp only [collected, hcollected, Program.tests_collectPath (Parser.current_fresh registry)]
  · refine ((List.forall₂_and_left _ _).2 ⟨hopen, forall₂_jobs haccounts hparts⟩).imp ?_
    rintro path part ⟨⟨content, hcontent⟩, hpushed⟩ history history'
    rw [hpushed]
    exact agreement_of_content hcontent (Parser.current_fresh_after registry history)
      (Parser.current_fresh_after registry history')
  · intro hsound number
    have hclean : ∀ path ∈ list, registry.IsClean files path := by
      intro path hpath
      obtain ⟨content, hcontent⟩ := hopen path hpath
      refine ⟨content, hcontent, ?_⟩
      rw [← linesOf_of_content hcontent]
      exact hsound path hpath
    -- the inputs of the tests collected are all that was pushed
    have hinputs : pushes.filterMap (·.job) = collected.map (·.input) := by
      have hacknowledged : pushes = _ := calls_acknowledged haccepted
      rw [hacknowledged, hprocessed, inputs_leading_of_isClean hclean, ← hcollected,
        List.filterMap_cons, QueueCall.filterMap_job_acknowledged]
    rw [hinputs]
    refine Parser.readEach_inputs (Parser.current_fresh registry) ?_ number
    intro test htest
    simp only [collected, hcollected, List.mem_flatMap, List.mem_filterMap] at htest
    obtain ⟨path, -, line, -, hline⟩ := htest
    exact parseLine_input_of_testOf? hline

/-- One file with a line at fault between two others. -/
theorem readers_agree_past_fault :
    let registry := Registry.empty.register "counting" .counting
    let content := encode "a must run counting\na must\nb must run counting\n".toList
    let files : Files := ⟨[("/checks", .file content)], []⟩
    let list := ["/checks"]
    let state : MemoryQueue := ⟨true, none, [], 0⟩
    (∀ path ∈ list, path ≠ standardInputPath ∧
      ∃ content, files.find path = .ok (.file content)) ∧
    (∀ call ∈ calls MemoryQueue.queue registry files list state, call.accepted = true) ∧
    (¬ ∃ tests, (Parser.fresh.parsePath registry files "/checks").1 = .ok tests) ∧
    (Program.collectPath registry files "/checks" .fresh).1.tests =
      [⟨"a", "counting", "a must run counting", []⟩,
        ⟨"b", "counting", "b must run counting", []⟩] := by
  intro registry content files list state
  have hregular : ∀ path ∈ list, path ≠ standardInputPath ∧
      ∃ content, files.find path = .ok (.file content) := by
    intro path hpath
    rw [List.mem_singleton.1 hpath]
    exact ⟨by decide, content, by decide +kernel⟩
  have haccepted : ∀ call ∈ calls MemoryQueue.queue registry files list state,
      call.accepted = true := by
    decide +kernel
  obtain ⟨-, -, hagree, -⟩ := readers_agree _ registry files list state hregular haccepted
  have hfile := (List.forall₂_cons.1 hagree).1 [] []
  refine ⟨hregular, haccepted, ?_, hfile.collects.trans (by decide +kernel)⟩
  intro htests
  have hsound := hfile.accepts.1 htests (encode "a must".toList) (by decide +kernel)
  exact hsound (by decide +kernel)

end ServiceProbe
