import ServiceProbe.Program
import ServiceProbe.Proofs.Enqueue.Success

/-!
What a local run collects. From each path it takes the tests of all lines that
parse, whatever is wrong with the others; it notes a problem exactly when the
source cannot be read or has a line at fault. The parser goes from one path to
the next, but that does not show.
-/

namespace ServiceProbe.Program

open Enqueue

variable {registry : Registry} {files : Files} {parser : Parser} {path : String}

theorem tests_collectResults (path : String) (results : List (Except ParseError Test)) :
    (collectResults path results).tests = results.filterMap Except.toOption := by
  induction results with
  | nil => rfl
  | cons result results ih =>
    cases result with
    | error e => exact ih
    | ok test => exact congrArg (test :: ·) ih

theorem problems_collectResults_eq_nil_iff {results : List (Except ParseError Test)} :
    (collectResults path results).problems = [] ↔ ¬ ∃ e, .error e ∈ results := by
  induction results with
  | nil => simp [collectResults]
  | cons result results ih =>
    cases result with
    | error e => simp [collectResults]
    | ok test => simpa [collectResults] using ih

theorem tests_collectPath (h : parser.Current registry) (files : Files) (path : String) :
    (collectPath registry files path parser).1.tests =
      (files.linesOf path).filterMap registry.testOf? := by
  rw [← filterMap_results, results, collectPath]
  cases openSource files path with
  | error e => rfl
  | ok source =>
    dsimp only
    rw [tests_collectResults, Parser.testsOf_of_current h]

theorem problems_collectPath_eq_nil_iff (h : parser.Current registry) :
    (collectPath registry files path parser).1.problems = [] ↔ registry.IsClean files path := by
  rw [← not_iff_not, ← exists_error_results_iff, results, collectPath]
  cases openSource files path with
  | error e => simp
  | ok source =>
    dsimp only
    rw [problems_collectResults_eq_nil_iff, not_not, Parser.testsOf_of_current h]

theorem current_collectPath (h : parser.Current registry) (files : Files) (path : String) :
    (collectPath registry files path parser).2.Current registry := by
  rw [collectPath]
  cases openSource files path with
  | error e => exact h
  | ok source => exact Parser.current_testsOf h source path

theorem collect_cons (registry : Registry) (files : Files) (path : String) (list : List String)
    (parser : Parser) :
    collect registry files (path :: list) parser =
      let here := collectPath registry files path parser
      let later := collect registry files list here.2
      if path = standardInputPath then here.1
      else ⟨here.1.tests ++ later.tests, here.1.problems ++ later.problems⟩ := rfl

/-- Each path that comes to be read gives the tests of its lines. -/
theorem tests_collect (h : parser.Current registry) (files : Files) (list : List String) :
    (collect registry files list parser).tests =
      (processed list).flatMap fun path => (files.linesOf path).filterMap registry.testOf? := by
  induction list generalizing parser with
  | nil => rfl
  | cons path list ih =>
    rw [collect_cons, processed]
    by_cases hlast : path = standardInputPath
    · rw [if_pos hlast, if_pos hlast, List.flatMap_singleton]
      exact tests_collectPath h files path
    · rw [if_neg hlast, if_neg hlast, List.flatMap_cons, tests_collectPath h,
        ih (current_collectPath h files path)]

theorem problems_collect_eq_nil_iff (h : parser.Current registry) {list : List String} :
    (collect registry files list parser).problems = [] ↔
      ∀ path ∈ processed list, registry.IsClean files path := by
  induction list generalizing parser with
  | nil => simp [collect, processed]
  | cons path list ih =>
    rw [collect_cons, processed]
    by_cases hlast : path = standardInputPath
    · rw [if_pos hlast, if_pos hlast, List.forall_mem_singleton]
      exact problems_collectPath_eq_nil_iff h
    · rw [if_neg hlast, if_neg hlast, List.append_eq_nil_iff, problems_collectPath_eq_nil_iff h,
        ih (current_collectPath h files path), List.forall_mem_cons]

end ServiceProbe.Program
