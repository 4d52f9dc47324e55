import ServiceProbe.Proofs.Enqueue.Run
import ServiceProbe.Proofs.Source.Readings

/-!
When a run of the enqueuer succeeds: the ping is answered, every source is read to
its end and every push is accepted. What was pushed then are the lines of the
sources that say something.
-/

namespace ServiceProbe.Enqueue

variable {State : Type} {registry : Registry} {files : Files} {path : String}

/-! ### What a path yields -/

theorem results_of_content (registry : Registry) {content : Bytes}
    (h : openSource files path = .ok (.content content)) :
    results registry files path =
      (Parser.fresh.testsFrom registry path 0 (splitLines content)).1 := by
  rw [results, h]
  rfl

/-- Errors aside, a path yields the tests of its lines. -/
theorem filterMap_results (registry : Registry) (files : Files) (path : String) :
    (results registry files path).filterMap Except.toOption =
      (files.linesOf path).filterMap registry.testOf? := by
  unfold results Files.linesOf
  cases openSource files path with
  | error e => rfl
  | ok opened =>
    cases opened with
    | unreadable e => rfl
    | content content => exact Parser.filterMap_testsFrom registry path 0 _

theorem exists_error_results_iff :
    (∃ e, .error e ∈ results registry files path) ↔ ¬ registry.IsClean files path := by
  unfold results Registry.IsClean
  cases openSource files path with
  | error e => simp
  | ok opened =>
    cases opened with
    | unreadable e => simp [Parser.testsOf]
    | content content =>
      dsimp only [Parser.testsOf, Parser.tests]
      rw [Parser.exists_error_iff]
      simp

theorem leading_map_ok (tests : List Test) : leading (tests.map .ok) = tests := by
  induction tests with
  | nil => rfl
  | cons test tests ih => exact congrArg (test :: ·) ih

theorem results_of_isClean (h : registry.IsClean files path) :
    results registry files path = ((files.linesOf path).filterMap registry.testOf?).map .ok := by
  obtain ⟨content, hopen, hsound⟩ := h
  rw [results_of_content registry hopen, Parser.testsFrom_of_sound hsound,
    linesOf_of_content hopen]

theorem leading_append_error (tests : List Test) (e : ParseError)
    (results : List (Except ParseError Test)) :
    leading (tests.map .ok ++ .error e :: results) = tests := by
  induction tests with
  | nil => rfl
  | cons test tests ih => exact congrArg (test :: ·) ih

/-- Before its first error a source without errors has all its tests. -/
theorem inputs_leading_of_isClean {list : List String}
    (h : ∀ path ∈ list, registry.IsClean files path) :
    (list.flatMap fun path => (leading (results registry files path)).map (·.input)) =
      (list.flatMap fun path => (files.linesOf path).filterMap registry.testOf?).map
        (·.input) := by
  rw [List.map_flatMap]
  apply List.flatMap_congr
  intro path hpath
  rw [results_of_isClean (h path hpath), leading_map_ok]

/-! ### What is pushed -/

theorem forall₂_jobs {list : List String} {parts : List (FileReport × List QueueCall)}
    (h : List.Forall₂ (fun path part => part.1.path = path ∧
      Accounts (results registry files path) part.2 part.1) list parts)
    (haccepted : ∀ call ∈ parts.flatMap (·.2), call.accepted = true) :
    List.Forall₂ (fun path part => part.2.filterMap (·.job) =
      (leading (results registry files path)).map (·.input)) list parts := by
  induction h with
  | nil => exact .nil
  | cons hpart _ ih =>
    rw [List.flatMap_cons, List.forall_mem_append] at haccepted
    refine .cons ?_ (ih haccepted.2)
    rw [calls_of_accounts hpart.2 haccepted.1, QueueCall.filterMap_job_acknowledged]

/-! ### Success -/

theorem succeeded_of_accounts {path : String} {calls : List QueueCall} {report : FileReport}
    (h : Accounts (results registry files path) calls report) :
    report.succeeded = true ↔
      registry.IsClean files path ∧ ∀ call ∈ calls, call.accepted = true := by
  have hnone : report.succeeded = true ↔ ¬ report.error.isSome = true := by
    cases hreport : report.error <;> simp [FileReport.succeeded, hreport]
  rw [hnone, h.error, exists_error_results_iff, not_or, not_not, and_comm]
  simp

theorem report_succeeded_iff {list : List String} {parts : List (FileReport × List QueueCall)}
    (h : List.Forall₂ (fun p part => part.1.path = p ∧
      Accounts (results registry files p) part.2 part.1) list parts) :
    (EnqueueReport.mk (parts.map (·.1))).succeeded = true ↔
      (∀ path ∈ list, registry.IsClean files path) ∧
        ∀ call ∈ parts.flatMap (·.2), call.accepted = true := by
  unfold EnqueueReport.succeeded
  induction h with
  | nil => simp
  | @cons path part list parts hpart _ ih =>
    rw [List.map_cons, List.all_cons, Bool.and_eq_true, ih, succeeded_of_accounts hpart.2,
      List.flatMap_cons, List.forall_mem_cons, List.forall_mem_append, and_and_and_comm]

/-- A run succeeds if the ping is answered, each source is read to its end and all
calls are accepted. -/
theorem run_succeeded_iff (queue : JobQueue State) (registry : Registry) (files : Files)
    (list : List String) (state : State) :
    (∃ report, (run queue registry files list ⟨.fresh, state⟩).1 = .ok report ∧
        report.succeeded = true) ↔
      (queue.ping state).1 = .ok () ∧ (∀ path ∈ processed list, registry.IsClean files path) ∧
        ∀ call ∈ calls queue registry files list state, call.accepted = true := by
  rcases hping : queue.ping state with ⟨e | u, left⟩
  · rw [run_of_error hping]
    simp
  · obtain ⟨next, hrun⟩ := run_eq (Parser.current_fresh registry) files list hping
    have haccounts := accounts_eachAlone queue registry files (processed list) left
    have hreport := report_succeeded_iff haccounts
    rw [hrun, calls_of_ok hping, List.forall_mem_cons]
    constructor
    · rintro ⟨report, hok, hsucceeded⟩
      cases hok
      obtain ⟨hclean, haccepted⟩ := hreport.1 hsucceeded
      exact ⟨rfl, hclean, rfl, haccepted⟩
    · rintro ⟨-, hclean, -, haccepted⟩
      exact ⟨_, rfl, hreport.2 ⟨hclean, haccepted⟩⟩

/-- What is pushed then are the lines, without the blanks around them. -/
theorem calls_of_succeeded {queue : JobQueue State} {list : List String} {state : State}
    (hclean : ∀ path ∈ processed list, registry.IsClean files path)
    (haccepted : ∀ call ∈ calls queue registry files list state, call.accepted = true) :
    calls queue registry files list state = ⟨none, .ok ()⟩ ::
      ((processed list).flatMap fun path =>
        ((files.linesOf path).filter (!isSkipped ·)).map trimmedText).map .acknowledged := by
  have htexts : ∀ path ∈ processed list,
      ((files.linesOf path).filterMap registry.testOf?).map (·.input) =
        ((files.linesOf path).filter (!isSkipped ·)).map trimmedText := by
    intro path hpath
    obtain ⟨content, hopen, hsound⟩ := hclean path hpath
    rw [linesOf_of_content hopen]
    exact Parser.inputs_of_sound hsound
  rw [calls_acknowledged haccepted, inputs_leading_of_isClean hclean, List.map_flatMap,
    List.flatMap_congr htexts]

end ServiceProbe.Enqueue
