import Mathlib.Data.List.Forall2
import ServiceProbe.Proofs.Enqueue.Offers

/-!
A whole run of the enqueuer is its sources one after the other, each as it would
be on its own: with a fresh parser, on the state that the queue is left in by
the sources before it. The first standard input is the last source. Before all
of them stands the ping, and nothing else if it fails.
-/

namespace ServiceProbe.Enqueue

variable {State : Type} {registry : Registry} {parser : Parser}

/-- The paths up to the first that is standard input, this one included. -/
def processed : List String → List String
  | [] => []
  | p :: later => if p = standardInputPath then [p] else p :: processed later

/-- Enqueues a path on its own, with a fresh parser and a queue that starts to
record: the report, the calls and the state after them. -/
def alone (queue : JobQueue State) (registry : Registry) (files : Files) (p : String)
    (state : State) : (FileReport × List QueueCall) × State :=
  let (report, left) := path queue.recorded registry files p ⟨Parser.fresh, (state, [])⟩
  ((report, left.state.2), left.state.1)

/-- Enqueues each path on its own, on the state that the one before it left. -/
def eachAlone (queue : JobQueue State) (registry : Registry) (files : Files) :
    List String → State → List (FileReport × List QueueCall) × State
  | [], state => ([], state)
  | p :: later, state =>
    let (part, state) := alone queue registry files p state
    let (parts, state) := eachAlone queue registry files later state
    (part :: parts, state)

/-! ### Paths -/

theorem alone_eq (queue : JobQueue State) (registry : Registry) (files : Files) (p : String)
    (state : State) :
    alone queue registry files p state =
      let offers := offer queue (results registry files p) state
      ((⟨p, offers.1.1.countP (·.accepted), offers.1.2.map (failureText files p)⟩, offers.1.1),
        offers.2) := by
  obtain ⟨later, -, heq⟩ :=
    path_eq queue.recorded (Parser.current_fresh registry) files p (state, [])
  simp only [alone, heq, offer_recorded, List.nil_append]

/-- In a run each path does what it does alone. -/
theorem paths_eq (queue : JobQueue State) (h : parser.Current registry) (files : Files)
    (list : List String) (state : State) :
    let parts := eachAlone queue registry files (processed list) state
    ∃ later : Parser, later.Current registry ∧
      paths queue registry files list ⟨parser, state⟩ =
        (parts.1.map (·.1), ⟨later, parts.2⟩) := by
  induction list generalizing parser state with
  | nil => exact ⟨parser, h, by simp [paths, processed, eachAlone]⟩
  | cons p list ih =>
    obtain ⟨next, hnext, hpath⟩ := path_eq queue h files p state
    by_cases hp : p = standardInputPath
    · refine ⟨next, hnext, ?_⟩
      simp only [paths, hpath, processed, if_pos hp, eachAlone, alone_eq]
      simp
    · obtain ⟨later, hlater, hpaths⟩ := ih hnext (alone queue registry files p state).2
      rw [alone_eq] at hpaths
      refine ⟨later, hlater, ?_⟩
      simp only [paths, hpath, hpaths, processed, if_neg hp, eachAlone, alone_eq]
      simp

/-- Recorded or not, a queue is left in the same state, and is asked the same. -/
theorem eachAlone_recorded (queue : JobQueue State) (registry : Registry) (files : Files)
    (list : List String) (state : State) (calls : List QueueCall) :
    let parts := eachAlone queue registry files list state
    eachAlone queue.recorded registry files list (state, calls) =
      (parts.1, (parts.2, calls ++ parts.1.flatMap (·.2))) := by
  induction list generalizing state calls with
  | nil => simp [eachAlone]
  | cons p list ih =>
    dsimp only at ih ⊢
    simp only [eachAlone, alone_eq, offer_recorded, ih]
    simp

theorem accounts_alone (queue : JobQueue State) (registry : Registry) (files : Files)
    (p : String) (state : State) :
    let part := alone queue registry files p state
    part.1.1.path = p ∧ Accounts (results registry files p) part.1.2 part.1.1 := by
  rw [alone_eq]
  exact ⟨rfl, accounts_offer queue _ state p (by rw [Option.isSome_map])⟩

/-- Each path accounts for its calls. -/
theorem accounts_eachAlone (queue : JobQueue State) (registry : Registry) (files : Files)
    (list : List String) (state : State) :
    List.Forall₂ (fun p part => part.1.path = p ∧
        Accounts (results registry files p) part.2 part.1)
      list (eachAlone queue registry files list state).1 := by
  induction list generalizing state with
  | nil => exact .nil
  | cons p list ih => exact .cons (accounts_alone queue registry files p state) (ih _)

theorem totalPushed_of_accounts {files : Files} {list : List String}
    {parts : List (FileReport × List QueueCall)}
    (h : List.Forall₂ (fun p part => part.1.path = p ∧
      Accounts (results registry files p) part.2 part.1) list parts) :
    (EnqueueReport.mk (parts.map (·.1))).totalPushed =
      (parts.flatMap (·.2)).countP (·.accepted) := by
  induction h with
  | nil => rfl
  | @cons p part list parts hpart _ ih =>
    rw [List.flatMap_cons, List.countP_append, ← ih, ← hpart.2.pushed]
    rfl

/-- If all its calls are accepted, a path has pushed its tests up to the first error. -/
theorem calls_of_accounts {results : List (Except ParseError Test)} {calls : List QueueCall}
    {report : FileReport} (h : Accounts results calls report)
    (haccepted : ∀ call ∈ calls, call.accepted = true) :
    calls = ((leading results).map (·.input)).map .acknowledged := by
  have hjobs := congrArg (List.map fun job => QueueCall.mk job (.ok ())) (h.complete haccepted)
  rw [List.map_map, List.map_map] at hjobs
  rw [List.map_map]
  refine Eq.trans ?_ hjobs
  conv_lhs => rw [← List.map_id calls]
  apply List.map_congr_left
  intro call hcall
  exact QueueCall.eq_of_accepted (haccepted call hcall)

theorem flatMap_of_accounts {files : Files} {list : List String}
    {parts : List (FileReport × List QueueCall)}
    (h : List.Forall₂ (fun p part => part.1.path = p ∧
      Accounts (results registry files p) part.2 part.1) list parts)
    (haccepted : ∀ call ∈ parts.flatMap (·.2), call.accepted = true) :
    parts.flatMap (·.2) =
      (list.flatMap fun p => (leading (results registry files p)).map (·.input)).map
        .acknowledged := by
  induction h with
  | nil => rfl
  | cons hpart _ ih =>
    rw [List.flatMap_cons, List.forall_mem_append] at haccepted
    rw [List.flatMap_cons, List.flatMap_cons, List.map_append,
      calls_of_accounts hpart.2 haccepted.1, ih haccepted.2]

/-! ### The run -/

theorem run_of_error {queue : JobQueue State} {files : Files} {list : List String}
    {state left : State} {e : QueueError} (h : queue.ping state = (.error e, left)) :
    run queue registry files list ⟨parser, state⟩ = (.error e, ⟨parser, left⟩) := by
  simp only [run, h]

theorem run_of_ok {queue : JobQueue State} {files : Files} {list : List String}
    {state left : State} {reports : List FileReport} {last : Enqueuer State}
    (h : queue.ping state = (.ok (), left))
    (hpaths : paths queue registry files list ⟨parser, left⟩ = (reports, last)) :
    run queue registry files list ⟨parser, state⟩ = (.ok ⟨reports⟩, last) := by
  simp only [run, h, hpaths]

/-- A run whose ping is answered is its paths, each as it is alone. -/
theorem run_eq {queue : JobQueue State} (h : parser.Current registry) (files : Files)
    (list : List String) {state left : State} (hping : queue.ping state = (.ok (), left)) :
    let parts := eachAlone queue registry files (processed list) left
    ∃ next : Parser, run queue registry files list ⟨parser, state⟩ =
      (.ok ⟨parts.1.map (·.1)⟩, ⟨next, parts.2⟩) := by
  obtain ⟨next, -, hpaths⟩ := paths_eq queue h files list left
  exact ⟨next, run_of_ok hping hpaths⟩

/-- The calls of such a run are the ping and then the calls of its paths. -/
theorem run_recorded_eq {queue : JobQueue State} (h : parser.Current registry) (files : Files)
    (list : List String) {state left : State} (hping : queue.ping state = (.ok (), left)) :
    let parts := eachAlone queue registry files (processed list) left
    ∃ next : Parser, run queue.recorded registry files list ⟨parser, (state, [])⟩ =
      (.ok ⟨parts.1.map (·.1)⟩,
        ⟨next, (parts.2, ⟨none, .ok ()⟩ :: parts.1.flatMap (·.2))⟩) := by
  obtain ⟨next, hrun⟩ := run_eq h files list (JobQueue.recorded_ping hping [])
  rw [eachAlone_recorded] at hrun
  exact ⟨next, hrun⟩

/-- A run does not notice that its calls are recorded. -/
theorem run_recorded_agrees (queue : JobQueue State) (h : parser.Current registry)
    (files : Files) (list : List String) (state : State) :
    let plain := run queue registry files list ⟨parser, state⟩
    let recorded := run queue.recorded registry files list ⟨parser, (state, [])⟩
    recorded.1 = plain.1 ∧ recorded.2.state.1 = plain.2.state := by
  intro plain recorded
  rcases hping : queue.ping state with ⟨e | u, left⟩
  · have hplain : plain = _ := run_of_error hping
    have hrecorded : recorded = _ := run_of_error (JobQueue.recorded_ping hping [])
    rw [hplain, hrecorded]
    exact ⟨rfl, rfl⟩
  · obtain ⟨next, hplain⟩ := run_eq h files list hping
    obtain ⟨last, hrecorded⟩ := run_recorded_eq h files list hping
    simp only [plain, recorded, hplain, hrecorded, and_self]

/-- The calls that a run makes of its queue. -/
def calls (queue : JobQueue State) (registry : Registry) (files : Files) (list : List String)
    (state : State) : List QueueCall :=
  (run queue.recorded registry files list ⟨.fresh, (state, [])⟩).2.state.2

theorem calls_of_error {queue : JobQueue State} {state left : State} {e : QueueError}
    (hping : queue.ping state = (.error e, left)) (registry : Registry) (files : Files)
    (list : List String) :
    calls queue registry files list state = [⟨none, .error e⟩] := by
  rw [calls, run_of_error (JobQueue.recorded_ping hping [])]
  rfl

theorem calls_of_ok {queue : JobQueue State} {state left : State}
    (hping : queue.ping state = (.ok (), left)) (registry : Registry) (files : Files)
    (list : List String) :
    calls queue registry files list state = ⟨none, .ok ()⟩ ::
      (eachAlone queue registry files (processed list) left).1.flatMap (·.2) := by
  obtain ⟨next, hrun⟩ := run_recorded_eq (Parser.current_fresh registry) files list hping
  rw [calls, hrun]

/-- If all calls are accepted, so is the ping, and they are those of the paths. -/
theorem calls_of_accepted {queue : JobQueue State} {files : Files} {list : List String}
    {state : State} (h : ∀ call ∈ calls queue registry files list state, call.accepted = true) :
    let parts := (eachAlone queue registry files (processed list) (queue.ping state).2).1
    calls queue registry files list state = ⟨none, .ok ()⟩ :: parts.flatMap (·.2) ∧
      ∀ call ∈ parts.flatMap (·.2), call.accepted = true := by
  rcases hping : queue.ping state with ⟨e | u, left⟩
  · rw [calls_of_error hping, List.forall_mem_singleton] at h
    contradiction
  · rw [calls_of_ok hping, List.forall_mem_cons] at h
    exact ⟨calls_of_ok hping registry files list, h.2⟩

theorem calls_acknowledged {queue : JobQueue State} {files : Files} {list : List String}
    {state : State} (h : ∀ call ∈ calls queue registry files list state, call.accepted = true) :
    calls queue registry files list state = ⟨none, .ok ()⟩ ::
      ((processed list).flatMap fun p =>
        (leading (results registry files p)).map (·.input)).map .acknowledged := by
  obtain ⟨hcalls, haccepted⟩ := calls_of_accepted h
  rw [hcalls, flatMap_of_accounts (accounts_eachAlone queue registry files _ _) haccepted]

theorem processed_of_not_mem {list : List String} (h : ∀ p ∈ list, p ≠ standardInputPath) :
    processed list = list := by
  induction list with
  | nil => rfl
  | cons p list ih =>
    rw [List.forall_mem_cons] at h
    rw [processed, if_neg h.1, ih h.2]

/-- Jobs are neither lost nor duplicated nor brought out of order. The queue is
pinged once, and if that fails the run is over with that error, whatever the
files hold. Otherwise each path up to the first standard input gives one report
and accounts for its calls, and these are the calls it would make on its own,
with a fresh parser, on the queue as it finds it. What there is to offer depends
on what the path names: a file, a directory, something that will not open, or
nothing. -/
theorem run_accounts (queue : JobQueue State) (registry : Registry) (files : Files)
    (list : List String) (history : List String) (state : State) :
    let parser := Parser.fresh.after registry history
    let plain := run queue registry files list ⟨parser, state⟩
    let recorded := run queue.recorded registry files list ⟨parser, (state, [])⟩
    (recorded.1 = plain.1 ∧ recorded.2.state.1 = plain.2.state) ∧
    (∀ p, Yields registry files p (results registry files p)) ∧
    match queue.ping state with
    | (.error e, left) =>
      recorded = (.error e, ⟨parser, (left, [⟨none, .error e⟩])⟩)
    | (.ok (), left) =>
      let parts := eachAlone queue registry files (processed list) left
      let report : EnqueueReport := ⟨parts.1.map (·.1)⟩
      let calls := parts.1.flatMap (·.2)
      recorded.1 = .ok report ∧
      recorded.2.state = (parts.2, ⟨none, .ok ()⟩ :: calls) ∧
      List.Forall₂ (fun p part => part.1.path = p ∧
        Accounts (results registry files p) part.2 part.1) (processed list) parts.1 ∧
      report.totalPushed = calls.countP (·.accepted) := by
  intro parser plain recorded
  have hparser : parser.Current registry := Parser.current_fresh_after registry history
  have hyields := yields_results registry files
  rcases hping : queue.ping state with ⟨e | u, left⟩
  · have hplain : plain = _ := run_of_error hping
    have hrecorded : recorded = _ := run_of_error (JobQueue.recorded_ping hping [])
    rw [hplain, hrecorded]
    exact ⟨⟨rfl, rfl⟩, hyields, rfl⟩
  · obtain ⟨next, -, hpaths⟩ := paths_eq queue hparser files list left
    obtain ⟨later, -, hlater⟩ :=
      paths_eq queue.recorded hparser files list (left, [] ++ [⟨none, .ok ()⟩])
    rw [eachAlone_recorded] at hlater
    have hplain : plain = _ := run_of_ok hping hpaths
    have hrecorded : recorded = _ := run_of_ok (JobQueue.recorded_ping hping []) hlater
    rw [hplain, hrecorded]
    have haccounts := accounts_eachAlone queue registry files (processed list) left
    exact ⟨⟨rfl, rfl⟩, hyields, rfl, rfl, haccounts, totalPushed_of_accounts haccounts⟩

end ServiceProbe.Enqueue
