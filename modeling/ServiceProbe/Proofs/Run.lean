import Mathlib.Data.List.Destutter
import ServiceProbe.Proofs.Flight
import ServiceProbe.Run

/-!
What a run of tests comes to. The plan of a list of tests is told from the tests
one by one, with what is registered and what their targets resolve to: those that
cannot be planned, and the pairs of a test and an address. If each run of a pair
has some result, then under every schedule the outcomes are those of the first and,
in some order, one for each of the second.
-/

namespace ServiceProbe

/-- The error of a run as an outcome shows it. -/
def Execution.error? (execution : Execution) : Option String :=
  match execution.report.result with
  | .ok () => none
  | .error e => some e.message

theorem dropRepeats_eq_destutter {α : Type} [DecidableEq α] (l : List α) :
    dropRepeats l = l.destutter (· ≠ ·) := by
  fun_induction dropRepeats l with
  | case1 => rfl
  | case2 a => rfl
  | case3 a rest ih =>
    rw [ih, List.destutter_cons', List.destutter_cons', List.destutter'_cons_neg]
    simp
  | case4 a b rest hne ih =>
    rw [ih, List.destutter_cons', List.destutter_cons', List.destutter'_cons_pos _ hne]

/-- What is said of a host if none of its addresses is in use. -/
def noUsableAddress (settings : Settings) (host : String) : ProbeError :=
  .network s!"no usable addresses for {host} (ipv4: {settings.ipv4}, ipv6: {settings.ipv6})"

namespace Plan

variable (registry : Registry) (network : Net.Network) (settings : Settings)

/-- The addresses to use of those that were found: the families that are not wanted
are left out, and then those that repeat the one before. -/
def usable (found : List Net.IpAddress) : List Net.IpAddress :=
  (found.filter fun
    | .v4 _ => settings.ipv4
    | .v6 _ => settings.ipv6).destutter (· ≠ ·)

/-- Why a test cannot be planned: its protocol is not registered, or its target is to
be resolved and has no address to use. -/
def refusal? (test : Test) : Option ProbeError :=
  match registry.lookup test.protocol with
  | none => some (.invalidArgument s!"unknown protocol '{test.protocol}'")
  | some probe =>
    if probe.resolvesTarget then
      match network.addresses test.target with
      | .error e => some (.network s!"failed to resolve {test.target}: {e.text}")
      | .ok found =>
        if usable settings found = [] then some (noUsableAddress settings test.target) else none
    else none

/-- The outcome of a test that cannot be planned. -/
def failure? (test : Test) : Option Outcome :=
  (refusal? registry network settings test).map fun e =>
    ⟨test.input, test.protocol, test.target, .zero, some e.message⟩

/-- The addresses that a test is to be run against: the target as it stands, or those
to use of the ones it resolves to. -/
def addresses (test : Test) : List String :=
  match registry.lookup test.protocol with
  | none => []
  | some probe =>
    if probe.resolvesTarget then
      match network.addresses test.target with
      | .error _ => []
      | .ok found => (usable settings found).map (·.text)
    else [test.target]

/-- The planned pairs of a test and an address, in the order of the tests. -/
def pairs (tests : List Test) : List (Test × String) :=
  tests.flatMap fun test => (addresses registry network settings test).map (test, ·)

/-- What becomes of a pair at its place in the plan. -/
def pairOutcome (execute : Nat → Job → Execution) (pair : (Test × String) × Nat) : Outcome where
  input := pair.1.1.input
  protocol := pair.1.1.protocol
  address := pair.1.2
  elapsed := (execute pair.2 ⟨pair.1.1, pair.1.2⟩).elapsed
  error := (execute pair.2 ⟨pair.1.1, pair.1.2⟩).error?

variable {registry : Registry} {network : Net.Network} {settings : Settings}

/-! ### Reading the plan -/

/-- A test that cannot be planned has no jobs, and one that can has a job for each of its
addresses. -/
theorem planTest_eq (test : Test) :
    planTest registry network settings test =
      match refusal? registry network settings test with
      | some e => .error e
      | none => .ok ((addresses registry network settings test).map (⟨test, ·⟩)) := by
  rw [planTest, refusal?, addresses]
  cases registry.lookup test.protocol with
  | none => rfl
  | some probe =>
    dsimp only
    cases probe.resolvesTarget with
    | false => rfl
    | true =>
      simp only [if_true, resolve]
      cases network.addresses test.target with
      | error e => rfl
      | ok found =>
        have hused : dropRepeats (found.filter settings.uses) = usable settings found :=
          dropRepeats_eq_destutter _
        dsimp only
        rw [hused]
        cases usable settings found with
        | nil => rfl
        | cons ip others => simp [Except.map]

theorem addresses_eq_nil_iff {test : Test} :
    addresses registry network settings test = [] ↔
      refusal? registry network settings test ≠ none := by
  rw [addresses, refusal?]
  cases registry.lookup test.protocol with
  | none => simp
  | some probe =>
    dsimp only
    cases probe.resolvesTarget with
    | false => simp
    | true => cases network.addresses test.target <;> simp

theorem ofTests_cons_of_error {test : Test} {tests : List Test} {e : ProbeError}
    (h : planTest registry network settings test = .error e) :
    ofTests registry network settings (test :: tests) =
      ⟨.unplanned test e :: (ofTests registry network settings tests).failures,
        (ofTests registry network settings tests).jobs⟩ := by
  rw [ofTests, h]

theorem ofTests_cons_of_ok {test : Test} {tests : List Test} {jobs : List Job}
    (h : planTest registry network settings test = .ok jobs) :
    ofTests registry network settings (test :: tests) =
      ⟨(ofTests registry network settings tests).failures,
        jobs ++ (ofTests registry network settings tests).jobs⟩ := by
  rw [ofTests, h]

theorem ofTests_append (before after : List Test) :
    ofTests registry network settings (before ++ after) =
      ⟨(ofTests registry network settings before).failures ++
        (ofTests registry network settings after).failures,
      (ofTests registry network settings before).jobs ++
        (ofTests registry network settings after).jobs⟩ := by
  induction before with
  | nil => rfl
  | cons test before ih =>
    rw [List.cons_append]
    cases hplan : planTest registry network settings test with
    | error e =>
      rw [ofTests_cons_of_error hplan, ofTests_cons_of_error hplan, ih]
      rfl
    | ok jobs => rw [ofTests_cons_of_ok hplan, ofTests_cons_of_ok hplan, ih, List.append_assoc]

theorem failures_ofTests (tests : List Test) :
    (ofTests registry network settings tests).failures =
      tests.filterMap (failure? registry network settings) := by
  induction tests with
  | nil => rfl
  | cons test tests ih =>
    have hplan : planTest registry network settings test = _ := planTest_eq test
    rw [List.filterMap_cons, failure?, ← ih]
    cases hrefusal : refusal? registry network settings test with
    | some e =>
      rw [hrefusal] at hplan
      rw [ofTests_cons_of_error hplan]
      rfl
    | none =>
      rw [hrefusal] at hplan
      rw [ofTests_cons_of_ok hplan]
      rfl

theorem jobs_ofTests (tests : List Test) :
    (ofTests registry network settings tests).jobs =
      (pairs registry network settings tests).map fun pair => ⟨pair.1, pair.2⟩ := by
  induction tests with
  | nil => rfl
  | cons test tests ih =>
    have hplan : planTest registry network settings test = _ := planTest_eq test
    rw [pairs, List.flatMap_cons, List.map_append, ← pairs, ← ih, List.map_map]
    cases hrefusal : refusal? registry network settings test with
    | some e =>
      have hnone : addresses registry network settings test = [] :=
        addresses_eq_nil_iff.2 (by simp [hrefusal])
      rw [hrefusal] at hplan
      rw [ofTests_cons_of_error hplan, hnone]
      rfl
    | none =>
      rw [hrefusal] at hplan
      rw [ofTests_cons_of_ok hplan]
      rfl

end Plan

/-! ### Carrying out -/

theorem performAll_ok (execute : Nat → Job → Execution) (order : List (Job × Nat)) :
    performAll (fun place job => .ok (execute place job)) order =
      .ok ⟨order.map fun job => job.1.outcome (execute job.2 job.1),
        order.flatMap fun job => (execute job.2 job.1).report.traces⟩ := by
  induction order with
  | nil => rfl
  | cons job order ih =>
    obtain ⟨job, place⟩ := job
    rw [performAll, ih]
    rfl

theorem Plan.run_ok (plan : Plan) (execute : Nat → Job → Execution)
    (schedule : Flight.Schedule (Job × Nat)) (concurrency : Nat) :
    let order := Flight.completionOrder schedule concurrency plan.jobs.zipIdx
    plan.run (fun place job => .ok (execute place job)) schedule concurrency =
      .ok ⟨plan.failures ++ order.map fun job => job.1.outcome (execute job.2 job.1),
        order.flatMap fun job => (execute job.2 job.1).report.traces⟩ := by
  rw [run, performAll_ok]
  rfl

theorem Plan.run_of_no_jobs (failures : List Outcome) (perform : Performer)
    (schedule : Flight.Schedule (Job × Nat)) (concurrency : Nat) :
    run ⟨failures, []⟩ perform schedule concurrency = .ok ⟨failures, []⟩ := by
  have horder := List.perm_nil.1 (Flight.completionOrder_perm schedule concurrency [])
  rw [run, List.zipIdx_nil, horder, performAll]
  show Except.ok (Summary.mk (failures ++ []) []) = _
  rw [List.append_nil]

theorem Plan.run_of_one_job (job : Job) (perform : Performer)
    (schedule : Flight.Schedule (Job × Nat)) (concurrency : Nat) :
    run ⟨[], [job]⟩ perform schedule concurrency =
      (perform 0 job).map fun execution => ⟨[job.outcome execution], execution.report.traces⟩ := by
  have horder := List.perm_singleton.1 (Flight.completionOrder_perm schedule concurrency [(job, 0)])
  rw [run, List.zipIdx_singleton, horder, performAll]
  cases perform 0 job with
  | error crash => rfl
  | ok execution =>
    show Except.ok (Summary.mk _ (execution.report.traces ++ [])) = _
    rw [List.append_nil]
    rfl

theorem performAll_congr {perform perform' : Performer} {order : List (Job × Nat)}
    (h : ∀ job ∈ order, perform job.2 job.1 = perform' job.2 job.1) :
    performAll perform order = performAll perform' order := by
  induction order with
  | nil => rfl
  | cons job order ih =>
    rw [List.forall_mem_cons] at h
    obtain ⟨job, place⟩ := job
    rw [performAll, performAll, ih h.2, h.1]

theorem Plan.run_congr {plan : Plan} {perform perform' : Performer}
    (h : ∀ job ∈ plan.jobs.zipIdx, perform job.2 job.1 = perform' job.2 job.1)
    (schedule : Flight.Schedule (Job × Nat)) (concurrency : Nat) :
    plan.run perform schedule concurrency = plan.run perform' schedule concurrency := by
  have hperm := Flight.completionOrder_perm schedule concurrency plan.jobs.zipIdx
  have horder := performAll_congr fun job hjob => h job (hperm.mem_iff.1 hjob)
  rw [run, run, horder]

/-- Each job of the plan comes to the outcome of its pair. -/
theorem Plan.outcomes_ofTests {registry : Registry} {network : Net.Network}
    {settings : Settings} (execute : Nat → Job → Execution) (tests : List Test) :
    ((ofTests registry network settings tests).jobs.zipIdx.map fun job =>
        job.1.outcome (execute job.2 job.1)) =
      (pairs registry network settings tests).zipIdx.map (pairOutcome execute) := by
  rw [jobs_ofTests, List.zipIdx_map, List.map_map]
  rfl

/-- All outcomes of a list of tests, if each run of the plan comes to what `execute`
says: those of the tests that cannot be planned, and one for each planned pair. -/
def Plan.allOutcomes (registry : Registry) (network : Net.Network) (settings : Settings)
    (execute : Nat → Job → Execution) (tests : List Test) : List Outcome :=
  tests.filterMap (failure? registry network settings) ++
    (pairs registry network settings tests).zipIdx.map (pairOutcome execute)

theorem Plan.allOutcomes_nil (registry : Registry) (network : Net.Network)
    (settings : Settings) (execute : Nat → Job → Execution) :
    allOutcomes registry network settings execute [] = [] := rfl

/-- No test is left out. -/
theorem Plan.exists_outcome_of_mem {registry : Registry} {network : Net.Network}
    {settings : Settings} (execute : Nat → Job → Execution) {tests : List Test} {test : Test}
    (h : test ∈ tests) :
    ∃ outcome ∈ allOutcomes registry network settings execute tests,
      outcome.input = test.input ∧ outcome.protocol = test.protocol := by
  cases hrefusal : refusal? registry network settings test with
  | some e =>
    have hfailure : failure? registry network settings test =
        some ⟨test.input, test.protocol, test.target, .zero, some e.message⟩ := by
      rw [failure?, hrefusal, Option.map_some]
    exact ⟨_, List.mem_append_left _ (List.mem_filterMap.2 ⟨test, h, hfailure⟩), rfl, rfl⟩
  | none =>
    have hsome : addresses registry network settings test ≠ [] := fun hnone =>
      addresses_eq_nil_iff.1 hnone hrefusal
    obtain ⟨address, haddress⟩ := List.exists_mem_of_ne_nil _ hsome
    have hpair : (test, address) ∈ pairs registry network settings tests :=
      List.mem_flatMap.2 ⟨test, h, List.mem_map_of_mem haddress⟩
    obtain ⟨place, hplace⟩ := List.mem_iff_getElem?.1 hpair
    have hmem : ((test, address), place) ∈ (pairs registry network settings tests).zipIdx :=
      List.mem_zipIdx_iff_getElem?.2 hplace
    exact ⟨_, List.mem_append_right _ (List.mem_map_of_mem hmem), rfl, rfl⟩

theorem Plan.passed_of_mem_failures {registry : Registry} {network : Net.Network}
    {settings : Settings} {tests : List Test} {outcome : Outcome}
    (h : outcome ∈ tests.filterMap (failure? registry network settings)) :
    outcome.passed = false := by
  obtain ⟨test, -, hfailure⟩ := List.mem_filterMap.1 h
  obtain ⟨e, -, rfl⟩ := Option.map_eq_some_iff.1 hfailure
  rfl

/-! ### Counting -/

/-- What a summary counts does not depend on the order of the outcomes that
follow the failures. -/
theorem Summary.counts_of_perm {summary : Summary} {failures done outcomes : List Outcome}
    (hsummary : summary.outcomes = failures ++ done) (hperm : done.Perm outcomes)
    (hfailures : ∀ outcome ∈ failures, outcome.passed = false) :
    summary.passed = outcomes.countP (·.passed) ∧
      summary.failed = failures.length + outcomes.countP (!·.passed) ∧
      (summary.succeeded = true ↔
        failures = [] ∧ ∀ outcome ∈ outcomes, outcome.passed = true) := by
  have hnone : failures.countP (·.passed) = 0 := by
    rw [List.countP_eq_zero]
    intro outcome hmem
    simp [hfailures outcome hmem]
  have hpassed : summary.passed = outcomes.countP (·.passed) := by
    rw [passed, hsummary, List.countP_append, hnone, Nat.zero_add, hperm.countP_eq]
  have hfailed : summary.failed = failures.length + outcomes.countP (!·.passed) := by
    have hlength := List.length_eq_countP_add_countP (·.passed) (l := outcomes)
    rw [failed, hpassed, hsummary, List.length_append, hperm.length_eq, hlength]
    simp only [Bool.not_eq_true, Bool.decide_eq_false]
    omega
  refine ⟨hpassed, hfailed, ?_⟩
  rw [succeeded, hfailed, decide_eq_true_eq, Nat.add_eq_zero_iff, List.length_eq_zero_iff,
    List.countP_eq_zero]
  simp

theorem Summary.succeeded_iff {summary : Summary} :
    summary.succeeded = true ↔ ∀ outcome ∈ summary.outcomes, outcome.passed = true := by
  have hle := summary.passed_le
  rw [succeeded, decide_eq_true_eq, failed, Nat.sub_eq_zero_iff_le, ← List.countP_eq_length]
  exact ⟨fun h => Nat.le_antisymm hle h, fun h => Nat.le_of_eq h.symm⟩

/-- No test is lost and none is run twice, under any schedule and any limit. In
each state the flight keeps to the plan, and each order of completion is that of
a schedule. The outcomes are those of the tests that cannot be planned, in the
order of the tests, and then one for each planned pair, in the order in which they
were over; each test has one of them, and what the summary counts is the same for
all orders. -/
theorem runTests_complete (registry : Registry) (network : Net.Network) (settings : Settings)
    (execute : Nat → Job → Execution) (concurrency : Nat) (tests : List Test) :
    let pairs := Plan.pairs registry network settings tests
    let jobs := (pairs.map fun pair => Job.mk pair.1 pair.2).zipIdx
    let failures := tests.filterMap (Plan.failure? registry network settings)
    let outcomes := pairs.zipIdx.map (Plan.pairOutcome execute)
    (∀ flight, Flight.Reachable concurrency jobs flight → flight.Follows concurrency jobs) ∧
    (∀ flight, Flight.Reachable concurrency jobs flight → flight.running = [] →
      ∃ schedule, Flight.land schedule (Flight.launch concurrency jobs) = flight) ∧
    ∀ schedule,
      let landed := Flight.land schedule (Flight.launch concurrency jobs)
      let done := landed.finished.map fun job =>
        Plan.pairOutcome execute ((job.1.test, job.1.address), job.2)
      Flight.Reachable concurrency jobs landed ∧
      ∃ summary, runTests registry network settings (fun place job => .ok (execute place job))
          schedule concurrency tests = .ok summary ∧
        summary.outcomes = failures ++ done ∧
        done.Perm outcomes ∧
        (∀ test ∈ tests, ∃ outcome ∈ summary.outcomes,
          outcome.input = test.input ∧ outcome.protocol = test.protocol) ∧
        summary.passed = outcomes.countP (·.passed) ∧
        summary.failed = failures.length + outcomes.countP (!·.passed) ∧
        (summary.succeeded = true ↔
          failures = [] ∧ ∀ outcome ∈ outcomes, outcome.passed = true) := by
  intro pairs jobs failures outcomes
  refine ⟨fun flight h => h.follows, ?_, ?_⟩
  · intro flight h hlanded
    obtain ⟨schedule, hland⟩ := h.exists_schedule .inOrder
    refine ⟨schedule, hland.trans ?_⟩
    rw [Flight.land, dif_pos hlanded]
  · intro schedule landed done
    refine ⟨(Flight.reachable_land schedule .launch).1, ?_⟩
    have hrun := Plan.run_ok (Plan.ofTests registry network settings tests) execute schedule
      concurrency
    rw [Plan.failures_ofTests, Plan.jobs_ofTests] at hrun
    have hperm : done.Perm outcomes := by
      have hoverall := (Flight.completionOrder_perm schedule concurrency jobs).map fun job =>
        Plan.pairOutcome execute ((job.1.test, job.1.address), job.2)
      refine hoverall.trans (.of_eq ?_)
      simp only [jobs, List.zipIdx_map, List.map_map]
      rfl
    refine ⟨_, hrun, rfl, hperm, fun test htest => ?_, ?_⟩
    · obtain ⟨outcome, hmem, houtcome⟩ := Plan.exists_outcome_of_mem execute htest
      exact ⟨outcome, (hperm.append_left failures).mem_iff.2 hmem, houtcome⟩
    · exact Summary.counts_of_perm rfl hperm fun _ => Plan.passed_of_mem_failures

/-! ### Runs that all have a result -/

theorem runTests_of_returned {registry : Registry} {network : Net.Network} {settings : Settings}
    {perform : Performer} {execute : Nat → Job → Execution} {tests : List Test}
    (h : ∀ job ∈ (Plan.ofTests registry network settings tests).jobs.zipIdx,
      perform job.2 job.1 = .ok (execute job.2 job.1))
    (schedule : Flight.Schedule (Job × Nat)) (concurrency : Nat) :
    ∃ summary, runTests registry network settings perform schedule concurrency tests =
        .ok summary ∧
      summary.outcomes.Perm (Plan.allOutcomes registry network settings execute tests) := by
  have hrun := (Plan.run_congr h schedule concurrency).trans
    (Plan.run_ok _ execute schedule concurrency)
  refine ⟨_, hrun, ?_⟩
  dsimp only
  rw [Plan.failures_ofTests, Plan.allOutcomes, ← Plan.outcomes_ofTests]
  exact ((Flight.completionOrder_perm _ _ _).map _).append_left _

/-! ### Runs that crash -/

/-- What a job leaves in the network. -/
def tracesOf (perform : Performer) (job : Job × Nat) : List Trace :=
  match perform job.2 job.1 with
  | .ok execution => execution.report.traces
  | .error crash => crash.traces

/-- The first job that crashes takes all results with it, and leaves what the jobs
before it have left. -/
theorem performAll_of_crash {perform : Performer} {done later : List (Job × Nat)}
    {job : Job × Nat} {crash : Crash}
    (hdone : ∀ earlier ∈ done, ∃ execution, perform earlier.2 earlier.1 = .ok execution)
    (hjob : perform job.2 job.1 = .error crash) :
    performAll perform (done ++ job :: later) =
      .error (crash.after (done.flatMap (tracesOf perform))) := by
  induction done with
  | nil =>
    obtain ⟨job, place⟩ := job
    rw [List.nil_append, performAll, hjob]
    rfl
  | cons first done ih =>
    rw [List.forall_mem_cons] at hdone
    obtain ⟨execution, hfirst⟩ := hdone.1
    have htraces : tracesOf perform first = execution.report.traces := by rw [tracesOf, hfirst]
    obtain ⟨first, place⟩ := first
    rw [List.cons_append, performAll, hfirst, ih hdone.2, List.flatMap_cons, htraces]
    exact congrArg (fun traces => Except.error (Crash.mk traces)) (List.append_assoc _ _ _).symm

/-- All jobs have a result, or there is a first one that crashes. -/
theorem executed_or_crash (perform : Performer) (order : List (Job × Nat)) :
    (∀ job ∈ order, ∃ execution, perform job.2 job.1 = .ok execution) ∨
      ∃ done job later crash, order = done ++ job :: later ∧
        (∀ earlier ∈ done, ∃ execution, perform earlier.2 earlier.1 = .ok execution) ∧
        perform job.2 job.1 = .error crash := by
  induction order with
  | nil => exact .inl (by simp)
  | cons job order ih =>
    cases hjob : perform job.2 job.1 with
    | error crash => exact .inr ⟨[], job, order, crash, rfl, by simp, hjob⟩
    | ok execution =>
      rcases ih with hall | ⟨done, other, later, crash, rfl, hdone, hother⟩
      · exact .inl (List.forall_mem_cons.2 ⟨⟨execution, hjob⟩, hall⟩)
      · exact .inr ⟨job :: done, other, later, crash, rfl,
          List.forall_mem_cons.2 ⟨⟨execution, hjob⟩, hdone⟩, hother⟩

/-- Without a crash every test has an outcome, and with one there is none: what is left
are the traces of the jobs that were over before it. -/
theorem runTests_returns_or_crashes (registry : Registry) (network : Net.Network)
    (settings : Settings) (perform : Performer) (schedule : Flight.Schedule (Job × Nat))
    (concurrency : Nat) (tests : List Test) :
    let jobs := (Plan.ofTests registry network settings tests).jobs.zipIdx
    let run := runTests registry network settings perform schedule concurrency tests
    (∃ execute summary, (∀ job ∈ jobs, perform job.2 job.1 = .ok (execute job.2 job.1)) ∧
      run = .ok summary ∧
      summary.outcomes.Perm (Plan.allOutcomes registry network settings execute tests)) ∨
    ∃ done job later crash,
      Flight.completionOrder schedule concurrency jobs = done ++ job :: later ∧
      (∀ earlier ∈ done, ∃ execution, perform earlier.2 earlier.1 = .ok execution) ∧
      perform job.2 job.1 = .error crash ∧
      run = .error (crash.after (done.flatMap (tracesOf perform))) := by
  intro jobs run
  rcases executed_or_crash perform (Flight.completionOrder schedule concurrency jobs) with
    hall | ⟨done, job, later, crash, horder, hdone, hjob⟩
  · let execute (place : Nat) (job : Job) : Execution :=
      (perform place job).toOption.getD ⟨⟨.ok (), []⟩, .zero⟩
    have hexecute : ∀ job ∈ jobs, perform job.2 job.1 = .ok (execute job.2 job.1) := by
      intro job hjob
      obtain ⟨execution, hrun⟩ :=
        hall job ((Flight.completionOrder_perm schedule concurrency jobs).mem_iff.2 hjob)
      simp only [execute, hrun, Except.toOption, Option.getD_some]
    obtain ⟨summary, hrun, hperm⟩ := runTests_of_returned hexecute schedule concurrency
    exact .inl ⟨execute, summary, hexecute, hrun, hperm⟩
  · refine .inr ⟨done, job, later, crash, horder, hdone, hjob, ?_⟩
    show Plan.run _ perform schedule concurrency = _
    rw [Plan.run, horder, performAll_of_crash hdone hjob]
    rfl

end ServiceProbe
