import ServiceProbe.Probe.Sample
import ServiceProbe.Proofs.Program.Collect
import ServiceProbe.Proofs.Run

/-!
When the program ends well. A local run does if all its paths can be opened, all
lines in them parse and all outcomes are passes, and what does not parse keeps no
other line from being run. Enqueueing does if the queue is reached and answers,
and each source is read to its end with every push acknowledged; the queue then
holds the lines of the sources.
-/

namespace ServiceProbe.Program

open Enqueue Text

theorem codeOf_eq_exitOk_iff {ok : Bool} : codeOf ok = exitOk ↔ ok = true := by
  cases ok <;> decide

variable {env : Environment} {schedule : Flight.Schedule (Job × Nat)} {list : List String}
  {layer : Overrides} {concurrency : Option Nat}

/-! ### Running tests here -/

theorem output_settings (env : Environment) (layer : Overrides) :
    (settings env layer).2.output = [] := by
  rcases hload : Settings.load env.files env.configPath with ⟨loaded, _ | problem⟩ <;>
    simp only [settings, hload] <;> rfl

theorem code_runHere_of_nil (h : (collect env.registry env.files list .fresh).tests = []) :
    (runHere env schedule list layer concurrency).code =
      codeOf (collect env.registry env.files list .fresh).problems.isEmpty := by
  simp only [runHere, if_pos h]

theorem runHere_of_ok {summary : Summary}
    (h : (collect env.registry env.files list .fresh).tests ≠ [])
    (hrun : runTests env.registry env.network (settings env layer).1
      (perform env (settings env layer).1) schedule (concurrency.getD defaultConcurrency)
      (collect env.registry env.files list .fresh).tests = .ok summary) :
    let problems := (collect env.registry env.files list .fresh).problems
    let ending := runHere env schedule list layer concurrency
    ending.code = codeOf (problems.isEmpty && summary.succeeded) ∧
      ending.screen.output = summary.outcomes.map outcomeLine ++ [summaryLine summary] ∧
      ending.traces = summary.traces := by
  intro problems ending
  have hending : ending =
      ⟨codeOf (problems.isEmpty && summary.succeeded),
        (settings env layer).2 ++ ⟨[], problems⟩ ++
          ⟨summary.outcomes.map outcomeLine ++ [summaryLine summary], []⟩,
        summary.traces, none⟩ := by
    simp only [ending, problems, runHere, if_neg h, hrun]
  rw [hending]
  refine ⟨rfl, ?_, rfl⟩
  change ((settings env layer).2.output ++ []) ++ _ = _
  rw [output_settings]
  rfl

theorem problems_isEmpty_iff (registry : Registry) {files : Files}
    (hfiles : ∀ path ∈ processed list, path ≠ standardInputPath →
      files.find path ≠ .ok .directory) :
    (collect registry files list .fresh).problems.isEmpty = true ↔
      ∀ path ∈ processed list, registry.Reads files path := by
  rw [List.isEmpty_iff, problems_collect_eq_nil_iff (Parser.current_fresh registry)]
  refine forall₂_congr fun path hpath => ?_
  exact (Registry.reads_iff (hfiles path hpath)).symm

/-- With nothing to run the problems alone decide, and else the outcomes as well. -/
theorem runHere_succeeds_iff
    (hfiles : ∀ path ∈ processed list, path ≠ standardInputPath →
      env.files.find path ≠ .ok .directory) {tests : List Test}
    (htests : (collect env.registry env.files list .fresh).tests = tests)
    {execute : Nat → Job → Execution}
    (hreturned : ∀ job ∈
        (Plan.ofTests env.registry env.network (settings env layer).1 tests).jobs.zipIdx,
      perform env (settings env layer).1 job.2 job.1 = .ok (execute job.2 job.1)) :
    let outcomes := Plan.allOutcomes env.registry env.network (settings env layer).1 execute tests
    let ending := runHere env schedule list layer concurrency
    (ending.code = exitOk ↔ (∀ path ∈ processed list, env.registry.Reads env.files path) ∧
      ∀ outcome ∈ outcomes, outcome.passed = true) ∧
    (tests ≠ [] → ∃ summary : Summary, summary.outcomes.Perm outcomes ∧
      ending.screen.output = summary.outcomes.map outcomeLine ++ [summaryLine summary] ∧
      ending.traces = summary.traces) := by
  intro outcomes ending
  have hread := problems_isEmpty_iff env.registry hfiles
  -- the plan is not even made if there is nothing to run
  by_cases hnone : tests = []
  · have houtcomes : outcomes = [] := by
      simp only [outcomes, hnone, Plan.allOutcomes_nil]
    refine ⟨?_, fun h => absurd hnone h⟩
    rw [code_runHere_of_nil (htests.trans hnone), codeOf_eq_exitOk_iff, hread, houtcomes]
    simp
  · obtain ⟨summary, hrun, hperm⟩ :=
      runTests_of_returned hreturned schedule (concurrency.getD defaultConcurrency)
    rw [← htests] at hnone hrun
    obtain ⟨hcode, houtput, htraces⟩ := runHere_of_ok hnone hrun
    refine ⟨?_, fun _ => ⟨summary, hperm, houtput, htraces⟩⟩
    rw [hcode, codeOf_eq_exitOk_iff, Bool.and_eq_true, hread, Summary.succeeded_iff]
    refine and_congr_right fun _ => forall_congr' fun outcome => ?_
    rw [hperm.mem_iff]

/-! ### Enqueueing -/

theorem code_runEnqueue_iff :
    (runEnqueue env list layer).code = exitOk ↔ ∃ connection,
      (Redis.connect env.queues (settings env layer).1).1 = .ok connection ∧
      ∃ report, (Enqueue.run Redis.queue env.registry env.files list ⟨.fresh, connection⟩).1 =
        .ok report ∧ report.succeeded = true := by
  rcases hconnect : Redis.connect env.queues (settings env layer).1 with
    ⟨e | connection, server⟩
  · simp only [runEnqueue, hconnect]
    simp [exitFailed, exitOk]
  · rcases hrun : Enqueue.run Redis.queue env.registry env.files list ⟨.fresh, connection⟩ with
      ⟨e | report, left⟩
    · simp only [runEnqueue, hconnect, hrun]
      simp [hrun, exitFailed, exitOk]
    · simp only [runEnqueue, hconnect, hrun]
      simp [hrun, codeOf_eq_exitOk_iff]

theorem runEnqueue_succeeds_iff (env : Environment) (list : List String) (layer : Overrides) :
    (runEnqueue env list layer).code = exitOk ↔ ∃ connection,
      (Redis.connect env.queues (settings env layer).1).1 = .ok connection ∧
      (Redis.queue.ping connection).1 = .ok () ∧
      (∀ path ∈ processed list, env.registry.IsClean env.files path) ∧
      ∀ call ∈ calls Redis.queue env.registry env.files list connection,
        call.accepted = true := by
  rw [code_runEnqueue_iff]
  refine exists_congr fun connection => and_congr_right fun _ => ?_
  exact run_succeeded_iff Redis.queue env.registry env.files list connection

theorem server_runEnqueue {connection : Redis.Connection}
    (h : (Redis.connect env.queues (settings env layer).1).1 = .ok connection) :
    (runEnqueue env list layer).server =
      some (Enqueue.run Redis.queue env.registry env.files list
        ⟨.fresh, connection⟩).2.state.server := by
  rcases hconnect : Redis.connect env.queues (settings env layer).1 with ⟨answer, server⟩
  rw [hconnect] at h
  cases h
  rcases hrun : Enqueue.run Redis.queue env.registry env.files list ⟨.fresh, connection⟩ with
    ⟨e | report, left⟩ <;>
  simp only [runEnqueue, hconnect, hrun]

/-! ### The program -/

theorem run_of_runHere (h : Command.parse env.arguments = .ok (.runHere list layer concurrency)) :
    run env schedule = runHere env schedule list layer concurrency := by
  rw [run, h]

theorem run_of_enqueue (h : Command.parse env.arguments = .ok (.enqueue list layer)) :
    run env schedule = runEnqueue env list layer := by
  rw [run, h]

/-- A run here succeeds if every path that comes to be read can be opened, every line
in them that says something parses and every outcome is a pass; each line that parses
has its outcome, whatever is wrong with others. Enqueueing succeeds if the queue can be
reached and answers the ping, every source is read to its end and every push is
acknowledged; then what was pushed are the lines of the sources that say something, in
their order and once each. The server is left as the pushes leave it. -/
theorem run_succeeds_iff (env : Environment) (schedule : Flight.Schedule (Job × Nat)) :
    let ending := run env schedule
    (∀ list layer concurrency,
      Command.parse env.arguments = .ok (.runHere list layer concurrency) →
      (∀ path ∈ processed list, path ≠ standardInputPath →
        env.files.find path ≠ .ok .directory) →
      let settings := (settings env layer).1
      let tests := (processed list).flatMap fun path =>
        (env.files.linesOf path).filterMap env.registry.testOf?
      ∀ execute : Nat → Job → Execution,
      (∀ job ∈ (Plan.ofTests env.registry env.network settings tests).jobs.zipIdx,
        perform env settings job.2 job.1 = .ok (execute job.2 job.1)) →
      let outcomes := Plan.allOutcomes env.registry env.network settings execute tests
      let allRead := ∀ path ∈ processed list, env.registry.Reads env.files path
      (ending.code = exitOk ↔ allRead ∧ ∀ outcome ∈ outcomes, outcome.passed = true) ∧
      (tests = [] → (ending.code = exitOk ↔ allRead)) ∧
      (tests ≠ [] → ∃ summary : Summary, summary.outcomes.Perm outcomes ∧
        (∀ test ∈ tests, ∃ outcome ∈ summary.outcomes, outcome.input = test.input) ∧
        ending.screen.output = summary.outcomes.map outcomeLine ++ [summaryLine summary] ∧
        ending.traces = summary.traces)) ∧
    (∀ list layer, Command.parse env.arguments = .ok (.enqueue list layer) →
      let reached := (Redis.connect env.queues (settings env layer).1).1
      let pushes := calls Redis.queue env.registry env.files list
      (ending.code = exitOk ↔ ∃ connection, reached = .ok connection ∧
        (Redis.queue.ping connection).1 = .ok () ∧
        (∀ path ∈ processed list, env.registry.IsClean env.files path) ∧
        ∀ call ∈ pushes connection, call.accepted = true) ∧
      ∀ connection, reached = .ok connection →
        let recorded := Enqueue.run Redis.queue.recorded env.registry env.files list
          ⟨.fresh, (connection, [])⟩
        recorded.2.state.2 = pushes connection ∧
        ending.server = some recorded.2.state.1.server ∧
        (ending.code = exitOk → pushes connection = ⟨none, .ok ()⟩ ::
          ((processed list).flatMap fun path =>
            ((env.files.linesOf path).filter (!isSkipped ·)).map trimmedText).map
              .acknowledged)) := by
  intro ending
  constructor
  · intro list layer concurrency hparse hfiles settings tests execute hreturned outcomes allRead
    have htests := tests_collect (Parser.current_fresh env.registry) env.files list
    obtain ⟨hcode, hrun⟩ := runHere_succeeds_iff hfiles htests hreturned
    have hending : ending = _ := run_of_runHere hparse
    rw [hending]
    refine ⟨hcode, ?_, ?_⟩
    · intro hnone
      have houtcomes : outcomes = [] := by
        simp only [outcomes, hnone, Plan.allOutcomes_nil]
      rw [hcode]
      refine ⟨And.left, fun hread => ⟨hread, ?_⟩⟩
      change ∀ outcome ∈ outcomes, _
      simp [houtcomes]
    · intro hsome
      obtain ⟨summary, hperm, hshown⟩ := hrun hsome
      refine ⟨summary, hperm, ?_, hshown⟩
      intro test htest
      obtain ⟨outcome, hmem, hinput, -⟩ := Plan.exists_outcome_of_mem execute htest
      exact ⟨outcome, hperm.mem_iff.2 hmem, hinput⟩
  · intro list layer hparse reached pushes
    have hending : ending = _ := run_of_enqueue hparse
    have hcode := runEnqueue_succeeds_iff env list layer
    rw [hending]
    refine ⟨hcode, ?_⟩
    intro connection hreached recorded
    have hagrees := run_recorded_agrees Redis.queue (Parser.current_fresh env.registry)
      env.files list connection
    refine ⟨rfl, ?_, ?_⟩
    · rw [server_runEnqueue hreached, ← hagrees.2]
    · intro hok
      obtain ⟨other, hother, -, hclean, haccepted⟩ := hcode.1 hok
      change reached = .ok other at hother
      rw [hreached, Except.ok.injEq] at hother
      subst hother
      exact calls_of_succeeded hclean haccepted

/-- Two tests, the second set in, below a comment. -/
def sampleContent : Bytes :=
  encode "# how often\na must run counting\n b must run counting\n".toList

def sampleFiles : Files := ⟨[("/checks", .file sampleContent)], []⟩

def sampleRegistry : Registry := Registry.empty.register "counting" .counting

/-- What is around a program whose tests pass and whose queue takes all jobs. -/
def sampleEnvironment (command : String) : Environment where
  arguments := [command, "/checks"]
  configPath := none
  files := sampleFiles
  registry := sampleRegistry
  network := .unreachable
  queues _ := .ok (.ofAnswers [])
  clock _ := ⟨0⟩
  queryIds _ := 0
  elapsed _ := .zero

theorem perform_sampleEnvironment {job : Job} (hprotocol : job.test.protocol = "counting")
    (harguments : job.test.arguments = []) (command : String) (settings : Settings)
    (place : Nat) :
    perform (sampleEnvironment command) settings place job = .ok ⟨⟨.ok (), []⟩, .zero⟩ := by
  have hlookup : (sampleEnvironment command).registry.lookup "counting" = some .counting :=
    Registry.lookup_register_self ..
  have hexpected : job.test.argument "expect" = "" := by
    rw [Test.argument, Test.argument?, harguments]
    rfl
  simp only [perform, Job.run, hprotocol, hlookup, Probe.counting, hexpected]
  rfl

theorem isClean_sample : ∀ path ∈ processed ["/checks"],
    sampleRegistry.IsClean sampleFiles path := by
  intro path hpath
  rw [List.mem_singleton.1 hpath]
  exact ⟨sampleContent, by decide +kernel, by decide +kernel⟩

theorem succeeds_on_sample :
    (run (sampleEnvironment "local") .inOrder).code = exitOk ∧
    (run (sampleEnvironment "enqueue") .inOrder).code = exitOk ∧
    ∃ connection, calls Redis.queue sampleRegistry sampleFiles ["/checks"] connection =
      ⟨none, .ok ()⟩ :: ["a must run counting", "b must run counting"].map .acknowledged := by
  constructor
  · have hfiles : ∀ path ∈ processed ["/checks"], path ≠ standardInputPath →
        sampleFiles.find path ≠ .ok .directory := by
      decide +kernel
    have hrun := (run_succeeds_iff (sampleEnvironment "local") .inOrder).1 ["/checks"] .none none
      (by decide +kernel) hfiles (fun _ _ => ⟨⟨.ok (), []⟩, .zero⟩) ?_
    · refine hrun.1.2 ⟨?_, by decide +kernel⟩
      intro path hpath
      exact (Registry.reads_iff (hfiles path hpath)).2 (isClean_sample path hpath)
    · intro job hjob
      have hjobs : job.1.test.protocol = "counting" ∧ job.1.test.arguments = [] := by
        revert job
        decide +kernel
      exact perform_sampleEnvironment hjobs.1 hjobs.2 "local" _ job.2
  · let enqueueing := sampleEnvironment "enqueue"
    have hrun := (run_succeeds_iff enqueueing .inOrder).2 ["/checks"] .none (by decide +kernel)
    have hconnect : (Redis.connect enqueueing.queues (settings enqueueing .none).1).1 =
        .ok ⟨.ofServer (.ofAnswers []), .ofSeconds 5⟩ := by
      cbv
    have hcode : (run enqueueing .inOrder).code = exitOk :=
      hrun.1.2 ⟨_, hconnect, by decide +kernel, isClean_sample, by decide +kernel⟩
    refine ⟨hcode, _, ((hrun.2 _ hconnect).2.2 hcode).trans ?_⟩
    have htexts : ((processed ["/checks"]).flatMap fun path =>
        ((sampleFiles.linesOf path).filter (!isSkipped ·)).map trimmedText) =
          ["a must run counting", "b must run counting"] := by
      decide +kernel
    exact congrArg (fun texts => _ :: texts.map QueueCall.acknowledged) htexts

end ServiceProbe.Program
