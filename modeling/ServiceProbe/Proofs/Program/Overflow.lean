import ServiceProbe.Proofs.Duration.Notation
import ServiceProbe.Proofs.Probe.Traces
import ServiceProbe.Proofs.Program.Exit

/-!
Timeouts that the clock cannot show. The notation of durations goes up to the limit
of durations, which is twice that of the clock. A mail session whose deadline is over
the limit of the clock has no result, and neither has any other test of that program.
-/

namespace ServiceProbe

open Enqueue Text

namespace Deadline

theorem after?_eq_none_iff {now : Instant} {budget : Duration} :
    after? now budget = none ↔ Instant.limit ≤ now.nanos + budget.nanos := by
  rw [after?, Option.map_eq_none_iff, Instant.after?, ite_eq_right_iff]
  simp

end Deadline

namespace Imap

/-- A run crashes for its deadline, and only if it gets that far. -/
theorem run_probe_eq_error_iff {earlier : Nat} {run : Invocation} {crash : Crash} :
    probe.run earlier run = .error crash ↔
      crash = .clockOverflow ∧ (∃ port, portOf run.test = .ok port) ∧
        Instant.limit ≤ run.start.nanos + run.timeout.nanos := by
  rw [← Deadline.after?_eq_none_iff]
  change runProbe run = _ ↔ _
  unfold runProbe
  cases portOf run.test with
  | error e => simp
  | ok port =>
    cases Deadline.after? run.start run.timeout with
    | none => simp [eq_comm]
    | some deadline =>
      dsimp only
      rcases Tls.connect run.network (Net.joinHostPort run.target port)
        (Tls.Settings.ofTest run.test) deadline run.start with ⟨_ | _, _⟩ <;> simp

end Imap

/-! ### Durations over the limit of the clock -/

namespace Duration

/-- No reading of the clock can be followed by so much. -/
theorem limit_le_of_parse {value : String} {q : Quantity} (hq : q.WellFormed)
    (htext : trim value.toList = q.text) (hlong : 93 * 10 ^ 17 ≤ q.seconds) {d : Duration}
    (hd : parse value = .ok d) : Instant.limit ≤ d.nanos := by
  rw [parse_eq_ok_iff, htext] at hd
  obtain ⟨y, hy, hseconds⟩ := (Quantity.ofNotation?_text_eq_some_iff hq).1 hd
  have hclose := Quantity.close_of_rounded? hy (.inr (hlong.trans' (by norm_num)))
  have hle : ((2 ^ 63 : ℕ) : ℚ) ≤ y.value := by
    have habs := (abs_le.1 (hclose.abs_sub_le (by decide))).1
    push_cast
    norm_num [Number.roundoff] at habs ⊢
    linarith
  exact le_nanos_of_ofSeconds? hseconds hle

end Duration

/-! ### Programs -/

namespace Program

variable {env : Environment} {schedule : Flight.Schedule (Job × Nat)} {list : List String}
  {layer : Overrides} {concurrency : Option Nat}

/-- A job is a mail session with a port, and its deadline is over the limit of the
clock. -/
def Overflows (env : Environment) (timeout : Duration) (job : Job) (place : Nat) : Prop :=
  job.test.protocol = Imap.protocol ∧ (∃ port, Imap.portOf job.test = .ok port) ∧
    Instant.limit ≤ (env.clock place).nanos + timeout.nanos

theorem perform_eq_error_iff (hregistry : env.registry = .builtin) {applied : Settings}
    {job : Job} {place : Nat} {crash : Crash} :
    perform env applied place job = .error crash ↔
      crash = .clockOverflow ∧ Overflows env applied.timeout job place := by
  have hrun : perform env applied place job = .error crash ↔
      job.run env.registry env.network applied.timeout (env.clock place) (env.queryIds place) =
        .error crash := by
    rw [perform]
    cases job.run env.registry env.network applied.timeout (env.clock place)
      (env.queryIds place) <;> simp [bind, Except.bind, pure, Except.pure]
  rw [hrun, hregistry, Job.run, Overflows]
  cases hprobe : Registry.builtin.lookup job.test.protocol with
  | none =>
    refine iff_of_false (by simp) ?_
    rintro ⟨-, himaps, -⟩
    rw [himaps] at hprobe
    contradiction
  | some probe =>
    rcases Registry.lookup_builtin hprobe with ⟨hname, rfl⟩ | ⟨hname, rfl⟩
    · refine iff_of_false (by simp [Dns.probe]) ?_
      rintro ⟨-, himaps, -⟩
      rw [hname] at himaps
      exact absurd himaps (by decide)
    · rw [and_iff_right hname]
      exact Imap.run_probe_eq_error_iff

theorem overflows_iff (hregistry : env.registry = .builtin) {applied : Settings} {job : Job}
    {place : Nat} :
    Overflows env applied.timeout job place ↔
      ∃ crash, perform env applied place job = .error crash := by
  simp [perform_eq_error_iff hregistry]

theorem not_overflows_of_ok (hregistry : env.registry = .builtin) {applied : Settings} {job : Job}
    {place : Nat} {execution : Execution} (h : perform env applied place job = .ok execution) :
    ¬ Overflows env applied.timeout job place := by
  simp [overflows_iff hregistry, h]

theorem runHere_of_error {crash : Crash}
    (hrun : runTests env.registry env.network (settings env layer).1
      (perform env (settings env layer).1) schedule (concurrency.getD defaultConcurrency)
      (collect env.registry env.files list .fresh).tests = .error crash) :
    let ending := runHere env schedule list layer concurrency
    ending.code = exitCrashed ∧ ending.screen.output = [] ∧ ending.traces = crash.traces := by
  have hsome : (collect env.registry env.files list .fresh).tests ≠ [] := fun hnone => by
    rw [hnone, runTests, Plan.ofTests, Plan.run_of_no_jobs] at hrun
    contradiction
  intro ending
  have hending : ending =
      ⟨exitCrashed, (settings env layer).2 ++
        ⟨[], (collect env.registry env.files list .fresh).problems⟩ ++ .ofError crash.message,
        crash.traces, none⟩ := by
    simp only [ending, runHere, if_neg hsome, hrun]
  rw [hending]
  refine ⟨rfl, ?_, rfl⟩
  change ((settings env layer).2.output ++ []) ++ [] = _
  rw [output_settings]
  rfl

/-- Where a deadline is over the limit, the first such job ends everything. -/
theorem runHere_of_overflows (hregistry : env.registry = .builtin) {job : Job × Nat}
    (hjob : job ∈ (Plan.ofTests env.registry env.network (settings env layer).1
      (collect env.registry env.files list .fresh).tests).jobs.zipIdx)
    (hover : Overflows env (settings env layer).1.timeout job.1 job.2) :
    let settings := (settings env layer).1
    let tests := (collect env.registry env.files list .fresh).tests
    let jobs := (Plan.ofTests env.registry env.network settings tests).jobs.zipIdx
    let ending := runHere env schedule list layer concurrency
    ending.code = exitCrashed ∧ ending.screen.output = [] ∧ ∃ done job later,
      Flight.completionOrder schedule (concurrency.getD defaultConcurrency) jobs =
        done ++ job :: later ∧
      (∀ earlier ∈ done, ¬ Overflows env settings.timeout earlier.1 earlier.2) ∧
      Overflows env settings.timeout job.1 job.2 ∧
      ending.traces = done.flatMap (tracesOf (perform env settings)) := by
  intro settings tests jobs ending
  rcases runTests_returns_or_crashes env.registry env.network settings (perform env settings)
    schedule (concurrency.getD defaultConcurrency) tests with
    ⟨execute, -, hexecute, -⟩ | ⟨done, first, later, crash, horder, hdone, hfirst, hrun⟩
  · exact absurd hover (not_overflows_of_ok hregistry (hexecute job hjob))
  · obtain ⟨rfl, hover⟩ := (perform_eq_error_iff hregistry).1 hfirst
    obtain ⟨hcode, houtput, htraces⟩ := runHere_of_error hrun
    refine ⟨hcode, houtput, done, first, later, horder, fun earlier hmem => ?_, hover,
      htraces.trans (List.append_nil _)⟩
    obtain ⟨execution, hok⟩ := hdone earlier hmem
    exact not_overflows_of_ok hregistry hok

/-- Where none is, each test has an outcome. -/
theorem runTests_of_not_overflows (hregistry : env.registry = .builtin) {applied : Settings}
    {tests : List Test}
    (h : ¬ ∃ job ∈ (Plan.ofTests env.registry env.network applied tests).jobs.zipIdx,
      Overflows env applied.timeout job.1 job.2) {limit : Nat} :
    ∃ execute summary, runTests env.registry env.network applied (perform env applied) schedule
        limit tests = .ok summary ∧
      summary.outcomes.Perm
        (Plan.allOutcomes env.registry env.network applied execute tests) := by
  rcases runTests_returns_or_crashes env.registry env.network applied (perform env applied)
    schedule limit tests with
    ⟨execute, summary, -, hrun, hperm⟩ | ⟨done, job, later, crash, horder, -, hjob, -⟩
  · exact ⟨execute, summary, hrun, hperm⟩
  · have hmem := (Flight.completionOrder_perm schedule limit _).mem_iff.1
      (horder ▸ List.mem_append_right done List.mem_cons_self)
    exact absurd ⟨job, hmem, (overflows_iff hregistry).2 ⟨crash, hjob⟩⟩ h

theorem codeOf_ne_exitCrashed (ok : Bool) : codeOf ok ≠ exitCrashed := by
  cases ok <;> decide

/-- A program with the built-in probes crashes exactly if the deadline of a mail
session with a port is over the limit of the clock. Then no test has an outcome. What
the runs that were over before the first such session have left in the network stays,
and if jobs run one at a time there is nothing else.
Otherwise each test has an outcome, and they decide how the program ends. Durations that
make it crash at every reading of the clock are read from the command line: all those
from 93 * 10 ^ 17 to 10 ^ 19 seconds. -/
theorem runHere_crashes_iff (env : Environment) (hregistry : env.registry = .builtin)
    (schedule : Flight.Schedule (Job × Nat)) (list : List String)
    (hfiles : ∀ path ∈ processed list, path ≠ standardInputPath →
      env.files.find path ≠ .ok .directory)
    (layer : Overrides) (concurrency : Option Nat) :
    let settings := (settings env layer).1
    let tests := (collect env.registry env.files list .fresh).tests
    let jobs := (Plan.ofTests env.registry env.network settings tests).jobs.zipIdx
    let order := Flight.completionOrder schedule (concurrency.getD defaultConcurrency) jobs
    let ending := runHere env schedule list layer concurrency
    let overflow := ∃ job ∈ jobs, Overflows env settings.timeout job.1 job.2
    (∀ (earlier : Nat) (run : Invocation), Imap.probe.run earlier run = .error .clockOverflow ↔
      (∃ port, Imap.portOf run.test = .ok port) ∧
        Instant.limit ≤ run.start.nanos + run.timeout.nanos) ∧
    (∀ timeout, layer.timeout = some timeout → settings.timeout = timeout) ∧
    (ending.code = exitCrashed ↔ overflow) ∧
    (overflow → ending.screen.output = [] ∧ ∃ done job later, order = done ++ job :: later ∧
      (∀ earlier ∈ done, ¬ Overflows env settings.timeout earlier.1 earlier.2) ∧
      Overflows env settings.timeout job.1 job.2 ∧
      (∀ earlier ∈ done, tracesOf (perform env settings) earlier ⊆ ending.traces) ∧
      (concurrency.getD defaultConcurrency ≤ 1 →
        ending.traces = done.flatMap (tracesOf (perform env settings)))) ∧
    (¬ overflow → tests ≠ [] → ∃ summary : Summary,
      (∀ test ∈ tests, ∃ outcome ∈ summary.outcomes, outcome.input = test.input) ∧
      ending.screen.output = summary.outcomes.map outcomeLine ++ [summaryLine summary] ∧
      (ending.code = exitOk ↔ (∀ path ∈ processed list, env.registry.Reads env.files path) ∧
        summary.succeeded = true)) ∧
    ∀ (value : String) (q : Duration.Quantity), q.WellFormed → trim value.toList = q.text →
      93 * 10 ^ 17 ≤ q.seconds → q.seconds ≤ 10 ^ 19 →
      ∃ timeout, Duration.parse value = .ok timeout ∧
        ∀ now : Instant, Instant.limit ≤ now.nanos + timeout.nanos := by
  intro settings tests jobs order ending overflow
  have hclock : ∀ (earlier : Nat) (run : Invocation),
      Imap.probe.run earlier run = .error .clockOverflow ↔
        (∃ port, Imap.portOf run.test = .ok port) ∧
          Instant.limit ≤ run.start.nanos + run.timeout.nanos := fun _ _ =>
    Imap.run_probe_eq_error_iff.trans (and_iff_right rfl)
  have htimeout (timeout : Duration) (h : layer.timeout = some timeout) :
      settings.timeout = timeout := by
    change layer.timeout.getD _ = timeout
    rw [h]
    rfl
  have hquantities : ∀ (value : String) (q : Duration.Quantity), q.WellFormed →
      trim value.toList = q.text → 93 * 10 ^ 17 ≤ q.seconds → q.seconds ≤ 10 ^ 19 →
      ∃ timeout, Duration.parse value = .ok timeout ∧
        ∀ now : Instant, Instant.limit ≤ now.nanos + timeout.nanos := by
    intro value q hq htext hlong hshort
    obtain ⟨timeout, hread⟩ := Duration.Quantity.exists_ofNotation?_text hq hshort
    have hparse := Duration.parse_eq_ok_iff.2 (htext ▸ hread)
    exact ⟨timeout, hparse, fun now => (Duration.limit_le_of_parse hq htext hlong hparse).trans
      (Nat.le_add_left _ _)⟩
  refine ⟨hclock, htimeout, ⟨fun hcode => ?_, fun ⟨job, hjob, hover⟩ => ?_⟩,
    fun ⟨job, hjob, hover⟩ => ?_, fun h hsome => ?_, hquantities⟩
  · by_contra h
    by_cases hempty : tests = []
    · rw [code_runHere_of_nil hempty] at hcode
      exact codeOf_ne_exitCrashed _ hcode
    · obtain ⟨_, summary, hrun, -⟩ := runTests_of_not_overflows hregistry h
      rw [(runHere_of_ok hempty hrun).1] at hcode
      exact codeOf_ne_exitCrashed _ hcode
  · exact (runHere_of_overflows hregistry hjob hover).1
  · obtain ⟨-, houtput, done, job, later, horder, hdone, hover, htraces⟩ :=
      runHere_of_overflows hregistry hjob hover
    refine ⟨houtput, done, job, later, horder, hdone, hover, fun earlier hmem trace htrace => ?_,
      fun _ => htraces⟩
    rw [htraces]
    exact List.mem_flatMap_of_mem hmem htrace
  · obtain ⟨execute, summary, hrun, hperm⟩ := runTests_of_not_overflows hregistry h
    obtain ⟨hcode, houtput, -⟩ := runHere_of_ok hsome hrun
    refine ⟨summary, fun test htest => ?_, houtput, ?_⟩
    · obtain ⟨outcome, hmem, hinput, -⟩ := Plan.exists_outcome_of_mem execute htest
      exact ⟨outcome, hperm.mem_iff.2 hmem, hinput⟩
    · rw [hcode, codeOf_eq_exitOk_iff, Bool.and_eq_true, problems_isEmpty_iff env.registry hfiles]

/-- A mail session and a lookup, with a timeout that is asked for as 10 ^ 19 seconds. -/
def crashingEnvironment (now : Instant) : Environment where
  arguments := ["local", "--timeout", "10000000000000000000", "/checks"]
  configPath := none
  files := ⟨[("/checks", .file (encode
    "127.0.0.1 must run imaps\n127.0.0.1 must run dns with lookup a with type A\n".toList))], []⟩
  registry := .builtin
  network := .unreachable
  queues _ := .error .connectionRefused
  clock _ := now
  queryIds _ := 0
  elapsed _ := .zero

def crashingLayer : Overrides := { Overrides.none with timeout := some ⟨10 ^ 28⟩ }

def crashingJob : Job := ⟨.bare "127.0.0.1" "imaps" "127.0.0.1 must run imaps", "127.0.0.1"⟩

theorem parse_crashing (now : Instant) : Command.parse (crashingEnvironment now).arguments =
    .ok (.runHere ["/checks"] crashingLayer none) := by
  have hparse : Command.parse ["local", "--timeout", "10000000000000000000", "/checks"] =
      .ok (.runHere ["/checks"] crashingLayer none) := by decide +kernel
  exact hparse

theorem crashingJob_mem :
    let env := crashingEnvironment ⟨0⟩
    (crashingJob, 0) ∈ (Plan.ofTests .builtin .unreachable (settings env crashingLayer).1
      (collect .builtin env.files ["/checks"] .fresh).tests).jobs.zipIdx := by
  decide +kernel

theorem limit_le_crashing (now : Instant) :
    Instant.limit ≤ now.nanos + (Duration.mk (10 ^ 28)).nanos :=
  (by decide : Instant.limit ≤ 10 ^ 28).trans (Nat.le_add_left _ _)

theorem overflows_crashingJob (now : Instant) :
    Overflows (crashingEnvironment now) ⟨10 ^ 28⟩ crashingJob 0 :=
  ⟨rfl, ⟨_, rfl⟩, limit_le_crashing now⟩

/-- With the usual timeout the same program does not crash. -/
theorem runHere_crashes_iff_usual_timeout :
    let env := crashingEnvironment ⟨0⟩
    ((runHere env .inOrder ["/checks"] crashingLayer none).code = exitCrashed ∧
      (runHere env .inOrder ["/checks"] crashingLayer none).screen.output = []) ∧
    (runHere env .inOrder ["/checks"] .none none).code ≠ exitCrashed := by
  intro env
  have hfiles : ∀ path ∈ processed ["/checks"], path ≠ standardInputPath →
      env.files.find path ≠ .ok .directory := by
    decide +kernel
  obtain ⟨-, -, hcrash, hlost, -⟩ :=
    runHere_crashes_iff env rfl .inOrder ["/checks"] hfiles crashingLayer none
  obtain ⟨-, -, husual, -⟩ := runHere_crashes_iff env rfl .inOrder ["/checks"] hfiles .none none
  have hcrashed := hcrash.2 ⟨(crashingJob, 0), crashingJob_mem, overflows_crashingJob ⟨0⟩⟩
  refine ⟨⟨hcrashed, (hlost (hcrash.1 hcrashed)).1⟩, fun hcode => ?_⟩
  obtain ⟨job, -, -, -, hlimit⟩ := husual.1 hcode
  have htime : ¬ Instant.limit ≤ 0 + (settings env .none).1.timeout.nanos := by decide +kernel
  exact htime hlimit

/-- The timeout is accepted, and at no reading of the clock has the session a result;
the lookup is lost with it. -/
theorem accepted_timeout_crashes :
    Duration.parse "10000000000000000000" = .ok ⟨10 ^ 28⟩ ∧
    ∀ now : Instant,
      Imap.probe.run 0 ⟨crashingJob.test, "127.0.0.1", ⟨10 ^ 28⟩, .unreachable, now, 0⟩ =
        .error .clockOverflow ∧
      (run (crashingEnvironment now) .inOrder).code = exitCrashed ∧
      (run (crashingEnvironment now) .inOrder).screen.output = [] := by
  refine ⟨by decide +kernel, fun now => ?_⟩
  have hsession : Imap.probe.run 0
      ⟨crashingJob.test, "127.0.0.1", ⟨10 ^ 28⟩, .unreachable, now, 0⟩ = .error .clockOverflow :=
    Imap.run_probe_eq_error_iff.2 ⟨rfl, ⟨_, rfl⟩, limit_le_crashing now⟩
  have hends := @runHere_of_overflows (crashingEnvironment now) .inOrder ["/checks"] crashingLayer
    none rfl (crashingJob, 0) crashingJob_mem (overflows_crashingJob now)
  rw [run_of_runHere (parse_crashing now)]
  exact ⟨hsession, hends.1, hends.2.1⟩

end Program

end ServiceProbe
