import ServiceProbe.Flight
import ServiceProbe.Plan

/-!
Running tests here instead of queueing them. A list of tests is planned, and its
jobs are carried out with a bounded number of them in flight. The outcomes are
those of the tests that could not be planned and then those of the jobs, in the
order in which they were over.
-/

namespace ServiceProbe

/-- How many jobs are in flight when nothing else is asked for. -/
def defaultConcurrency : Nat := 16

/-- A job that was carried out. -/
structure Execution where
  report : Report
  elapsed : Duration

/-- Carries out the job at some place of the plan. -/
abbrev Performer := (place : Nat) → Job → Except Crash Execution

namespace Job

/-- What became of a job. -/
def outcome (job : Job) (execution : Execution) : Outcome where
  input := job.test.input
  protocol := job.test.protocol
  address := job.address
  elapsed := execution.elapsed
  error :=
    match execution.report.result with
    | .ok () => none
    | .error e => some e.message

/-- Runs a fresh instance of the probe of a job. -/
def run (job : Job) (registry : Registry) (network : Net.Network) (timeout : Duration)
    (start : Instant) (queryId : UInt16) : Except Crash Report :=
  match registry.lookup job.test.protocol with
  | none => .ok (.failure (.internal (some s!"protocol '{job.test.protocol}' vanished")))
  | some probe => probe.run 0 ⟨job.test, job.address, timeout, network, start, queryId⟩

end Job

/-- What became of a list of tests. -/
structure Summary where
  outcomes : List Outcome
  /-- What the runs left in the network. -/
  traces : List Trace

namespace Summary

def passed (summary : Summary) : Nat := summary.outcomes.countP (·.passed)

def failed (summary : Summary) : Nat := summary.outcomes.length - summary.passed

def succeeded (summary : Summary) : Bool := summary.failed = 0

theorem passed_le (summary : Summary) : summary.passed ≤ summary.outcomes.length :=
  List.countP_le_length

end Summary

/-- Carries out jobs, each with its place, in the order in which they are over. A
crash is the end of all of them. It keeps the traces of those before it; what the
others in flight have left by then is not told. -/
def performAll (perform : Performer) : List (Job × Nat) → Except Crash Summary
  | [] => .ok ⟨[], []⟩
  | (job, place) :: later => do
    let execution ← perform place job
    let summary ← (performAll perform later).mapError (.after execution.report.traces)
    return ⟨job.outcome execution :: summary.outcomes,
      execution.report.traces ++ summary.traces⟩

namespace Plan

/-- Carries out a plan. -/
def run (plan : Plan) (perform : Performer) (schedule : Flight.Schedule (Job × Nat))
    (concurrency : Nat) : Except Crash Summary := do
  let summary ← performAll perform (Flight.completionOrder schedule concurrency plan.jobs.zipIdx)
  return { summary with outcomes := plan.failures ++ summary.outcomes }

end Plan

/-- Runs tests. -/
def runTests (registry : Registry) (network : Net.Network) (settings : Settings)
    (perform : Performer) (schedule : Flight.Schedule (Job × Nat)) (concurrency : Nat)
    (tests : List Test) : Except Crash Summary :=
  (Plan.ofTests registry network settings tests).run perform schedule concurrency

end ServiceProbe
