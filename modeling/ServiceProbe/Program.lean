import ServiceProbe.CommandLine
import ServiceProbe.Enqueue
import ServiceProbe.Probe.Builtin
import ServiceProbe.Redis.Connection
import ServiceProbe.Run
import ServiceProbe.Settings.Reader

/-!
The program as a function of what it finds around it. It ends with a code and
has written lines of output and lines of errors; what it left in the network and
in the job queue can be seen as well.
-/

namespace ServiceProbe

open CommandLine

/-- What a program finds around it. -/
structure Environment where
  arguments : List String
  /-- The path of the file with settings. -/
  configPath : Option String
  files : Files
  registry : Registry
  network : Net.Network
  /-- The servers of job queues. -/
  queues : QueueEndpoint → Except IoError Redis.Server
  /-- The clock at the start of each run, by its place in the plan. -/
  clock : Nat → Instant
  queryIds : Nat → UInt16
  /-- How long each run takes. -/
  elapsed : Nat → Duration

/-- What was written. -/
structure Screen where
  output : List String
  errors : List String
  deriving DecidableEq, Repr

namespace Screen

def blank : Screen := ⟨[], []⟩

def ofOutput (line : String) : Screen := ⟨[line], []⟩

def ofError (line : String) : Screen := ⟨[], [line]⟩

def append (a b : Screen) : Screen := ⟨a.output ++ b.output, a.errors ++ b.errors⟩

instance : Append Screen := ⟨append⟩

def concat (screens : List Screen) : Screen := screens.foldr append blank

end Screen

/-- How a program ended. -/
structure Ending where
  code : Nat
  screen : Screen
  traces : List Trace
  /-- The server of the job queue, if it was reached. -/
  server : Option Redis.Server

namespace Program

def exitOk : Nat := 0

def exitFailed : Nat := 1

def exitUsage : Nat := 2

def exitCrashed : Nat := 101

def codeOf (ok : Bool) : Nat := if ok then exitOk else exitFailed

def versionText : String := "probewatch 0.3.0"

def usageText : String := "Usage: probewatch <COMMAND> [OPTIONS] [FILE]..."

/-- Settings in all their layers, and what is shown when the file is no good. -/
def settings (env : Environment) (layer : Overrides) : Settings × Screen :=
  let (settings, problem) := Settings.load env.files env.configPath
  let screen := match problem with
    | none => .blank
    | some e => .ofError s!"[!] {e.message}; using built-in defaults"
  (settings.apply layer, screen)

/-! ### Enqueueing -/

/-- A line for one source. -/
def showFile (report : FileReport) : Screen :=
  match report.error with
  | none => .ofOutput s!"[✓] {report.path}: {report.pushed} job(s) queued"
  | some e =>
    .ofError
      s!"[!] {report.path}: {e} ({report.pushed} job(s) queued before the failure)"

/-- A failure with its cause, which is set in from the left. -/
def showFailure (context : String) (cause : QueueError) : Screen :=
  let lines := (cause.message.splitOn "\n").map ("    " ++ ·)
  ⟨[], ["Error: " ++ context, "", "Caused by:"] ++ lines⟩

def runEnqueue (env : Environment) (files : List String) (layer : Overrides) : Ending :=
  let (settings, screen) := settings env layer
  match Redis.connect env.queues settings with
  | (.error e, server) =>
    ⟨exitFailed, screen ++ showFailure "cannot reach the job queue" e, [], server⟩
  | (.ok connection, _) =>
    match Enqueue.run Redis.queue env.registry env.files files ⟨.fresh, connection⟩ with
    | (.error e, enqueuer) =>
      ⟨exitFailed, screen ++ showFailure "job queue did not answer ping" e, [],
        some enqueuer.state.server⟩
    | (.ok report, enqueuer) =>
      ⟨codeOf report.succeeded, screen ++ .concat (report.files.map showFile), [],
        some enqueuer.state.server⟩

/-! ### Running tests here -/

/-- The tests of some sources and what could not be read of them. -/
structure Collected where
  tests : List Test
  problems : List String
  deriving DecidableEq, Repr

/-- Sorts the results of one source. -/
def collectResults (path : String) : List (Except ParseError Test) → Collected
  | [] => ⟨[], []⟩
  | .ok test :: results =>
    let rest := collectResults path results
    { rest with tests := test :: rest.tests }
  | .error e :: results =>
    let rest := collectResults path results
    { rest with problems := s!"[!] {path}: {e.message}" :: rest.problems }

/-- Collects the tests of the source at a path. A directory can be opened and each read
from it fails, so the program would go on with that error for ever; one of them stands
for all here, and what is told of a run on a directory is not told of the program. -/
def collectPath (registry : Registry) (files : Files) (path : String) (parser : Parser) :
    Collected × Parser :=
  match openSource files path with
  | .error e =>
    let problem := ParseError.read path e
    (⟨[], [s!"[!] {problem.message}"]⟩, parser)
  | .ok source =>
    let (results, parser) := parser.testsOf registry source path
    (collectResults path results, parser)

/-- Collects the tests of paths in order. Standard input ends the list. -/
def collect (registry : Registry) (files : Files) : List String → Parser → Collected
  | [], _ => ⟨[], []⟩
  | path :: later, parser =>
    let (collected, parser) := collectPath registry files path parser
    if path = standardInputPath then collected
    else
      let rest := collect registry files later parser
      ⟨collected.tests ++ rest.tests, collected.problems ++ rest.problems⟩

def outcomeLine (outcome : Outcome) : String :=
  match outcome.error with
  | none => s!"[✓] {outcome.input} [{outcome.address}] in {outcome.elapsed.text}"
  | some e => s!"[!] {outcome.input} [{outcome.address}]: {e}"

def summaryLine (summary : Summary) : String :=
  s!"[~] {summary.passed} passed, {summary.failed} failed"

/-- Carries out the jobs of a plan as the environment lets them run. -/
def perform (env : Environment) (settings : Settings) : Performer := fun place job => do
  let report ← job.run env.registry env.network settings.timeout (env.clock place)
    (env.queryIds place)
  return ⟨report, env.elapsed place⟩

def runHere (env : Environment) (schedule : Flight.Schedule (Job × Nat)) (files : List String)
    (layer : Overrides) (concurrency : Option Nat) : Ending :=
  let (settings, screen) := settings env layer
  let collected := collect env.registry env.files files .fresh
  let screen := screen ++ ⟨[], collected.problems⟩
  let parsedCleanly := collected.problems.isEmpty
  if collected.tests = [] then
    ⟨codeOf parsedCleanly, screen ++ .ofOutput "[~] No tests to run", [], none⟩
  else
    match runTests env.registry env.network settings (perform env settings) schedule
        (concurrency.getD defaultConcurrency) collected.tests with
    | .error crash => ⟨exitCrashed, screen ++ .ofError crash.message, crash.traces, none⟩
    | .ok summary =>
      let lines := summary.outcomes.map outcomeLine ++ [summaryLine summary]
      ⟨codeOf (parsedCleanly && summary.succeeded), screen ++ ⟨lines, []⟩, summary.traces, none⟩

/-! ### The whole program -/

/-- How tests of each protocol are written. -/
def exampleLines (registry : Registry) : List String :=
  registry.names.flatMap fun name =>
    match registry.lookup name with
    | none => []
    | some probe => [name, probe.usage]

def usageEnding : Usage → Ending
  | .helpAsked => ⟨exitOk, .ofOutput usageText, [], none⟩
  | .versionAsked => ⟨exitOk, .ofOutput versionText, [], none⟩
  | _ => ⟨exitUsage, .ofError usageText, [], none⟩

/-- Runs the program; the schedule says in which order runs in flight are over. -/
def run (env : Environment) (schedule : Flight.Schedule (Job × Nat)) : Ending :=
  match Command.parse env.arguments with
  | .error usage => usageEnding usage
  | .ok (.enqueue files layer) => runEnqueue env files layer
  | .ok (.runHere files layer concurrency) => runHere env schedule files layer concurrency
  | .ok .examples => ⟨exitOk, ⟨exampleLines env.registry, []⟩, [], none⟩

end Program

end ServiceProbe
