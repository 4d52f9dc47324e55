import ServiceProbe.Queue
import ServiceProbe.Source

/-!
Enqueueing: the lines of test files go to a job queue, one push for each test in
the order of the file. Files stand alone; a failure ends the file it happens in,
and what was pushed before stays in the queue.
-/

namespace ServiceProbe

/-- What became of one source. -/
structure FileReport where
  path : String
  /-- Jobs that the queue took. -/
  pushed : Nat
  error : Option String
  deriving DecidableEq, Repr

def FileReport.succeeded (report : FileReport) : Bool := report.error.isNone

/-- What became of a whole run. -/
structure EnqueueReport where
  files : List FileReport
  deriving DecidableEq, Repr

namespace EnqueueReport

def succeeded (report : EnqueueReport) : Bool := report.files.all (·.succeeded)

def totalPushed (report : EnqueueReport) : Nat := (report.files.map (·.pushed)).foldr (· + ·) 0

end EnqueueReport

/-- Why a source was not enqueued to its end. -/
inductive EnqueueError where
  | parse (error : ParseError)
  | queue (error : QueueError)
  deriving DecidableEq, Repr

def EnqueueError.message : EnqueueError → String
  | parse error => "Error parsing file: " ++ error.message
  | queue error => "Error queueing job: " ++ error.message

namespace Enqueue

variable {State : Type}

/-- A parser and the state of a queue. -/
structure Enqueuer (State : Type) where
  parser : Parser
  state : State

/-- Reads lines and pushes the test of each before the next one is read, until
the first failure: how many were pushed, and the failure. -/
def pushLines (queue : JobQueue State) (registry : Registry) (name : String) :
    (pushed number : Nat) → List Bytes → Enqueuer State →
      (Nat × Option EnqueueError) × Enqueuer State
  | pushed, _, [], enqueuer => ((pushed, none), enqueuer)
  | pushed, number, line :: lines, ⟨parser, state⟩ =>
    match parser.takeLine registry name number line with
    | (none, number, parser) =>
      pushLines queue registry name pushed number lines ⟨parser, state⟩
    | (some (.error e), _, parser) => ((pushed, some (.parse e)), ⟨parser, state⟩)
    | (some (.ok test), number, parser) =>
      match queue.push test.input state with
      | (.error e, state) => ((pushed, some (.queue e)), ⟨parser, state⟩)
      | (.ok (), state) =>
        pushLines queue registry name (pushed + 1) number lines ⟨parser, state⟩

/-- Pushes the tests of an opened source. -/
def pushAll (queue : JobQueue State) (registry : Registry) (opened : Source) (name : String)
    (enqueuer : Enqueuer State) : (Nat × Option EnqueueError) × Enqueuer State :=
  match opened with
  | .content bytes => pushLines queue registry name 0 0 (splitLines bytes) enqueuer
  | .unreadable e => ((0, some (.parse (.read name e))), enqueuer)

/-- Enqueues the tests of an opened source. -/
def source (queue : JobQueue State) (registry : Registry) (opened : Source) (name : String)
    (enqueuer : Enqueuer State) : FileReport × Enqueuer State :=
  let ((pushed, error), enqueuer) := pushAll queue registry opened name enqueuer
  (⟨name, pushed, error.map EnqueueError.message⟩, enqueuer)

/-- Enqueues the tests of the source at a path. -/
def path (queue : JobQueue State) (registry : Registry) (files : Files) (path : String)
    (enqueuer : Enqueuer State) : FileReport × Enqueuer State :=
  match openSource files path with
  | .error e => (⟨path, 0, some (ParseError.read path e).message⟩, enqueuer)
  | .ok opened => source queue registry opened path enqueuer

/-- Enqueues paths in order. Standard input ends the list. -/
def paths (queue : JobQueue State) (registry : Registry) (files : Files) :
    List String → Enqueuer State → List FileReport × Enqueuer State
  | [], enqueuer => ([], enqueuer)
  | p :: later, enqueuer =>
    let (report, enqueuer) := path queue registry files p enqueuer
    if p = standardInputPath then ([report], enqueuer)
    else
      let (reports, enqueuer) := paths queue registry files later enqueuer
      (report :: reports, enqueuer)

/-- Pings the queue and then enqueues paths. No source is opened if the ping
fails. -/
def run (queue : JobQueue State) (registry : Registry) (files : Files) (list : List String)
    (enqueuer : Enqueuer State) : Except QueueError EnqueueReport × Enqueuer State :=
  match queue.ping enqueuer.state with
  | (.error e, state) => (.error e, ⟨enqueuer.parser, state⟩)
  | (.ok (), state) =>
    let (reports, enqueuer) := paths queue registry files list ⟨enqueuer.parser, state⟩
    (.ok ⟨reports⟩, enqueuer)

end Enqueue

end ServiceProbe
