import ServiceProbe.Enqueue
import ServiceProbe.Proofs.Source.Tests

/-!
What one source asks of the queue. Its tests are offered one after the other, up
to the first that is refused or to the first error of the source. Everything the
source does follows from what a fresh parser yields from it and from the answers
of the queue: the parser it shares with other sources does not show. The calls
of a queue can be recorded beside its state, which changes none of its answers.
-/

namespace ServiceProbe

/-- A call of a queue, a ping if there is no job, and the answer to it. -/
structure QueueCall where
  job : Option String
  answer : Except QueueError Unit

def QueueCall.accepted (call : QueueCall) : Bool := call.answer.isOk

namespace QueueCall

theorem eq_of_accepted {call : QueueCall} (h : call.accepted = true) :
    call = ⟨call.job, .ok ()⟩ := by
  obtain ⟨job, answer⟩ := call
  cases answer with
  | error e => contradiction
  | ok u => rfl

/-- A push that was acknowledged. -/
def acknowledged (text : String) : QueueCall := ⟨some text, .ok ()⟩

theorem filterMap_job_acknowledged (texts : List String) :
    (texts.map acknowledged).filterMap (·.job) = texts := by
  rw [List.filterMap_map]
  exact List.filterMap_some

end QueueCall

/-- The queue that records its calls. -/
def JobQueue.recorded {State : Type} (queue : JobQueue State) :
    JobQueue (State × List QueueCall) where
  ping s :=
    let (answer, state) := queue.ping s.1
    (answer, state, s.2 ++ [⟨none, answer⟩])
  push job s :=
    let (answer, state) := queue.push job s.1
    (answer, state, s.2 ++ [⟨some job, answer⟩])

namespace JobQueue

variable {State : Type} {queue : JobQueue State} {state left : State}
  {answer : Except QueueError Unit}

theorem recorded_ping (h : queue.ping state = (answer, left)) (calls : List QueueCall) :
    queue.recorded.ping (state, calls) = (answer, left, calls ++ [⟨none, answer⟩]) := by
  simp only [recorded, h]

theorem recorded_push {job : String} (h : queue.push job state = (answer, left))
    (calls : List QueueCall) :
    queue.recorded.push job (state, calls) =
      (answer, left, calls ++ [⟨some job, answer⟩]) := by
  simp only [recorded, h]

end JobQueue

namespace Enqueue

variable {State : Type}

/-- What a fresh parser yields from the source at a path. A source that cannot be
opened is an error and nothing else. -/
def results (registry : Registry) (files : Files) (path : String) :
    List (Except ParseError Test) :=
  match openSource files path with
  | .error e => [.error (.read path e)]
  | .ok opened => (Parser.fresh.testsOf registry opened path).1

/-- What the source at a path gives, told from what the path names. -/
inductive Yields (registry : Registry) (files : Files) :
    String → List (Except ParseError Test) → Prop where
  | standardInput : Yields registry files standardInputPath
      (Parser.fresh.tests registry files.standardInput standardInputPath).1
  | file {path : String} {content : Bytes} (named : path ≠ standardInputPath)
      (found : files.find path = .ok (.file content)) :
      Yields registry files path (Parser.fresh.tests registry content path).1
  | directory {path : String} (named : path ≠ standardInputPath)
      (found : files.find path = .ok .directory) :
      Yields registry files path [.error (.read path .isADirectory)]
  | socket {path : String} (named : path ≠ standardInputPath)
      (found : files.find path = .ok .socket) :
      Yields registry files path [.error (.read path .noSuchDevice)]
  | locked {path : String} {e : IoError} (named : path ≠ standardInputPath)
      (found : files.find path = .ok (.locked e)) :
      Yields registry files path [.error (.read path e)]
  | missing {path : String} {e : IoError} (named : path ≠ standardInputPath)
      (missed : files.find path = .error e) :
      Yields registry files path [.error (.read path e)]

/-- The tests before the first error. -/
def leading : List (Except ParseError Test) → List Test
  | .ok test :: results => test :: leading results
  | _ => []

/-- Offers tests until the first error or refusal: the calls, the failure and the
state after them. -/
def offer (queue : JobQueue State) :
    List (Except ParseError Test) → State → (List QueueCall × Option EnqueueError) × State
  | [], state => (([], none), state)
  | .error e :: _, state => (([], some (.parse e)), state)
  | .ok test :: results, state =>
    match queue.push test.input state with
    | (.error e, state) => (([⟨some test.input, .error e⟩], some (.queue e)), state)
    | (.ok (), state) =>
      let ((calls, failure), state) := offer queue results state
      ((⟨some test.input, .ok ()⟩ :: calls, failure), state)

/-- What calls and a report have to do with what a source yields. -/
structure Accounts (results : List (Except ParseError Test)) (calls : List QueueCall)
    (report : FileReport) : Prop where
  /-- The calls are pushes of the tests before the first error, in their order. -/
  inOrder : calls.map (·.job) <+: (leading results).map fun test => some test.input
  /-- Nothing is offered after a refusal. -/
  refusedLast : ∀ call ∈ calls.dropLast, call.accepted = true
  /-- Without a refusal all of these tests are offered. -/
  complete : (∀ call ∈ calls, call.accepted = true) →
    calls.map (·.job) = (leading results).map fun test => some test.input
  /-- What was accepted is counted. -/
  pushed : report.pushed = calls.countP (·.accepted)
  /-- There is an error when a push was refused or the source has an error. -/
  error : report.error.isSome = true ↔
    (∃ call ∈ calls, call.accepted = false) ∨ ∃ e, .error e ∈ results

theorem yields_results (registry : Registry) (files : Files) (path : String) :
    Yields registry files path (results registry files path) := by
  rw [results, openSource]
  by_cases hname : path = standardInputPath
  · rw [if_pos hname, hname]
    exact .standardInput
  · rw [if_neg hname]
    cases hfind : files.find path with
    | error e => exact .missing hname hfind
    | ok entry =>
      cases entry with
      | file content => exact .file hname hfind
      | directory => exact .directory hname hfind
      | socket => exact .socket hname hfind
      | locked e => exact .locked hname hfind

/-! ### Offers -/

theorem offer_cons_of_refused {queue : JobQueue State} {test : Test} {state later : State}
    {e : QueueError} (h : queue.push test.input state = (.error e, later))
    (results : List (Except ParseError Test)) :
    offer queue (.ok test :: results) state =
      (([⟨some test.input, .error e⟩], some (.queue e)), later) := by
  rw [offer, h]

theorem offer_cons_of_accepted {queue : JobQueue State} {test : Test} {state later : State}
    (h : queue.push test.input state = (.ok (), later))
    (results : List (Except ParseError Test)) :
    offer queue (.ok test :: results) state =
      ((⟨some test.input, .ok ()⟩ :: (offer queue results later).1.1,
        (offer queue results later).1.2), (offer queue results later).2) := by
  rw [offer, h]

theorem Accounts.cons_accepted {results : List (Except ParseError Test)}
    {calls : List QueueCall} {report : FileReport} (h : Accounts results calls report)
    (test : Test) : Accounts (.ok test :: results) (⟨some test.input, .ok ()⟩ :: calls)
      { report with pushed := report.pushed + 1 } where
  inOrder := by
    rw [List.map_cons, leading, List.map_cons]
    exact (List.prefix_cons_inj _).2 h.inOrder
  refusedLast := by
    cases calls with
    | nil => simp
    | cons call calls =>
      rw [List.dropLast_cons_cons, List.forall_mem_cons]
      exact ⟨rfl, h.refusedLast⟩
  complete := by
    intro haccepted
    rw [List.forall_mem_cons] at haccepted
    rw [List.map_cons, leading, List.map_cons, h.complete haccepted.2]
  pushed := by
    rw [List.countP_cons_of_pos rfl, h.pushed]
  error := by
    rw [h.error]
    simp [QueueCall.accepted, Except.isOk, Except.toBool]

/-- A report that counts the acceptances and has an error when there was a
failure accounts for the calls. -/
theorem accounts_offer (queue : JobQueue State) (results : List (Except ParseError Test))
    (state : State) (path : String) {error : Option String}
    (herror : error.isSome = (offer queue results state).1.2.isSome) :
    Accounts results (offer queue results state).1.1
      ⟨path, (offer queue results state).1.1.countP (·.accepted), error⟩ := by
  induction results generalizing state with
  | nil => constructor <;> simp_all [offer, leading]
  | cons result results ih =>
    cases result with
    | error e => constructor <;> simp_all [offer, leading]
    | ok test =>
      rcases h : queue.push test.input state with ⟨e | u, later⟩
      · rw [offer_cons_of_refused h] at herror ⊢
        constructor <;> simp_all [leading, QueueCall.accepted, Except.isOk, Except.toBool]
      · rw [offer_cons_of_accepted h] at herror ⊢
        dsimp only
        rw [List.countP_cons_of_pos rfl]
        exact (ih later herror).cons_accepted test

theorem offer_recorded (queue : JobQueue State) (results : List (Except ParseError Test))
    (state : State) (calls : List QueueCall) :
    offer queue.recorded results (state, calls) =
      ((offer queue results state).1,
        (offer queue results state).2, calls ++ (offer queue results state).1.1) := by
  induction results generalizing state calls with
  | nil => simp [offer]
  | cons result results ih =>
    cases result with
    | error e => simp [offer]
    | ok test =>
      rcases h : queue.push test.input state with ⟨e | u, later⟩
      · rw [offer_cons_of_refused h, offer_cons_of_refused (JobQueue.recorded_push h calls)]
      · rw [offer_cons_of_accepted h, offer_cons_of_accepted (JobQueue.recorded_push h calls), ih,
          List.append_assoc]
        rfl

/-! ### Sources -/

variable {registry : Registry} {parser : Parser}

theorem pushLines_eq (queue : JobQueue State) (h : parser.Current registry) (name : String)
    (pushed number : Nat) (lines : List Bytes) (state : State) :
    ∃ later : Parser, later.Current registry ∧
      pushLines queue registry name pushed number lines ⟨parser, state⟩ =
        let offers := offer queue (Parser.fresh.testsFrom registry name number lines).1 state
        ((pushed + offers.1.1.countP (·.accepted), offers.1.2), ⟨later, offers.2⟩) := by
  -- the parser changes from line to line, but stays current
  induction lines generalizing parser pushed number state with
  | nil => exact ⟨parser, h, rfl⟩
  | cons line lines ih =>
    obtain ⟨next, hnext, htake⟩ := Parser.takeLine_of_current h name number line
    rw [Parser.testsFrom_cons]
    unfold pushLines
    rw [htake]
    generalize Parser.yielded registry name number line = yield
    obtain ⟨result, count⟩ := yield
    match result with
    | none => exact ih hnext pushed count state
    | some (.error e) => exact ⟨next, hnext, rfl⟩
    | some (.ok test) =>
      dsimp only [Option.toList_some, List.cons_append, List.nil_append]
      rcases hpush : queue.push test.input state with ⟨e | u, later⟩
      · rw [offer_cons_of_refused hpush]
        exact ⟨next, hnext, rfl⟩
      · obtain ⟨last, hlast, heq⟩ := ih hnext (pushed + 1) count later
        refine ⟨last, hlast, ?_⟩
        rw [offer_cons_of_accepted hpush]
        dsimp only
        rw [heq, List.countP_cons_of_pos rfl]
        simp only [Nat.add_assoc, Nat.add_comm 1]

/-- The text of a failure in a report. That a path cannot be opened is said
without a word about parsing. -/
def failureText (files : Files) (path : String) (failure : EnqueueError) : String :=
  match openSource files path with
  | .error e => (ParseError.read path e).message
  | .ok _ => failure.message

theorem path_eq (queue : JobQueue State) (h : parser.Current registry) (files : Files)
    (name : String) (state : State) :
    ∃ later : Parser, later.Current registry ∧
      path queue registry files name ⟨parser, state⟩ =
        let offers := offer queue (results registry files name) state
        (⟨name, offers.1.1.countP (·.accepted), offers.1.2.map (failureText files name)⟩,
          ⟨later, offers.2⟩) := by
  unfold path results failureText
  cases openSource files name with
  | error e => exact ⟨parser, h, rfl⟩
  | ok opened =>
    cases opened with
    | unreadable e => exact ⟨parser, h, rfl⟩
    | content bytes =>
      obtain ⟨later, hlater, heq⟩ := pushLines_eq queue h name 0 0 (splitLines bytes) state
      refine ⟨later, hlater, ?_⟩
      simp only [source, pushAll, heq, Nat.zero_add]
      rfl

end Enqueue

end ServiceProbe
