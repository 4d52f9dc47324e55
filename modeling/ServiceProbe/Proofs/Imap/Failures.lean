import ServiceProbe.Proofs.Imap.Lines

/-!
How a conversation fails. It proceeds in turns: a timeout is set, and then the stream
is looked at for bytes, or a command is written to it and flushed. What the peer does
next and the time say whether an operation fails. The first that does decides the
error, and no step puts its name to it. If none fails, the server is at fault, and the
error names the command whose answer was waited for.
-/

namespace ServiceProbe.Imap

variable {α β : Type}

/-! ### Operations -/

/-- Why an operation fails. -/
inductive Failure where
  /-- No time is left to set a timeout to. -/
  | expired
  | io (e : IoError)
  deriving DecidableEq, Repr

namespace Failure

def isTimeout : Failure → Bool
  | expired => true
  | io e => e.kind = .wouldBlock ∨ e.kind = .timedOut

/-- A failure for want of time is a timeout of the whole budget, and every other one
stays what it is. -/
def toError (budget : Duration) : Failure → ProbeError
  | expired => .timeout budget
  | io e => if e.kind = .wouldBlock ∨ e.kind = .timedOut then .timeout budget else .io e

/-- The failure of an operation with the given result. -/
def ofResult? : Except IoError α → Option Failure
  | .ok _ => none
  | .error e => some (io e)

end Failure

/-- What a conversation does with its stream. -/
inductive Operation where
  | arm
  /-- A look for bytes, those in the buffer or more. So many are taken, and the others
  go back. -/
  | read (taken : Nat)
  | write (command : Bytes)
  | flush
  deriving DecidableEq, Repr

namespace Operation

/-- The error of a look for bytes. There is none if some are left, and none at the end
of what the peer sends. -/
def readError? (c : Channel) : Option IoError :=
  match c.buffer, c.stream.reads with
  | [], event :: _ =>
    if c.linesSent < event.linesNeeded then some Channel.wouldBlock
    else
      match event.outcome with
      | .error e => some e
      | .ok _ => none
  | _, _ => none

/-- The error of a write. To be interrupted is none; the bytes that are left are then
written again. -/
def writeError? : List WriteEvent → Bytes → Option IoError
  | _, [] => none
  | [], _ => none
  | event :: events, byte :: bytes =>
    match event.outcome with
    | .error e => if e.kind = .interrupted then writeError? events (byte :: bytes) else some e
    | .ok 0 => some .incompleteWrite
    | .ok n => writeError? events ((byte :: bytes).drop n)

/-- How an operation fails, if it does. -/
def failure? : Operation → Channel → Option Failure
  | arm, c =>
    if c.deadline.expiry.nanos ≤ c.clock.nanos then some .expired
    else c.stream.armFailures.head?.join.map .io
  | read _, c => (readError? c).map .io
  | write command, c => (writeError? c.stream.writes command).map .io
  | flush, c => c.flushes.head?.bind fun event => Failure.ofResult? event.outcome

/-- The channel after the operation, whether it fails or not. -/
def next : Operation → Channel → Channel
  | arm, c => c.arm.2
  | read taken, c =>
    let (result, d) := c.available
    { d with buffer := (result.toOption.getD []).drop taken }
  | write command, c => (c.write command).2
  | flush, c => c.flush.2

@[simp] theorem deadline_next (operation : Operation) (c : Channel) :
    (operation.next c).deadline = c.deadline := by
  cases operation with
  | arm => exact (Channel.later_arm c).deadline_eq
  | read taken => exact (Channel.later_available c).deadline_eq
  | write command => rfl
  | flush => exact (Channel.later_flush c).deadline_eq

/-! What the client gets to see of an operation is how it fails. -/

end Operation

/-- A turn of a conversation. -/
inductive Turn where
  | look (taken : Nat)
  | send (command : Bytes)
  deriving DecidableEq, Repr

namespace Turn

/-- What is done in a turn. It begins with setting the timeout. -/
def operations : Turn → List Operation
  | look taken => [.arm, .read taken]
  | send command => [.arm, .write command, .flush]

/-- The commands among some turns. -/
def commands (turns : List Turn) : List Bytes :=
  turns.filterMap fun
    | send command => some command
    | look _ => none

end Turn

namespace Channel

variable {c d armed : Channel} {operations later : List Operation} {turns : List Turn}
  {f : Failure}

/-- Operations in turn, up to the first that fails: the failure, and the channel
then. -/
def perform : List Operation → Channel → Option Failure × Channel
  | [], c => (none, c)
  | operation :: later, c =>
    match operation.failure? c with
    | some f => (some f, operation.next c)
    | none => perform later (operation.next c)

theorem perform_append {failure : Option Failure} {e : Channel}
    (h : c.perform operations = (none, d)) (hlater : d.perform later = (failure, e)) :
    c.perform (operations ++ later) = (failure, e) := by
  induction operations generalizing c with
  | nil =>
    cases h
    exact hlater
  | cons operation operations ih =>
    rw [List.cons_append, perform]
    rw [perform] at h
    cases hfailure : operation.failure? c with
    | none =>
      rw [hfailure] at h
      exact ih h
    | some f => simp [hfailure] at h

theorem deadline_perform (operations : List Operation) (c : Channel) :
    (c.perform operations).2.deadline = c.deadline := by
  induction operations generalizing c with
  | nil => rfl
  | cons operation operations ih =>
    rw [perform]
    split
    · exact operation.deadline_next c
    · exact (ih _).trans (operation.deadline_next c)

/-- How something ends that is done with a channel: with the first operation that
fails, with a fault of the server, or with what it was done for. The fault may
depend on how many commands were sent. -/
inductive Proceeds (c : Channel) (commands : List Bytes) (fault : Nat → String → Prop) :
    Except ProbeError α × Channel → Prop where
  | failed {turns : List Turn} {f : Failure} {d : Channel}
      (performed : c.perform (turns.flatMap Turn.operations) = (some f, d))
      (sent : Turn.commands turns <+: commands) :
      Proceeds c commands fault (.error (f.toError c.deadline.budget), d)
  | refused {turns : List Turn} {reason : String} {d : Channel}
      (performed : c.perform (turns.flatMap Turn.operations) = (none, d))
      (sent : Turn.commands turns <+: commands)
      (blamed : fault (Turn.commands turns).length reason) :
      Proceeds c commands fault (.error (.protocol reason), d)
  | given {turns : List Turn} {a : α} {d : Channel}
      (performed : c.perform (turns.flatMap Turn.operations) = (none, d))
      (sent : Turn.commands turns = commands) : Proceeds c commands fault (.ok a, d)

namespace Proceeds

variable {commands before : List Bytes} {fault fault' : Nat → String → Prop}
  {outcome : Except ProbeError α × Channel}

theorem imp (h : c.Proceeds commands fault outcome)
    (hfault : ∀ n reason, n ≤ commands.length → fault n reason → fault' n reason) :
    c.Proceeds commands fault' outcome := by
  cases h with
  | failed performed sent => exact .failed performed sent
  | refused performed sent blamed =>
    exact .refused performed sent (hfault _ _ sent.length_le blamed)
  | given performed sent => exact .given performed sent

/-- Turns that all go well can be put in front. -/
theorem after (h : d.Proceeds commands fault outcome)
    (hd : c.perform (turns.flatMap Turn.operations) = (none, d))
    (hbefore : Turn.commands turns = before)
    (hfault : ∀ n reason, n ≤ commands.length → fault n reason →
      fault' (before.length + n) reason) :
    c.Proceeds (before ++ commands) fault' outcome := by
  have hdeadline : d.deadline = c.deadline := by
    rw [← deadline_perform (turns.flatMap Turn.operations) c, hd]
  have hsent (later : List Turn) :
      Turn.commands (turns ++ later) = before ++ Turn.commands later := by
    rw [← hbefore]
    exact List.filterMap_append
  have hperform {later : List Turn} {failure : Option Failure} {e : Channel}
      (hlater : d.perform (later.flatMap Turn.operations) = (failure, e)) :
      c.perform ((turns ++ later).flatMap Turn.operations) = (failure, e) := by
    rw [List.flatMap_append]
    exact perform_append hd hlater
  cases h with
  | failed performed sent =>
    rw [hdeadline]
    refine .failed (hperform performed) ?_
    rw [hsent]
    exact (List.prefix_append_right_inj before).2 sent
  | refused performed sent blamed =>
    refine .refused (hperform performed) ?_ ?_
    · rw [hsent]
      exact (List.prefix_append_right_inj before).2 sent
    · rw [hsent, List.length_append]
      exact hfault _ _ sent.length_le blamed
  | given performed sent =>
    refine .given (hperform performed) ?_
    rw [hsent, sent]

/-- The same after the part that has given something. -/
theorem bind {a : β} (h : c.Proceeds before fault' (.ok a, d))
    (hlater : d.Proceeds commands fault outcome)
    (hfault : ∀ n reason, n ≤ commands.length → fault n reason →
      fault' (before.length + n) reason) :
    c.Proceeds (before ++ commands) fault' outcome := by
  cases h with
  | given performed sent => exact hlater.after performed sent hfault

/-- Where a part fails, nothing comes after it. -/
theorem error {later : List Bytes} {e : ProbeError}
    (h : c.Proceeds (α := β) commands fault (.error e, d)) :
    c.Proceeds (α := α) (commands ++ later) fault (.error e, d) := by
  cases h with
  | failed performed sent => exact .failed performed (sent.trans (List.prefix_append _ _))
  | refused performed sent blamed =>
    exact .refused performed (sent.trans (List.prefix_append _ _)) blamed

theorem ok {a : α} {b : β} (h : c.Proceeds commands fault (.ok a, d)) :
    c.Proceeds commands fault' (.ok b, d) := by
  cases h with
  | given performed sent => exact .given performed sent

end Proceeds

/-! ### Turns -/

/-- What is wrong when there is no line. -/
inductive NoLine : String → Prop where
  | closed : NoLine "connection closed by server"
  | tooLong : NoLine "server line exceeds 65536 bytes"

/-- How a server can fail to say that a command went well. -/
inductive ReplyFault : String → Prop where
  | noLine {reason : String} (h : NoLine reason) : ReplyFault reason
  /-- It says that the command did not; this is what follows the tag. -/
  | refused {status : List Char}
      (h : (splitStatus status).1.map Char.toUpper ∈ ["NO".toList, "BAD".toList]) :
      ReplyFault (String.ofList status)
  | malformed (line : List Char) : ReplyFault ("malformed response: " ++ String.ofList line)
  | continuation {line : List Char} (h : line.head? = some '+') :
      ReplyFault ("unexpected continuation: " ++ String.ofList line)

end Channel

/-! ### Sessions -/

namespace Session

/-- How a server can fail to greet. -/
inductive GreetingFault : String → Prop where
  | noLine {reason : String} (h : Channel.NoLine reason) : GreetingFault reason
  | unexpected (line : List Char) :
      GreetingFault ("unexpected IMAP greeting: " ++ String.ofList line)

/-- Something is done with the channel of a session. -/
def Proceeds (c : Channel) (commands : List Bytes) (fault : Nat → String → Prop)
    (outcome : Except ProbeError α × Session) : Prop :=
  c.Proceeds commands fault (outcome.1, outcome.2.channel)

variable {s : Session}

end Session

/-! ### The whole conversation -/

/-- What a conversation complains about, by how many commands it has sent. -/
inductive Fault : Nat → String → Prop where
  | greeting {cause : String} (h : Session.GreetingFault cause) : Fault 0 cause
  | login {cause : String} (h : Channel.ReplyFault cause) : Fault 1 ("login failed: " ++ cause)
  | logout {cause : String} (h : Channel.ReplyFault cause) : Fault 2 ("logout failed: " ++ cause)

/-- The text does not begin with the name of a step that has failed. -/
def Unprefixed (cause : String) : Prop :=
  ¬ "login failed: ".toList <+: cause.toList ∧ ¬ "logout failed: ".toList <+: cause.toList

theorem unprefixed_of_head? {cause : String} (h : cause.toList.head? ≠ some 'l') :
    Unprefixed cause := by
  have hhead (name : String) (hname : name.toList.head? = some 'l') :
      ¬ name.toList <+: cause.toList := by
    rintro ⟨rest, hrest⟩
    rw [← hrest, List.head?_append, hname] at h
    exact h rfl
  exact ⟨hhead _ rfl, hhead _ rfl⟩

theorem Channel.NoLine.unprefixed {cause : String} (h : NoLine cause) : Unprefixed cause := by
  cases h <;> exact unprefixed_of_head? (by decide)

theorem Session.GreetingFault.unprefixed {cause : String} (h : GreetingFault cause) :
    Unprefixed cause := by
  cases h with
  | noLine h => exact h.unprefixed
  | unexpected line => exact unprefixed_of_head? (by simp)

theorem Channel.ReplyFault.unprefixed {cause : String} (h : ReplyFault cause) :
    Unprefixed cause := by
  cases h with
  | noLine h => exact h.unprefixed
  | malformed line => exact unprefixed_of_head? (by simp)
  | continuation h => exact unprefixed_of_head? (by simp)
  | @refused status h =>
    refine unprefixed_of_head? fun hhead => ?_
    rw [String.toList_ofList] at hhead
    -- in capital letters the word of the status would begin with an L
    obtain ⟨rest, rfl⟩ := List.head?_eq_some_iff.1 hhead
    have hword : ((splitStatus ('l' :: rest)).1.map Char.toUpper).head? = some 'L' := rfl
    simp only [List.mem_cons, List.not_mem_nil, or_false] at h
    rcases h with h | h <;> rw [h] at hword <;> contradiction

example :
    (converse (some ("u", "p")) (.ofStream
      ⟨["* OK hi\n", "a1 NO none\n"].map fun s => ⟨0, 0, .ok (Text.encode s.toList)⟩, [], []⟩
      ⟨⟨5⟩, ⟨5⟩⟩ ⟨0⟩)).1 = .error (.protocol "login failed: NO none") := by
  decide +kernel

end ServiceProbe.Imap
