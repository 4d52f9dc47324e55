import ServiceProbe.Deadline
import ServiceProbe.Text.Utf8

/-!
A byte stream under a deadline, over a clock that advances only while something
waits. The stream is what the peer does: what each read brings, how much each
write takes, which attempts to set a timeout fail. Before each wait the stream
is armed with the time that is left. The log keeps what was done and when, the
latest entry first.
-/

namespace ServiceProbe.Imap

open Text

/-- What one read brings, after how long a wait. The peer holds it back until
it has received a number of command lines. No bytes means that the peer closed. -/
structure ReadEvent where
  linesNeeded : Nat
  wait : Nat
  outcome : Except IoError Bytes

/-- How many bytes one write takes at most, after how long a wait. -/
structure WriteEvent where
  wait : Nat
  outcome : Except IoError Nat

/-- What one flush comes to, after how long a wait. -/
structure FlushEvent where
  wait : Nat
  outcome : Except IoError Unit

/-- The behaviour of a peer. After the last read event it has closed; after the
last write event it takes everything; where no failure is listed the stream can
be armed. -/
structure Stream where
  reads : List ReadEvent
  writes : List WriteEvent
  armFailures : List (Option IoError)

/-- The most bytes that one read brings. -/
def readLimit : Nat := 8192

/-- A content as reads bring it: at most `readLimit` bytes at a time. -/
def cut (content : Bytes) : List Bytes :=
  if readLimit < content.length then
    content.take readLimit :: cut (content.drop readLimit)
  else [content]
termination_by content.length
decreasing_by simp only [List.length_drop, readLimit] at *; omega

/-- The reads that bring a content; the first of them waits. -/
def ReadEvent.ofContent (linesNeeded wait : Nat) (content : Bytes) : List ReadEvent :=
  match cut content with
  | [] => []
  | first :: others =>
    ⟨linesNeeded, wait, .ok first⟩ :: others.map fun piece => ⟨linesNeeded, 0, .ok piece⟩

/-- Something done with the stream. -/
inductive Act where
  /-- A timeout was set. -/
  | arm (timeout : Duration)
  /-- A read for more data, and how long it waited. -/
  | read (wait : Nat)
  /-- The write of a whole command with its flush, and how long they waited. -/
  | write (wait : Nat)
  deriving DecidableEq, Repr

structure Channel where
  stream : Stream
  /-- What flushes come to. After the last of them they succeed at once; those of a
  socket always do. -/
  flushes : List FlushEvent
  deadline : Deadline
  clock : Instant
  /-- Bytes that have been read and not yet looked at. -/
  buffer : Bytes
  /-- All bytes that the peer has taken. -/
  sent : Bytes
  /-- What was done, and when it began. -/
  log : List (Instant × Act)

namespace Channel

def ofStream (stream : Stream) (deadline : Deadline) (clock : Instant) : Channel :=
  ⟨stream, [], deadline, clock, [], [], []⟩

/-- How many lines the peer has received. -/
def linesSent (c : Channel) : Nat := c.sent.count lineFeed

/-- How often a timeout was set. -/
def armCount (c : Channel) : Nat :=
  c.log.countP fun
    | (_, .arm _) => true
    | _ => false

/-- Notes an act that begins now and lasts for a while. -/
def record (c : Channel) (act : Act) (wait : Nat) : Channel :=
  { c with clock := ⟨c.clock.nanos + wait⟩, log := (c.clock, act) :: c.log }

/-- Bounds the next wait by what is left of the deadline. -/
def arm (c : Channel) : Except ProbeError Unit × Channel :=
  match c.deadline.remaining c.clock with
  | .error e => (.error e, c)
  | .ok left =>
    let c := c.record (.arm left) 0
    match c.stream.armFailures with
    | [] => (.ok (), c)
    | failure :: later =>
      let c := { c with stream := { c.stream with armFailures := later } }
      match failure with
      | none => (.ok (), c)
      | some e => (.error (.ofIo e c.deadline.budget), c)

/-- What a wait that is cut off by its timeout ends with. -/
def wouldBlock : IoError := ⟨.wouldBlock, "Resource temporarily unavailable (os error 11)"⟩

/-- Waits for more data. A peer that waits itself keeps the read waiting until
the timeout. -/
def receive (c : Channel) : Except IoError Bytes × Channel :=
  match c.stream.reads with
  | [] => (.ok [], c.record (.read 0) 0)
  | event :: later =>
    if c.linesSent < event.linesNeeded then
      let wait := c.deadline.expiry.nanos - c.clock.nanos
      (.error wouldBlock, c.record (.read wait) wait)
    else
      let c := { c with stream := { c.stream with reads := later } }
      (event.outcome, c.record (.read event.wait) event.wait)

/-- Bytes to look at: those in the buffer, or else more data. -/
def available (c : Channel) : Except IoError Bytes × Channel :=
  match c.buffer with
  | [] => c.receive
  | bytes => (.ok bytes, { c with buffer := [] })

/-- Writes bytes until all are taken: how long that waited, what was taken and
what is left of the peer's behaviour. Interrupted writes are tried again. -/
def writeAll : List WriteEvent → Bytes → (wait : Nat) → (taken : Bytes) →
    Except IoError Unit × Nat × Bytes × List WriteEvent
  | events, [], wait, taken => (.ok (), wait, taken, events)
  | [], bytes, wait, taken => (.ok (), wait, taken ++ bytes, [])
  | event :: events, byte :: bytes, wait, taken =>
    match event.outcome with
    | .error e =>
      if e.kind = .interrupted then writeAll events (byte :: bytes) (wait + event.wait) taken
      else (.error e, wait + event.wait, taken, events)
    | .ok 0 => (.error .incompleteWrite, wait + event.wait, taken, events)
    | .ok (n + 1) =>
      writeAll events (bytes.drop n) (wait + event.wait) (taken ++ byte :: bytes.take n)

/-- Writes the bytes of a command. -/
def write (c : Channel) (bytes : Bytes) : Except IoError Unit × Channel :=
  let (result, wait, taken, writes) := writeAll c.stream.writes bytes 0 []
  let c := { c with stream := { c.stream with writes := writes }, sent := c.sent ++ taken }
  (result, c.record (.write wait) wait)

/-- Goes on with the write that was begun last. -/
def prolong (c : Channel) (wait : Nat) : Channel :=
  { c with
    clock := ⟨c.clock.nanos + wait⟩
    log := match c.log with
      | (now, .write before) :: earlier => (now, .write (before + wait)) :: earlier
      | log => log }

/-- Flushes what was written. To be interrupted is a failure here. -/
def flush (c : Channel) : Except IoError Unit × Channel :=
  match c.flushes with
  | [] => (.ok (), c)
  | event :: later => (event.outcome, { c with flushes := later }.prolong event.wait)

/-- Sends a whole command. -/
def send (c : Channel) (bytes : Bytes) : Except IoError Unit × Channel :=
  match c.write bytes with
  | (.error e, d) => (.error e, d)
  | (.ok (), d) => d.flush

/-- How many bytes a read event brings. -/
def eventVolume (event : ReadEvent) : Nat :=
  match event.outcome with
  | .ok bytes => bytes.length
  | .error _ => 0

/-- How many bytes have not been looked at, read or not. -/
def volume (c : Channel) : Nat :=
  c.buffer.length + (c.stream.reads.map eventVolume).foldr (· + ·) 0

@[simp] theorem record_buffer (c : Channel) (act : Act) (wait : Nat) :
    (c.record act wait).buffer = c.buffer := rfl

@[simp] theorem record_stream (c : Channel) (act : Act) (wait : Nat) :
    (c.record act wait).stream = c.stream := rfl

@[simp] theorem volume_arm (c : Channel) : c.arm.2.volume = c.volume := by
  unfold arm
  split
  · rfl
  · dsimp only
    split
    · rfl
    · split <;> rfl

@[simp] theorem buffer_available (c : Channel) : c.available.2.buffer = [] := by
  unfold available
  split
  · next hbuffer =>
    unfold receive
    split
    · exact hbuffer
    · split <;> exact hbuffer
  · rfl

/-- What is looked at is no longer to come. -/
theorem volume_available {c d : Channel} {bytes : Bytes} (h : c.available = (.ok bytes, d)) :
    d.volume + bytes.length = c.volume := by
  unfold available at h
  split at h
  · next hbuffer =>
    unfold receive at h
    split at h
    · next hreads =>
      cases h
      simp [volume, hbuffer, hreads]
    · next event later hreads =>
      split at h
      · simp at h
      · simp only [Prod.mk.injEq] at h
        obtain ⟨hout, rfl⟩ := h
        simp [volume, hbuffer, hreads, eventVolume, hout, Nat.add_comm]
  · cases h
    simp [volume]
    omega

end Channel

end ServiceProbe.Imap
