import ServiceProbe.Proofs.Imap.Lines
import ServiceProbe.Proofs.Imap.Waits

/-!
How a conversation keeps to its deadline. Its log shows it: each wait begins right
after a timeout was set to the time then left, so none begins too late, and if none
is longer than its timeout, the last one ends in time. What a conversation would
have done later it does not do: compared with the same conversation under a later
deadline, it ends with a timeout as soon as the other one goes on too late.
-/

namespace ServiceProbe.Imap

open Text

variable {α σ : Type}

/-- How long an act keeps the client waiting. -/
def Act.wait : Act → Nat
  | .arm _ => 0
  | .read wait => wait
  | .write wait => wait

/-- What was done, and when it began; the latest act first. -/
abbrev Log := List (Instant × Act)

namespace Log

/-- How often a timeout was set. -/
def armCount (log : Log) : Nat :=
  log.countP fun
    | (_, .arm _) => true
    | _ => false

/-- The end of the last act. -/
def finish (start : Instant) : Log → Instant
  | [] => start
  | (now, act) :: _ => ⟨now.nanos + act.wait⟩

end Log

/-- The time left until the deadline, which is some. -/
def IsLeft (deadline : Deadline) (now : Instant) (left : Duration) : Prop :=
  0 < left.nanos ∧ now.nanos + left.nanos = deadline.expiry.nanos

/-- An act in time, after what was done before it. A timeout is set to the time
left. A wait begins at the moment at which the timeout was set for it, and only if
the stream could be armed. -/
def InTime (stream : Stream) (deadline : Deadline) : Instant × Act → Log → Prop
  | (now, .arm left), _ => IsLeft deadline now left
  | (now, _), earlier =>
    ∃ left before, earlier = (now, .arm left) :: before ∧ IsLeft deadline now left ∧
      ∀ e, stream.armFailures[Log.armCount before]? ≠ some (some e)

/-- Every act of the log was in time when it began. -/
def KeepsTo (stream : Stream) (deadline : Deadline) (log : Log) : Prop :=
  ∀ later entry earlier, log = later ++ entry :: earlier → InTime stream deadline entry earlier

/-- No wait is longer than the timeout that was set for it. -/
def Patient (log : Log) : Prop :=
  ∀ later now act armed left before, log = later ++ (now, act) :: (armed, .arm left) :: before →
    act.wait ≤ left.nanos

/-- Either the time is over, or something ended as it did elsewhere, and what is left
is alike. -/
def Agrees (alike : σ → σ → Prop) (budget : Duration) (outcome other : Except ProbeError α × σ) :
    Prop :=
  outcome.1 = .error (.timeout budget) ∨ outcome.1 = other.1 ∧ alike outcome.2 other.2

theorem keepsTo_nil (stream : Stream) (deadline : Deadline) : KeepsTo stream deadline [] := by
  intro later entry earlier h
  simp at h

theorem KeepsTo.cons {stream : Stream} {deadline : Deadline} {log : Log} {entry : Instant × Act}
    (h : KeepsTo stream deadline log) (hentry : InTime stream deadline entry log) :
    KeepsTo stream deadline (entry :: log) := by
  rintro (_ | ⟨first, later⟩) other earlier heq
  · cases heq
    exact hentry
  · cases heq
    exact h later other earlier rfl

theorem KeepsTo.tail {stream : Stream} {deadline : Deadline} {log : Log} {entry : Instant × Act}
    (h : KeepsTo stream deadline (entry :: log)) : KeepsTo stream deadline log :=
  fun later other earlier hlog => h (entry :: later) other earlier (congrArg (entry :: ·) hlog)

theorem patient_nil : Patient [] := by
  intro later now act armed left before h
  simp at h

theorem Patient.cons {log : Log} {entry : Instant × Act} (h : Patient log)
    (hentry : ∀ armed left before, log = (armed, .arm left) :: before →
      entry.2.wait ≤ left.nanos) : Patient (entry :: log) := by
  rintro (_ | ⟨first, later⟩) now act armed left before heq
  · cases heq
    exact hentry armed left before rfl
  · cases heq
    exact h later now act armed left before rfl

/-- With patience the last act ends in time. -/
theorem KeepsTo.finish_le {stream : Stream} {deadline : Deadline} {log : Log} {start : Instant}
    (h : KeepsTo stream deadline log) (hpatient : Patient log)
    (hstart : start.nanos ≤ deadline.expiry.nanos) :
    (log.finish start).nanos ≤ deadline.expiry.nanos := by
  rcases log with _ | ⟨⟨now, act⟩, earlier⟩
  · exact hstart
  · have hlast := h [] (now, act) earlier rfl
    cases act with
    | arm left =>
      obtain ⟨-, htotal⟩ := hlast
      exact Nat.le.intro htotal
    | read wait =>
      obtain ⟨left, before, rfl, ⟨-, htotal⟩, -⟩ := hlast
      have hwait : wait ≤ left.nanos := hpatient [] _ _ _ _ _ rfl
      show now.nanos + wait ≤ deadline.expiry.nanos
      omega
    | write wait =>
      obtain ⟨left, before, rfl, ⟨-, htotal⟩, -⟩ := hlast
      have hwait : wait ≤ left.nanos := hpatient [] _ _ _ _ _ rfl
      show now.nanos + wait ≤ deadline.expiry.nanos
      omega

namespace Channel

/-! ### One channel -/

/-- The channel has a deadline from the start on, and has kept to it so far. -/
structure OnTime (stream : Stream) (deadline : Deadline) (start : Instant) (c : Channel) :
    Prop where
  deadline_eq : c.deadline = deadline
  /-- Each timeout that was set has used up one place of the list of failures. -/
  failures_eq : c.stream.armFailures = stream.armFailures.drop (Log.armCount c.log)
  clock_eq : c.clock = Log.finish start c.log
  keepsTo : KeepsTo stream deadline c.log

/-- A timeout has just been set, without a failure. -/
def Armed (stream : Stream) (deadline : Deadline) (c : Channel) : Prop :=
  ∃ left before, c.log = (c.clock, .arm left) :: before ∧ IsLeft deadline c.clock left ∧
    ∀ e, stream.armFailures[Log.armCount before]? ≠ some (some e)

variable {stream : Stream} {deadline : Deadline} {start : Instant} {c : Channel}

theorem onTime_ofStream (stream : Stream) (flushes : List FlushEvent) (deadline : Deadline)
    (start : Instant) :
    { ofStream stream deadline start with flushes : Channel }.OnTime stream deadline start :=
  ⟨rfl, rfl, rfl, keepsTo_nil stream deadline⟩

theorem OnTime.arm (h : c.OnTime stream deadline start) :
    c.arm.2.OnTime stream deadline start ∧
      (c.arm.1 = .ok () → c.arm.2.Armed stream deadline) := by
  unfold Channel.arm
  cases hleft : c.deadline.remaining c.clock with
  | error e => exact ⟨h, fun hok => by contradiction⟩
  | ok left =>
    obtain ⟨hnow, hnanos⟩ := Deadline.remaining_eq_ok_iff.1 hleft
    rw [h.deadline_eq] at hnow hnanos
    have hisLeft : IsLeft deadline c.clock left := ⟨by omega, by omega⟩
    have hlog : KeepsTo stream deadline ((c.clock, .arm left) :: c.log) := h.keepsTo.cons hisLeft
    have hcount : Log.armCount ((c.clock, .arm left) :: c.log) = Log.armCount c.log + 1 :=
      List.countP_cons_of_pos rfl
    have hfailures := h.failures_eq
    dsimp only
    cases hlist : c.stream.armFailures with
    | nil =>
      rw [record_stream, hlist]
      rw [hlist] at hfailures
      have hover := List.drop_eq_nil_iff.1 hfailures.symm
      refine ⟨⟨h.deadline_eq, ?_, rfl, hlog⟩, fun _ => ⟨left, c.log, rfl, hisLeft, fun e => ?_⟩⟩
      · show c.stream.armFailures = _
        rw [hlist]
        exact (List.drop_eq_nil_iff.2 (by
          show _ ≤ Log.armCount ((c.clock, .arm left) :: c.log)
          omega)).symm
      · rw [List.getElem?_eq_none hover]
        simp
    | cons failure others =>
      rw [record_stream, hlist]
      rw [hlist] at hfailures
      have hnext : others = stream.armFailures.drop (Log.armCount c.log + 1) := by
        rw [← List.tail_drop, ← hfailures, List.tail_cons]
      have hfirst : stream.armFailures[Log.armCount c.log]? = some failure := by
        rw [← List.head?_drop, ← hfailures, List.head?_cons]
      have honTime : OnTime stream deadline start
          { c.record (.arm left) 0 with stream := { c.stream with armFailures := others } } :=
        ⟨h.deadline_eq, hnext.trans (congrArg (List.drop · stream.armFailures) hcount.symm), rfl,
          hlog⟩
      cases failure with
      | none =>
        refine ⟨honTime, fun _ => ⟨left, c.log, rfl, hisLeft, fun e => ?_⟩⟩
        rw [hfirst]
        simp
      | some e => exact ⟨honTime, fun hok => by contradiction⟩

theorem OnTime.of_arm {armed : Channel} (h : c.OnTime stream deadline start)
    (harm : c.arm = (.ok (), armed)) :
    armed.OnTime stream deadline start ∧ armed.Armed stream deadline := by
  have harmed := h.arm
  rw [harm] at harmed
  exact ⟨harmed.1, harmed.2 rfl⟩

/-- A wait that begins now, right after the timeout was set for it. -/
theorem OnTime.record_wait (h : c.OnTime stream deadline start) (harmed : c.Armed stream deadline)
    (act : Act) (hact : ∀ left, act ≠ .arm left) :
    (c.record act act.wait).OnTime stream deadline start := by
  have hcount : Log.armCount ((c.clock, act) :: c.log) = Log.armCount c.log :=
    List.countP_cons_of_neg (by cases act <;> simp_all)
  have hinTime : InTime stream deadline (c.clock, act) c.log := by
    cases act with
    | arm left => exact absurd rfl (hact left)
    | read wait => exact harmed
    | write wait => exact harmed
  exact ⟨h.deadline_eq, h.failures_eq.trans (congrArg (List.drop · stream.armFailures) hcount.symm),
    rfl, h.keepsTo.cons hinTime⟩

theorem OnTime.available (h : c.OnTime stream deadline start) (harmed : c.Armed stream deadline) :
    c.available.2.OnTime stream deadline start := by
  have hread (wait : Nat) : (c.record (.read wait) wait).OnTime stream deadline start :=
    h.record_wait harmed (.read wait) (by simp)
  unfold Channel.available
  split
  · unfold receive
    split
    · exact hread 0
    · next event later hreads =>
      split
      · exact hread _
      · obtain ⟨hdeadline, hfailures, hclock, hlog⟩ := hread event.wait
        exact ⟨hdeadline, hfailures, hclock, hlog⟩
  · exact ⟨h.deadline_eq, h.failures_eq, h.clock_eq, h.keepsTo⟩

theorem OnTime.write (h : c.OnTime stream deadline start) (harmed : c.Armed stream deadline)
    (bytes : Bytes) : (c.write bytes).2.OnTime stream deadline start ∧
      ∃ wait, (c.write bytes).2.log = (c.clock, .write wait) :: c.log := by
  unfold Channel.write
  rcases writeAll c.stream.writes bytes 0 [] with ⟨result, wait, taken, writes⟩
  obtain ⟨hdeadline, hfailures, hclock, hlog⟩ := h.record_wait harmed (.write wait) (by simp)
  exact ⟨⟨hdeadline, hfailures, hclock, hlog⟩, wait, rfl⟩

/-- A flush makes the write longer, and does not change when it began. -/
theorem OnTime.flush (h : c.OnTime stream deadline start) {now : Instant} {wait : Nat}
    {earlier : Log} (hlast : c.log = (now, .write wait) :: earlier) :
    c.flush.2.OnTime stream deadline start := by
  unfold Channel.flush
  split
  · exact h
  · next event later hflushes =>
    obtain ⟨hdeadline, hfailures, hclock, hkeeps⟩ := h
    rw [hlast] at hfailures hclock hkeeps
    have hcount (wait : Nat) : Log.armCount ((now, .write wait) :: earlier) =
        Log.armCount earlier := List.countP_cons_of_neg (by simp)
    have hlog : ({ c with flushes := later }.prolong event.wait).log =
        (now, .write (wait + event.wait)) :: earlier := by
      simp only [prolong, hlast]
    refine ⟨hdeadline, ?_, ?_, ?_⟩ <;> rw [hlog]
    · rw [hcount] at hfailures ⊢
      exact hfailures
    · show Instant.mk (c.clock.nanos + event.wait) = ⟨now.nanos + (wait + event.wait)⟩
      rw [hclock, Log.finish, Act.wait, Nat.add_assoc]
    · exact hkeeps.tail.cons (hkeeps [] (now, .write wait) earlier rfl)

theorem OnTime.send (h : c.OnTime stream deadline start) (harmed : c.Armed stream deadline)
    (bytes : Bytes) : (c.send bytes).2.OnTime stream deadline start := by
  obtain ⟨hwritten, wait, hlog⟩ := h.write harmed bytes
  refine send_keeps hwritten fun d hd h => ?_
  rw [hd] at hlog
  exact h.flush hlog

theorem kept_onTime (stream : Stream) (deadline : Deadline) (start : Instant) :
    Kept (OnTime stream deadline start) (fun _ => True) where
  arm h := h.arm.1
  expired _ _ := trivial
  read h harm := (h.of_arm harm).1.available (h.of_arm harm).2
  rest _ h := ⟨h.deadline_eq, h.failures_eq, h.clock_eq, h.keepsTo⟩
  write bytes h harm := (h.of_arm harm).1.send (h.of_arm harm).2 bytes
  io _ _ := trivial
  protocol _ := trivial

/-! ### The same channel under a later deadline -/

/-- A channel and one under a later deadline on which the same has been done, all
of it before the earlier deadline. -/
structure Shadows (deadline later : Deadline) (c d : Channel) : Prop where
  deadline_eq : c.deadline = deadline
  later_eq : d.deadline = later
  stream : c.stream = d.stream
  flushes : c.flushes = d.flushes
  clock : c.clock = d.clock
  buffer : c.buffer = d.buffer
  sent : c.sent = d.sent
  early : ∀ entry ∈ d.log, entry.1.nanos < deadline.expiry.nanos

variable {later : Deadline} {d : Channel}

theorem Shadows.record (h : Shadows deadline later c d)
    (hnow : c.clock.nanos < deadline.expiry.nanos) (act act' : Act) (wait : Nat) :
    Shadows deadline later (c.record act wait) (d.record act' wait) := by
  refine ⟨h.deadline_eq, h.later_eq, h.stream, h.flushes, ?_, h.buffer, h.sent,
    fun entry hentry => ?_⟩
  · show Instant.mk _ = Instant.mk _
    rw [h.clock]
  · rcases List.mem_cons.1 hentry with rfl | hentry
    · rwa [← h.clock]
    · exact h.early entry hentry

theorem ofIo_eq_or (e : IoError) (budget budget' : Duration) :
    ProbeError.ofIo e budget = .timeout budget ∨
      ProbeError.ofIo e budget = ProbeError.ofIo e budget' := by
  unfold ProbeError.ofIo
  split
  · exact .inl rfl
  · exact .inr rfl

theorem Shadows.arm (h : Shadows deadline later c d)
    (hlater : deadline.expiry.nanos ≤ later.expiry.nanos) :
    Agrees (Shadows deadline later) deadline.budget c.arm d.arm ∧
      (c.arm.1 = .ok () → c.arm.2.clock.nanos < deadline.expiry.nanos) := by
  by_cases hover : deadline.expiry.nanos ≤ c.clock.nanos
  · have hleft : c.deadline.remaining c.clock = .error (.timeout deadline.budget) := by
      rw [h.deadline_eq, Deadline.remaining, if_pos hover]
    unfold Channel.arm
    rw [hleft]
    exact ⟨.inl rfl, fun hok => by contradiction⟩
  · have hnow : c.clock.nanos < deadline.expiry.nanos := Nat.lt_of_not_le hover
    have hleft : c.deadline.remaining c.clock = .ok (deadline.left c.clock) := by
      rw [h.deadline_eq, Deadline.remaining, if_neg hover]
    have hleft' : d.deadline.remaining d.clock = .ok (later.left d.clock) := by
      rw [h.later_eq, Deadline.remaining, if_neg (by rw [← h.clock]; omega)]
    have hrecord := h.record hnow (.arm (deadline.left c.clock)) (.arm (later.left d.clock)) 0
    unfold Channel.arm
    rw [hleft, hleft']
    dsimp only
    rw [record_stream, record_stream, ← h.stream]
    cases c.stream.armFailures with
    | nil => exact ⟨.inr ⟨rfl, hrecord⟩, fun _ => hnow⟩
    | cons failure others =>
      have hsame : Shadows deadline later
          { c.record (.arm (deadline.left c.clock)) 0 with
            stream := { c.stream with armFailures := others } }
          { d.record (.arm (later.left d.clock)) 0 with
            stream := { c.stream with armFailures := others } } :=
        ⟨hrecord.deadline_eq, hrecord.later_eq, rfl, hrecord.flushes, hrecord.clock,
          hrecord.buffer, hrecord.sent, hrecord.early⟩
      cases failure with
      | none => exact ⟨.inr ⟨rfl, hsame⟩, fun _ => hnow⟩
      | some e =>
        refine ⟨?_, fun hok => by contradiction⟩
        rcases ofIo_eq_or e deadline.budget later.budget with htimeout | hsame'
        · left
          show Except.error (ProbeError.ofIo e c.deadline.budget) = _
          rw [h.deadline_eq, htimeout]
        · right
          refine ⟨?_, hsame⟩
          show Except.error (ProbeError.ofIo e c.deadline.budget) =
            Except.error (ProbeError.ofIo e d.deadline.budget)
          rw [h.deadline_eq, h.later_eq, hsame']

/-- Where a read fails for want of time the two can differ, and only there. -/
theorem Shadows.available (h : Shadows deadline later c d)
    (hnow : c.clock.nanos < deadline.expiry.nanos) :
    (∃ e, c.available.1 = .error e ∧ e.kind.isTimeout = true) ∨
      c.available.1 = d.available.1 ∧ Shadows deadline later c.available.2 d.available.2 := by
  unfold Channel.available
  rw [← h.buffer]
  cases hbuffer : c.buffer with
  | cons byte bytes =>
    exact .inr ⟨rfl, h.deadline_eq, h.later_eq, h.stream, h.flushes, h.clock, rfl, h.sent, h.early⟩
  | nil =>
    dsimp only
    unfold receive
    rw [← h.stream]
    cases c.stream.reads with
    | nil => exact .inr ⟨rfl, h.record hnow _ _ 0⟩
    | cons event others =>
      have hlines : d.linesSent = c.linesSent := by rw [linesSent, linesSent, h.sent]
      dsimp only
      rw [hlines]
      split
      · exact .inl ⟨wouldBlock, rfl, rfl⟩
      · have hrecord := h.record hnow (.read event.wait) (.read event.wait) event.wait
        exact .inr ⟨rfl, hrecord.deadline_eq, hrecord.later_eq, rfl, hrecord.flushes,
          hrecord.clock, hrecord.buffer, hrecord.sent, hrecord.early⟩

theorem Shadows.write (h : Shadows deadline later c d)
    (hnow : c.clock.nanos < deadline.expiry.nanos) (bytes : Bytes) :
    (c.write bytes).1 = (d.write bytes).1 ∧
      Shadows deadline later (c.write bytes).2 (d.write bytes).2 := by
  unfold Channel.write
  rw [← h.stream]
  rcases writeAll c.stream.writes bytes 0 [] with ⟨result, wait, taken, writes⟩
  have hrecord := h.record hnow (.write wait) (.write wait) wait
  refine ⟨rfl, hrecord.deadline_eq, hrecord.later_eq, rfl, hrecord.flushes, hrecord.clock,
    hrecord.buffer, ?_, hrecord.early⟩
  show c.sent ++ taken = d.sent ++ taken
  rw [h.sent]

theorem Shadows.flush (h : Shadows deadline later c d) :
    c.flush.1 = d.flush.1 ∧ Shadows deadline later c.flush.2 d.flush.2 := by
  unfold Channel.flush
  rw [← h.flushes]
  cases c.flushes with
  | nil => exact ⟨rfl, h⟩
  | cons event others =>
    refine ⟨rfl, h.deadline_eq, h.later_eq, h.stream, rfl, ?_, h.buffer, h.sent, ?_⟩
    · simp only [prolong, h.clock]
    · -- the last entry is longer, but it begins when it did
      have hearly := h.early
      simp only [prolong]
      split
      · next now wait earlier hlog =>
        rw [hlog, List.forall_mem_cons] at hearly
        exact List.forall_mem_cons.2 hearly
      · exact hearly

theorem Shadows.send (h : Shadows deadline later c d)
    (hnow : c.clock.nanos < deadline.expiry.nanos) (bytes : Bytes) :
    (c.send bytes).1 = (d.send bytes).1 ∧
      Shadows deadline later (c.send bytes).2 (d.send bytes).2 := by
  obtain ⟨hsame, hshadows⟩ := h.write hnow bytes
  unfold Channel.send
  generalize c.write bytes = written, d.write bytes = written' at hsame hshadows ⊢
  rcases written with ⟨result, c'⟩
  rcases written' with ⟨result', d'⟩
  obtain rfl : result = result' := hsame
  rcases result with e | u
  · exact ⟨rfl, hshadows⟩
  · exact hshadows.flush

/-- A wait after the timeout was set goes as under the later deadline, or fails for
want of time. -/
theorem Shadows.wait (h : Shadows deadline later c d)
    (hlater : deadline.expiry.nanos ≤ later.expiry.nanos) {armed c' : Channel}
    {result : Except IoError Bytes} (harm : c.arm = (.ok (), armed))
    (hread : armed.available = (result, c')) :
    (∃ e, result = .error e ∧ ProbeError.ofIo e c'.deadline.budget = .timeout deadline.budget) ∨
      ∃ armed' d', d.arm = (.ok (), armed') ∧ armed'.available = (result, d') ∧
        Shadows deadline later c' d' := by
  obtain ⟨hagrees, hnow⟩ := h.arm hlater
  rw [harm] at hagrees hnow
  rcases hagrees with htimeout | ⟨hok, harmed⟩
  · contradiction
  · rcases harm' : d.arm with ⟨result', armed'⟩
    rw [harm'] at hok harmed
    obtain rfl : Except.ok () = result' := hok
    have havailable := harmed.available (hnow rfl)
    rw [hread] at havailable
    rcases havailable with ⟨e, he, hkind⟩ | ⟨hsame, hshadows⟩
    · obtain rfl : result = .error e := he
      have hdeadline : c'.deadline = armed.deadline := by rw [← deadline_available armed, hread]
      refine .inl ⟨e, rfl, ?_⟩
      rw [hdeadline, harmed.deadline_eq, ProbeError.ofIo, if_pos hkind]
    · rcases hread' : armed'.available with ⟨result', d'⟩
      rw [hread'] at hsame hshadows
      obtain rfl : result = result' := hsame
      exact .inr ⟨armed', d', rfl, hread', hshadows⟩

/-- What a line is collected from, one wait at a time. -/
theorem collect_eq (line : Bytes) (c : Channel) :
    c.collect line =
      match c.arm with
      | (.error e, armed) => (.error e, armed)
      | (.ok (), armed) =>
        match armed.available with
        | (.error e, d) => (.error (.ofIo e d.deadline.budget), d)
        | (.ok [], d) => (.error closedByServer, d)
        | (.ok (byte :: bytes), d) =>
          match (byte :: bytes).dropWhile (· != lineFeed) with
          | [] =>
            let line := line ++ byte :: bytes
            if maxLineLength < line.length then (.error lineTooLong, d) else collect line d
          | _ :: rest =>
            let line := line ++ (byte :: bytes).takeWhile (· != lineFeed) ++ [lineFeed]
            let d := { d with buffer := rest }
            if maxLineLength < line.length then (.error lineTooLong, d) else (.ok line, d) := by
  rw [collect]
  rcases c.arm with ⟨_ | _, armed⟩
  · rfl
  · dsimp only
    rcases armed.available with ⟨_ | _ | _, d⟩ <;> rfl

theorem Shadows.rest (h : Shadows deadline later c d) (bytes : Bytes) :
    Shadows deadline later { c with buffer := bytes } { d with buffer := bytes } :=
  ⟨h.deadline_eq, h.later_eq, h.stream, h.flushes, h.clock, rfl, h.sent, h.early⟩

theorem Shadows.collect (hlater : deadline.expiry.nanos ≤ later.expiry.nanos) (line : Bytes)
    (c : Channel) : ∀ d, Shadows deadline later c d →
      Agrees (Shadows deadline later) deadline.budget (c.collect line) (d.collect line) := by
  fun_induction Channel.collect line c with (intro d h; rw [collect_eq line d])
  | case1 line c e armed harm =>
    have hagrees := (h.arm hlater).1
    rw [harm] at hagrees
    rcases hagrees with htimeout | ⟨hsame, harmed⟩
    · exact .inl (by simpa using htimeout)
    · rcases harm' : d.arm with ⟨result, armed'⟩
      rw [harm'] at hsame harmed
      obtain rfl : Except.error e = result := hsame
      exact .inr ⟨rfl, harmed⟩
  | case2 line c armed harm e c' hread =>
    rcases h.wait hlater harm hread with ⟨e', he, htimeout⟩ | ⟨armed', d', harm', hread', hshadows⟩
    · cases he
      exact .inl (congrArg Except.error htimeout)
    · simp only [harm', hread', hshadows.deadline_eq, hshadows.later_eq]
      rcases ofIo_eq_or e deadline.budget later.budget with htimeout | hsame
      · exact .inl (congrArg Except.error htimeout)
      · exact .inr ⟨congrArg Except.error hsame, hshadows⟩
  | case3 line c armed harm c' hread =>
    rcases h.wait hlater harm hread with ⟨e', he, -⟩ | ⟨armed', d', harm', hread', hshadows⟩
    · contradiction
    · simp only [harm', hread']
      exact .inr ⟨rfl, hshadows⟩
  | case4 line c armed harm byte bytes c' hread hdrop seen hlong =>
    rcases h.wait hlater harm hread with ⟨e', he, -⟩ | ⟨armed', d', harm', hread', hshadows⟩
    · contradiction
    · simp only [harm', hread', hdrop]
      rw [if_pos hlong]
      exact .inr ⟨rfl, hshadows⟩
  | case5 line c armed harm byte bytes c' hread hdrop seen hshort ih =>
    rcases h.wait hlater harm hread with ⟨e', he, -⟩ | ⟨armed', d', harm', hread', hshadows⟩
    · contradiction
    · simp only [harm', hread', hdrop]
      rw [if_neg hshort]
      exact ih d' hshadows
  | case6 line c armed harm byte bytes c' hread b after hdrop out left hlong =>
    rcases h.wait hlater harm hread with ⟨e', he, -⟩ | ⟨armed', d', harm', hread', hshadows⟩
    · contradiction
    · simp only [harm', hread', hdrop]
      rw [if_pos hlong]
      exact .inr ⟨rfl, hshadows.rest after⟩
  | case7 line c armed harm byte bytes c' hread b after hdrop out left hshort =>
    rcases h.wait hlater harm hread with ⟨e', he, -⟩ | ⟨armed', d', harm', hread', hshadows⟩
    · contradiction
    · simp only [harm', hread', hdrop]
      rw [if_neg hshort]
      exact .inr ⟨rfl, hshadows.rest after⟩

theorem Shadows.readLine (h : Shadows deadline later c d)
    (hlater : deadline.expiry.nanos ≤ later.expiry.nanos) :
    Agrees (Shadows deadline later) deadline.budget c.readLine d.readLine := by
  have hagrees := Shadows.collect hlater [] c d h
  unfold Channel.readLine
  rcases hline : c.collect [] with ⟨e | line, c'⟩ <;>
    rcases hother : d.collect [] with ⟨e' | line', d'⟩ <;>
    rw [hline, hother] at hagrees <;> rcases hagrees with htimeout | ⟨hsame, hshadows⟩
  · exact .inl (by simpa using htimeout)
  · exact .inr ⟨by simpa using hsame, hshadows⟩
  · exact .inl (by simpa using htimeout)
  · contradiction
  · contradiction
  · contradiction
  · contradiction
  · obtain rfl : line = line' := by simpa using hsame
    exact .inr ⟨rfl, hshadows⟩

theorem awaitReply_eq (tag : List Char) (c : Channel) :
    c.awaitReply tag =
      match c.readLine with
      | (.error e, d) => (.error e, d)
      | (.ok line, d) =>
        match (Reply.ofLine tag line).verdict? line with
        | some verdict => (verdict, d)
        | none => awaitReply tag d := by
  rw [awaitReply]
  rcases c.readLine with ⟨_ | _, d⟩ <;> rfl

theorem Shadows.awaitReply (hlater : deadline.expiry.nanos ≤ later.expiry.nanos)
    (tag : List Char) (c : Channel) : ∀ d, Shadows deadline later c d →
      Agrees (Shadows deadline later) deadline.budget (c.awaitReply tag) (d.awaitReply tag) := by
  fun_induction Channel.awaitReply tag c with
    (intro d h; have hagrees := h.readLine hlater; rw [awaitReply_eq tag d])
  | case1 c e c' hline =>
    rw [hline] at hagrees
    rcases hagrees with htimeout | ⟨hsame, hshadows⟩
    · exact .inl (by simpa using htimeout)
    · rcases hother : d.readLine with ⟨result, d'⟩
      rw [hother] at hsame hshadows
      obtain rfl : Except.error e = result := hsame
      exact .inr ⟨rfl, hshadows⟩
  | case2 c line c' hline verdict hverdict =>
    rw [hline] at hagrees
    rcases hagrees with htimeout | ⟨hsame, hshadows⟩
    · contradiction
    · rcases hother : d.readLine with ⟨result, d'⟩
      rw [hother] at hsame hshadows
      obtain rfl : Except.ok line = result := hsame
      simp only [hverdict]
      exact .inr ⟨rfl, hshadows⟩
  | case3 c line c' hline hverdict ih =>
    rw [hline] at hagrees
    rcases hagrees with htimeout | ⟨hsame, hshadows⟩
    · contradiction
    · rcases hother : d.readLine with ⟨result, d'⟩
      rw [hother] at hsame hshadows
      obtain rfl : Except.ok line = result := hsame
      simp only [hverdict]
      exact ih d' hshadows

end Channel

/-! ### The same session under a later deadline -/

namespace Session

/-- Two sessions that have come equally far on such channels. -/
def Shadows (deadline later : Deadline) (s t : Session) : Prop :=
  Channel.Shadows deadline later s.channel t.channel ∧ s.nextTag = t.nextTag

variable {deadline later : Deadline} {s t : Session}

theorem Shadows.greet (h : Shadows deadline later s t)
    (hlater : deadline.expiry.nanos ≤ later.expiry.nanos) :
    Agrees (Shadows deadline later) deadline.budget s.greet t.greet := by
  have hagrees := h.1.readLine hlater
  unfold Session.greet
  rcases hline : s.channel.readLine with ⟨result, c⟩
  rw [hline] at hagrees
  rcases hagrees with htimeout | ⟨hsame, hshadows⟩
  · obtain rfl : result = _ := htimeout
    exact .inl rfl
  · rcases hother : t.channel.readLine with ⟨result', d⟩
    rw [hother] at hsame hshadows
    obtain rfl : result = result' := hsame
    rcases result with e | line
    · exact .inr ⟨rfl, hshadows, h.2⟩
    · dsimp only
      split
      · exact .inr ⟨rfl, hshadows, h.2⟩
      · exact .inr ⟨rfl, hshadows, h.2⟩

theorem Shadows.command (h : Shadows deadline later s t)
    (hlater : deadline.expiry.nanos ≤ later.expiry.nanos) (text : String) :
    Agrees (Shadows deadline later) deadline.budget (s.command text) (t.command text) := by
  obtain ⟨hagrees, hnow⟩ := h.1.arm hlater
  have hbytes : t.commandBytes text = s.commandBytes text := by
    rw [commandBytes, commandBytes, h.2]
  have hafter {c d : Channel} (hshadows : Channel.Shadows deadline later c d) :
      Shadows deadline later (s.after c) (t.after d) := ⟨hshadows, congrArg (· + 1) h.2⟩
  unfold Session.command
  rcases harm : s.channel.arm with ⟨result, armed⟩
  rw [harm] at hagrees hnow
  rcases hagrees with htimeout | ⟨hsame, hshadows⟩
  · obtain rfl : result = _ := htimeout
    exact .inl rfl
  · rcases hother : t.channel.arm with ⟨result', armed'⟩
    rw [hother] at hsame hshadows
    obtain rfl : result = result' := hsame
    rcases result with e | u
    · exact .inr ⟨rfl, hafter hshadows⟩
    · have hsend := hshadows.send (hnow rfl) (s.commandBytes text)
      dsimp only
      rw [← commandBytes, ← commandBytes, hbytes]
      rcases hsent : armed.send (s.commandBytes text) with ⟨result, c⟩
      rcases hsent' : armed'.send (s.commandBytes text) with ⟨result', d⟩
      rw [hsent, hsent'] at hsend
      obtain ⟨hsame, hshadows⟩ := hsend
      obtain rfl : result = result' := hsame
      rcases result with e | u
      · dsimp only
        rw [hshadows.deadline_eq, hshadows.later_eq]
        rcases Channel.ofIo_eq_or e deadline.budget later.budget with htimeout | hsame
        · exact .inl (congrArg Except.error htimeout)
        · exact .inr ⟨congrArg Except.error hsame, hafter hshadows⟩
      · cases u
        have hreply := Channel.Shadows.awaitReply hlater (tagText s.nextTag).toList c d hshadows
        rw [show tagText t.nextTag = tagText s.nextTag by rw [h.2]]
        rcases hreply with htimeout | ⟨hsame, hshadows⟩
        · exact .inl htimeout
        · exact .inr ⟨hsame, hafter hshadows⟩

theorem Agrees.step {outcome other : Except ProbeError (List Char) × Session}
    (h : Agrees (Shadows deadline later) deadline.budget outcome other) (name : String) :
    Agrees (Shadows deadline later) deadline.budget (step name outcome) (step name other) := by
  rcases outcome with ⟨result, s⟩
  rcases h with htimeout | ⟨hsame, hshadows⟩
  · obtain rfl : result = _ := htimeout
    exact .inl rfl
  · rcases other with ⟨result', t⟩
    obtain rfl : result = result' := hsame
    rcases result with e | text
    · exact .inr ⟨rfl, hshadows⟩
    · exact .inr ⟨rfl, hshadows⟩

end Session

theorem converse_agrees {deadline later : Deadline} {c d : Channel}
    (h : Channel.Shadows deadline later c d)
    (hlater : deadline.expiry.nanos ≤ later.expiry.nanos)
    (credentials : Option (String × String)) :
    Agrees (Session.Shadows deadline later) deadline.budget (converse credentials c)
      (converse credentials d) := by
  have hgreet := Session.Shadows.greet (s := .start c) (t := .start d) ⟨h, rfl⟩ hlater
  unfold converse
  generalize (Session.start c).greet = greeted, (Session.start d).greet = greeted' at hgreet ⊢
  rcases greeted with ⟨result, s⟩
  rcases greeted' with ⟨result', t⟩
  rcases hgreet with htimeout | ⟨hsame, hshadows⟩
  · obtain rfl : result = _ := htimeout
    exact .inl rfl
  · obtain rfl : result = result' := hsame
    rcases result with e | u
    · exact .inr ⟨rfl, hshadows⟩
    · rcases credentials with _ | ⟨username, password⟩
      · exact .inr ⟨rfl, hshadows⟩
      · have hlogin := Session.Agrees.step (hshadows.command hlater
          (Session.loginText username password)) "login"
        rw [← Session.login, ← Session.login] at hlogin
        dsimp only
        generalize s.login username password = logged,
          t.login username password = logged' at hlogin ⊢
        rcases logged with ⟨result, s'⟩
        rcases logged' with ⟨result', t'⟩
        rcases hlogin with htimeout | ⟨hsame, hshadows⟩
        · obtain rfl : result = _ := htimeout
          exact .inl rfl
        · obtain rfl : result = result' := hsame
          rcases result with e | u
          · exact .inr ⟨rfl, hshadows⟩
          · exact Session.Agrees.step (hshadows.command hlater "LOGOUT") "logout"

/-- A conversation keeps to its deadline. All its acts are in time when they begin.
If under some later deadline it would go on at or after this one, be it only to look
at a line that it has read, then it ends with a timeout of the whole budget. And
with patience it is over by then. -/
theorem converse_keepsTo (credentials : Option (String × String)) (stream : Stream)
    (deadline : Deadline) (now : Instant) (flushes : List FlushEvent) :
    let channel (deadline : Deadline) := { Channel.ofStream stream deadline now with flushes }
    let outcome := converse credentials (channel deadline)
    KeepsTo stream deadline outcome.2.channel.log ∧
    (∀ later : Deadline, deadline.expiry.nanos ≤ later.expiry.nanos →
      ∀ entry ∈ (converse credentials (channel later)).2.channel.log,
        deadline.expiry.nanos ≤ entry.1.nanos →
          outcome.1 = .error (.timeout deadline.budget)) ∧
    (Patient outcome.2.channel.log → now.nanos ≤ deadline.expiry.nanos →
      outcome.2.channel.clock.nanos ≤ deadline.expiry.nanos) := by
  intro channel outcome
  have honTime : outcome.2.channel.OnTime stream deadline now :=
    (converse_keeps (Channel.kept_onTime stream deadline now)
      (Channel.onTime_ofStream stream flushes deadline now) credentials).1
  refine ⟨honTime.keepsTo, ?_, ?_⟩
  · intro later hlater entry hentry hlate
    have hshadows : Channel.Shadows deadline later (channel deadline) (channel later) :=
      ⟨rfl, rfl, rfl, rfl, rfl, rfl, rfl, by simp [channel, Channel.ofStream]⟩
    rcases converse_agrees hshadows hlater credentials with htimeout | ⟨-, hsame⟩
    · exact htimeout
    · have hearly := hsame.1.early entry hentry
      omega
  · intro hpatient hstart
    rw [honTime.clock_eq]
    exact honTime.keepsTo.finish_le hpatient hstart

/-- The reply is in the buffer, behind a line that comes with the end of the time. It
is not looked at any more, although every wait was patient, that of a flush too. -/
theorem converse_keepsTo_buffered_reply :
    let stream : Stream :=
      ⟨[⟨0, 1, .ok (encode "* OK hi\n".toList)⟩, ⟨1, 2, .ok (encode "* note\na1 OK\n".toList)⟩],
        [⟨1, .ok 100⟩], []⟩
    let flushes : List FlushEvent := [⟨1, .ok ()⟩]
    let channel (deadline : Deadline) := { Channel.ofStream stream deadline ⟨0⟩ with flushes }
    let outcome := converse (some ("u", "p")) (channel ⟨⟨5⟩, ⟨5⟩⟩)
    let other := converse (some ("u", "p")) (channel ⟨⟨9⟩, ⟨9⟩⟩)
    outcome.2.channel.buffer = encode "a1 OK\n".toList ∧
      (∃ entry ∈ other.2.channel.log, 5 ≤ entry.1.nanos) ∧
      outcome.1 = .error (.timeout ⟨5⟩) ∧
      Patient outcome.2.channel.log ∧ outcome.2.channel.clock.nanos ≤ 5 := by
  intro stream flushes channel outcome other
  have hlog : outcome.2.channel.log =
      [(⟨3⟩, .read 2), (⟨3⟩, .arm ⟨2⟩), (⟨1⟩, .write 2), (⟨1⟩, .arm ⟨4⟩), (⟨0⟩, .read 1),
        (⟨0⟩, .arm ⟨5⟩)] := by decide +kernel
  have hlate : ∃ entry ∈ other.2.channel.log, 5 ≤ entry.1.nanos := by decide +kernel
  have hpatient : Patient outcome.2.channel.log := by
    rw [hlog]
    refine .cons (.cons (.cons (.cons (.cons (.cons patient_nil ?_) ?_) ?_) ?_) ?_) ?_ <;>
      (intro armed left before h; cases h) <;> decide
  obtain ⟨-, hexpires, hends⟩ := converse_keepsTo (some ("u", "p")) stream ⟨⟨5⟩, ⟨5⟩⟩ ⟨0⟩ flushes
  obtain ⟨entry, hentry, hnow⟩ := hlate
  have htimeout := hexpires ⟨⟨9⟩, ⟨9⟩⟩ (by decide) entry hentry hnow
  exact ⟨by decide +kernel, ⟨entry, hentry, hnow⟩, htimeout, hpatient,
    hends hpatient (by decide)⟩

end ServiceProbe.Imap
