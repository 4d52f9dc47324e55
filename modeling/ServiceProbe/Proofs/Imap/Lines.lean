import ServiceProbe.Proofs.Imap.Sent
import ServiceProbe.Proofs.Text.Blank

/-!
The lines of a peer that fails nowhere. All that such a peer sends is one
content, however it is cut into reads, and a channel reads the lines of that
content: what follows a line feed is kept for the next line, and a line that is
too long, or that the peer does not end, is a failure. Besides, only the time
can be over, and with a prompt peer it never is. As long as nothing is written, the
peer need not take what is written to it.
-/

namespace ServiceProbe.Imap

open Channel (lineTooLong closedByServer)
open Text

variable {α : Type}

/-! ### Lines of a content -/

/-- The pieces of a content that end in a line feed, with it. What stands after
the last line feed is none. -/
def terminatedLines (content : Bytes) : List Bytes :=
  (content.splitOn lineFeed).dropLast.map (· ++ [lineFeed])

/-- The text of a line: what its bytes say, without the carriage returns and line feeds
at its end. -/
def textOf (line : Bytes) : List Char :=
  (decodeLossy line).rdropWhile fun c => c = '\r' ∨ c = '\n'

/-- The texts of the lines before the first one that is too long. -/
def serverLines (content : Bytes) : List (List Char) :=
  ((terminatedLines content).takeWhile (·.length ≤ 65536)).map textOf

theorem lineText_eq_textOf (line : Bytes) : lineText line = textOf line := by
  simp only [lineText, textOf, List.rdropWhile, Bool.decide_or, Bool.beq_eq_decide_eq]

/-- The first line of a content, its line feed included, and what follows it; or
what is wrong with it. -/
def firstLine (content : Bytes) : Except ProbeError (Bytes × Bytes) :=
  let line := content.takeWhile (· != lineFeed)
  match content.dropWhile (· != lineFeed) with
  | [] => if maxLineLength < line.length then .error lineTooLong else .error closedByServer
  | _ :: rest =>
    if maxLineLength < line.length + 1 then .error lineTooLong else .ok (line ++ [lineFeed], rest)

theorem firstLine_of_not_mem {line : Bytes} (h : lineFeed ∉ line) :
    firstLine line =
      if maxLineLength < line.length then .error lineTooLong else .error closedByServer := by
  have hclass := bne_of_not_mem h
  have htake : line.takeWhile (· != lineFeed) = line := List.takeWhile_eq_self_iff.2 hclass
  have hdrop : line.dropWhile (· != lineFeed) = [] := List.dropWhile_eq_nil_iff.2 hclass
  simp only [firstLine, htake, hdrop]

theorem firstLine_append {line : Bytes} (h : lineFeed ∉ line) (rest : Bytes) :
    firstLine (line ++ lineFeed :: rest) =
      if maxLineLength < line.length + 1 then .error lineTooLong
      else .ok (line ++ [lineFeed], rest) := by
  have hclass := bne_of_not_mem h
  have hstops : Stops (· != lineFeed) (lineFeed :: rest) := stops_cons.2 (by simp)
  simp only [firstLine, takeWhile_append_of_stops hclass hstops,
    dropWhile_append_of_stops hclass hstops]

/-- A content is a line and what follows it, or all one line without an end. -/
theorem not_mem_or_eq_append (content : Bytes) :
    lineFeed ∉ content ∨ ∃ line rest, lineFeed ∉ line ∧ content = line ++ lineFeed :: rest := by
  by_cases h : lineFeed ∈ content
  · right
    obtain ⟨line, rest, hcontent, hline⟩ := List.eq_append_cons_of_mem h
    exact ⟨line, rest, hline, hcontent⟩
  · exact .inl h

theorem not_mem_append_of_dropWhile {line bytes : Bytes} (hline : lineFeed ∉ line)
    (hdrop : bytes.dropWhile (· != lineFeed) = []) : lineFeed ∉ line ++ bytes := by
  rw [List.mem_append]
  rintro (hmem | hmem)
  · exact hline hmem
  · simpa using List.dropWhile_eq_nil_iff.1 hdrop _ hmem

theorem eq_append_of_dropWhile {bytes rest : Bytes} {b : UInt8}
    (hdrop : bytes.dropWhile (· != lineFeed) = b :: rest) :
    lineFeed ∉ bytes.takeWhile (· != lineFeed) ∧
      bytes = bytes.takeWhile (· != lineFeed) ++ lineFeed :: rest := by
  refine ⟨fun hmem => by simpa using List.mem_takeWhile_imp hmem, ?_⟩
  have hstops := stops_dropWhile (· != lineFeed) bytes
  rw [hdrop, stops_cons, bne_eq_false_iff_eq] at hstops
  rw [← hstops, ← hdrop, hstops, List.takeWhile_append_dropWhile]

/-- Bytes that are already too many for a line are a line that is too long, in
whatever way they go on. -/
theorem firstLine_of_long {line : Bytes} (h : lineFeed ∉ line) (hlong : maxLineLength < line.length)
    (rest : Bytes) : firstLine (line ++ rest) = .error lineTooLong := by
  rcases not_mem_or_eq_append rest with hrest | ⟨more, rest, hmore, rfl⟩
  · rw [firstLine_of_not_mem (by simp [h, hrest]), if_pos]
    rw [List.length_append]
    omega
  · rw [← List.append_assoc, firstLine_append (by simp [h, hmore]), if_pos]
    rw [List.length_append]
    omega

theorem terminatedLines_of_not_mem {content : Bytes} (h : lineFeed ∉ content) :
    terminatedLines content = [] := by
  rw [terminatedLines, List.splitOn_eq_singleton h]
  rfl

theorem terminatedLines_append {line : Bytes} (h : lineFeed ∉ line) (rest : Bytes) :
    terminatedLines (line ++ lineFeed :: rest) =
      (line ++ [lineFeed]) :: terminatedLines rest := by
  rw [terminatedLines, List.splitOn_append_cons_self_of_not_mem h,
    List.dropLast_cons_of_ne_nil (List.splitOn_ne_nil _ _), List.map_cons, terminatedLines]

/-- The first line of a content is the first of its lines. -/
theorem serverLines_of_firstLine {content line rest : Bytes}
    (h : firstLine content = .ok (line, rest)) :
    serverLines content = textOf line :: serverLines rest := by
  rcases not_mem_or_eq_append content with hmem | ⟨line', rest', hmem, rfl⟩
  · rw [firstLine_of_not_mem hmem] at h
    split at h <;> contradiction
  · rw [firstLine_append hmem] at h
    split at h
    · contradiction
    · next hfits =>
      cases h
      rw [serverLines, terminatedLines_append hmem,
        List.takeWhile_cons_of_pos (by simpa [maxLineLength] using hfits), List.map_cons,
        serverLines]

/-- A content whose first line is at fault has no lines. -/
theorem serverLines_of_firstLine_error {content : Bytes} {e : ProbeError}
    (h : firstLine content = .error e) : serverLines content = [] := by
  rcases not_mem_or_eq_append content with hmem | ⟨line, rest, hmem, rfl⟩
  · rw [serverLines, terminatedLines_of_not_mem hmem]
    rfl
  · rw [firstLine_append hmem] at h
    split at h
    · next hlong =>
      rw [serverLines, terminatedLines_append hmem,
        List.takeWhile_cons_of_neg (by simpa [maxLineLength] using hlong)]
      rfl
    · contradiction

/-! ### What a peer sends -/

/-- The reads bring a content in pieces. A read without bytes is its end, and so
is the last read. -/
inductive Brings : List ReadEvent → Bytes → Prop where
  | over : Brings [] []
  | closed {event : ReadEvent} {later : List ReadEvent} (h : event.outcome = .ok []) :
      Brings (event :: later) []
  | piece {event : ReadEvent} {later : List ReadEvent} {byte : UInt8} {bytes content : Bytes}
      (h : event.outcome = .ok (byte :: bytes)) (rest : Brings later content) :
      Brings (event :: later) (byte :: bytes ++ content)

/-- However a content is cut, reads bring it piece by piece. -/
theorem Brings.of_pieces {pieces : List Bytes} {linesNeeded wait : Nat} (h : [] ∉ pieces) :
    Brings (pieces.map fun piece => ⟨linesNeeded, wait, .ok piece⟩) pieces.flatten := by
  induction pieces with
  | nil => exact .over
  | cons piece pieces ih =>
    rw [List.mem_cons, not_or] at h
    cases piece with
    | nil => exact absurd rfl h.1
    | cons byte bytes => exact .piece rfl (ih h.2)

/-- The peer sends a content and fails nowhere: each write takes something, and
every timeout can be set. -/
structure Stream.Sends (stream : Stream) (content : Bytes) : Prop where
  reads : Brings stream.reads content
  writes : ∀ event ∈ stream.writes, ∃ n, event.outcome = .ok (n + 1)
  arms : ∀ failure ∈ stream.armFailures, failure = none

namespace Channel

/-- What has not been looked at yet is the content, and no flush fails. -/
structure Carries (c : Channel) (content : Bytes) : Prop where
  sends : ∃ later, c.stream.Sends later ∧ content = c.buffer ++ later
  flushes : ∀ event ∈ c.flushes, event.outcome = .ok ()

/-- The same of a peer that may fail to take what is written to it. -/
structure Delivers (c : Channel) (content : Bytes) : Prop where
  brings : ∃ later, Brings c.stream.reads later ∧ content = c.buffer ++ later
  arms : ∀ failure ∈ c.stream.armFailures, failure = none

/-- The peer takes what is written to it. -/
structure Accepts (c : Channel) : Prop where
  writes : ∀ event ∈ c.stream.writes, ∃ n, event.outcome = .ok (n + 1)
  flushes : ∀ event ∈ c.flushes, event.outcome = .ok ()

theorem carries_iff {c : Channel} {content : Bytes} :
    c.Carries content ↔ c.Delivers content ∧ c.Accepts := by
  constructor
  · rintro ⟨⟨later, hsends, hcontent⟩, hflushes⟩
    exact ⟨⟨⟨later, hsends.reads, hcontent⟩, hsends.arms⟩, hsends.writes, hflushes⟩
  · rintro ⟨⟨⟨later, hreads, hcontent⟩, harms⟩, hwrites, hflushes⟩
    exact ⟨⟨later, ⟨hreads, hwrites, harms⟩, hcontent⟩, hflushes⟩

/-- The peer closes only after its last read. -/
def ClosesLast (c : Channel) : Prop :=
  ∀ event ∈ c.stream.reads, event.outcome ≠ .ok []

/-- All the waits that the peer can still cause. -/
def delay (c : Channel) : Nat :=
  (c.stream.reads.map (·.wait)).sum + (c.stream.writes.map (·.wait)).sum +
    (c.flushes.map (·.wait)).sum

/-- The peer waits for nothing, and all its waits together end in time. -/
structure Prompt (c : Channel) : Prop where
  unasked : ∀ event ∈ c.stream.reads, event.linesNeeded = 0
  inTime : c.clock.nanos + c.delay < c.deadline.expiry.nanos

/-- What has become of a channel by then: time has passed, and of what the peer does
some has been done. -/
structure Later (c d : Channel) : Prop where
  deadline_eq : d.deadline = c.deadline
  clock_le : c.clock.nanos ≤ d.clock.nanos
  reads_suffix : d.stream.reads <:+ c.stream.reads
  writes_suffix : d.stream.writes <:+ c.stream.writes
  flushes_suffix : d.flushes <:+ c.flushes

/-- The ways in which something that is done on a channel with such a peer can
end. -/
inductive Ends (c : Channel) (fails : String → Prop) (gives : α → Bytes → Prop) :
    Except ProbeError α × Channel → Prop where
  /-- The time is over, which it never is with a prompt peer. -/
  | expired {d : Channel} (late : ¬ c.Prompt) :
      Ends c fails gives (.error (.timeout c.deadline.budget), d)
  | failed {reason : String} {d : Channel} (h : fails reason) :
      Ends c fails gives (.error (.protocol reason), d)
  /-- There is a result, and a content is still to come. -/
  | given {a : α} {d : Channel} {rest : Bytes} (h : gives a rest) (carries : d.Carries rest)
      (prompt : c.Prompt → d.Prompt) (deadline : d.deadline = c.deadline) :
      Ends c fails gives (.ok a, d)

/-- The ways in which reading from such a peer can end, whatever it does with what is
written. Where nothing more can come, nothing is left. -/
inductive Reads (c : Channel) (fails : String → Prop) (gives : α → Bytes → Prop) :
    Except ProbeError α × Channel → Prop where
  | expired {d : Channel} (late : ¬ c.Prompt) (passed : c.deadline.expiry.nanos ≤ d.clock.nanos) :
      Reads c fails gives (.error (.timeout c.deadline.budget), d)
  | failed {reason : String} {d : Channel} (h : fails reason)
      (nothing : .protocol reason = closedByServer → c.ClosesLast → d.Delivers []) :
      Reads c fails gives (.error (.protocol reason), d)
  | given {a : α} {d : Channel} {rest : Bytes} (h : gives a rest) (delivers : d.Delivers rest)
      (prompt : c.Prompt → d.Prompt) (later : c.Later d) : Reads c fails gives (.ok a, d)

variable {c d e : Channel} {content rest : Bytes} {fails : String → Prop}
  {gives : α → Bytes → Prop} {outcome : Except ProbeError α × Channel}

/-- What is done later on a channel is done on the channel as it was. -/
theorem Ends.of_later (h : d.Ends fails gives outcome) (hprompt : c.Prompt → d.Prompt)
    (hdeadline : d.deadline = c.deadline) : c.Ends fails gives outcome := by
  cases h with
  | expired late =>
    rw [hdeadline]
    exact .expired fun hc => late (hprompt hc)
  | failed h => exact .failed h
  | given h carries prompt deadline =>
    exact .given h carries (fun hc => prompt (hprompt hc)) (deadline.trans hdeadline)

theorem Ends.imp {fails' : String → Prop} {gives' : α → Bytes → Prop}
    (h : c.Ends fails gives outcome) (hfails : ∀ reason, fails reason → fails' reason)
    (hgives : ∀ a rest, gives a rest → gives' a rest) : c.Ends fails' gives' outcome := by
  cases h with
  | expired late => exact .expired late
  | failed h => exact .failed (hfails _ h)
  | given h carries prompt deadline => exact .given (hgives _ _ h) carries prompt deadline

theorem Accepts.later (h : c.Accepts) (hlater : c.Later d) : d.Accepts :=
  ⟨fun event hevent => h.writes event (hlater.writes_suffix.subset hevent),
    fun event hevent => h.flushes event (hlater.flushes_suffix.subset hevent)⟩

/-- With a peer that takes what is written, this is how it ends. -/
theorem Reads.ends (h : c.Reads fails gives outcome) (haccepts : c.Accepts) :
    c.Ends fails gives outcome := by
  cases h with
  | expired late => exact .expired late
  | failed h => exact .failed h
  | given h delivers prompt later =>
    exact .given h (carries_iff.2 ⟨delivers, haccepts.later later⟩) prompt later.deadline_eq

/-! ### Time passes -/

theorem Later.refl (c : Channel) : c.Later c :=
  ⟨rfl, le_rfl, List.suffix_rfl, List.suffix_rfl, List.suffix_rfl⟩

theorem Later.trans (h : c.Later d) (h' : d.Later e) : c.Later e :=
  ⟨h'.deadline_eq.trans h.deadline_eq, h.clock_le.trans h'.clock_le,
    h'.reads_suffix.trans h.reads_suffix, h'.writes_suffix.trans h.writes_suffix,
    h'.flushes_suffix.trans h.flushes_suffix⟩

theorem ClosesLast.later (h : c.ClosesLast) (hlater : c.Later d) : d.ClosesLast :=
  fun event hevent => h event (hlater.reads_suffix.subset hevent)

theorem later_arm (c : Channel) : c.Later c.arm.2 := by
  unfold arm
  split
  · exact .refl c
  · dsimp only
    split
    · exact ⟨rfl, le_rfl, List.suffix_rfl, List.suffix_rfl, List.suffix_rfl⟩
    · split <;> exact ⟨rfl, le_rfl, List.suffix_rfl, List.suffix_rfl, List.suffix_rfl⟩

theorem later_available (c : Channel) : c.Later c.available.2 := by
  unfold available
  split
  · unfold receive
    split
    · exact ⟨rfl, le_rfl, List.suffix_rfl, List.suffix_rfl, List.suffix_rfl⟩
    · next event later hreads =>
      split
      · exact ⟨rfl, Nat.le_add_right _ _, List.suffix_rfl, List.suffix_rfl, List.suffix_rfl⟩
      · exact ⟨rfl, Nat.le_add_right _ _, hreads ▸ List.suffix_cons event later, List.suffix_rfl,
          List.suffix_rfl⟩
  · exact ⟨rfl, le_rfl, List.suffix_rfl, List.suffix_rfl, List.suffix_rfl⟩

theorem later_flush (c : Channel) : c.Later c.flush.2 := by
  unfold flush
  split
  · exact .refl c
  · next event later hflushes =>
    exact ⟨rfl, Nat.le_add_right _ _, List.suffix_rfl, List.suffix_rfl,
      hflushes ▸ List.suffix_cons event later⟩

theorem later_send (c : Channel) (bytes : Bytes) : c.Later (c.send bytes).2 := by
  have hwrite : c.Later (c.write bytes).2 :=
    ⟨rfl, Nat.le_add_right _ _, List.suffix_rfl, (left_writeAll c.stream.writes bytes 0 []).1,
      List.suffix_rfl⟩
  exact send_keeps hwrite fun d _ hd => hd.trans (later_flush d)

theorem later_of_arm {armed : Channel} {result : Except ProbeError Unit}
    (harm : c.arm = (result, armed)) : c.Later armed := by
  have harmed := later_arm c
  rwa [harm] at harmed

theorem later_of_wait {armed : Channel} {result : Except IoError Bytes}
    (harm : c.arm = (.ok (), armed)) (hread : armed.available = (result, d)) : c.Later d := by
  have hnext := later_available armed
  rw [hread] at hnext
  exact (later_of_arm harm).trans hnext

/-- What is read later on a channel is read on the channel as it was. -/
theorem Reads.of_later (h : d.Reads fails gives outcome) (hprompt : c.Prompt → d.Prompt)
    (hlater : c.Later d) : c.Reads fails gives outcome := by
  cases h with
  | expired late passed =>
    rw [hlater.deadline_eq] at passed ⊢
    exact .expired (fun hc => late (hprompt hc)) passed
  | failed h nothing => exact .failed h fun hclosed hlast => nothing hclosed (hlast.later hlater)
  | given h delivers prompt later =>
    exact .given h delivers (fun hc => prompt (hprompt hc)) (hlater.trans later)

/-! ### One wait -/

@[simp] theorem deadline_available (c : Channel) : c.available.2.deadline = c.deadline :=
  (later_available c).deadline_eq

/-- Setting a timeout changes nothing of what is to come. -/
theorem arm_reads (h : c.Delivers content) :
    c.Reads (fun _ => False) (fun _ rest => rest = content) c.arm := by
  obtain ⟨hbrings, harms⟩ := h
  unfold arm
  cases hleft : c.deadline.remaining c.clock with
  | error e =>
    unfold Deadline.remaining at hleft
    split at hleft
    · next hover =>
      cases hleft
      refine .expired (fun hprompt => ?_) hover
      have := hprompt.inTime
      omega
    · contradiction
  | ok left =>
    dsimp only
    split
    · exact .given rfl ⟨hbrings, harms⟩ (fun hp => ⟨hp.unasked, hp.inTime⟩)
        ⟨rfl, le_rfl, List.suffix_rfl, List.suffix_rfl, List.suffix_rfl⟩
    · next failure others hlist =>
      have hnone : failure = none :=
        harms failure (by rw [← record_stream c (.arm left) 0, hlist]; simp)
      subst hnone
      refine .given rfl ⟨hbrings, fun f hf => ?_⟩ (fun hp => ⟨hp.unasked, hp.inTime⟩)
        ⟨rfl, le_rfl, List.suffix_rfl, List.suffix_rfl, List.suffix_rfl⟩
      exact harms f (by rw [← record_stream c (.arm left) 0, hlist]; simp [hf])

theorem arm_ends (h : c.Carries content) :
    c.Ends (fun _ => False) (fun _ rest => rest = content) c.arm :=
  (arm_reads (carries_iff.1 h).1).ends (carries_iff.1 h).2

/-- Looking for bytes brings the next ones of the content. -/
theorem delivers_available {result : Except IoError Bytes} (h : c.Delivers content)
    (hread : c.available = (result, d)) :
    match result with
    | .error e => e = wouldBlock ∧ ¬ c.Prompt ∧ c.deadline.expiry.nanos ≤ d.clock.nanos
    | .ok [] => content = [] ∧ (c.ClosesLast → d.Delivers [])
    | .ok bytes => ∃ rest, content = bytes ++ rest ∧ d.Delivers rest ∧ (c.Prompt → d.Prompt) := by
  obtain ⟨⟨later, hreads, rfl⟩, harms⟩ := h
  unfold available at hread
  cases hbuffer : c.buffer with
  | cons byte bytes =>
    rw [hbuffer] at hread
    cases hread
    exact ⟨later, rfl, ⟨⟨later, hreads, rfl⟩, harms⟩, fun hp => ⟨hp.unasked, hp.inTime⟩⟩
  | nil =>
    rw [hbuffer] at hread
    dsimp only at hread
    unfold receive at hread
    cases hevents : c.stream.reads with
    | nil =>
      rw [hevents] at hread hreads
      cases hread
      cases hreads
      exact ⟨rfl, fun _ => ⟨⟨[], hevents ▸ .over, by simp [hbuffer]⟩, harms⟩⟩
    | cons event events =>
      rw [hevents] at hread hreads
      dsimp only at hread
      split at hread
      · next hneeded =>
        -- the peer waits for a command first
        cases hread
        refine ⟨rfl, fun hprompt => ?_, ?_⟩
        · have := hprompt.unasked event (by simp [hevents])
          omega
        · simp only [record]
          omega
      · next hneeded =>
        cases hreads with
        | closed hout =>
          rw [hout] at hread
          cases hread
          exact ⟨rfl, fun hlast => absurd hout (hlast event (by simp [hevents]))⟩
        | @piece _ _ byte bytes content hout hrest =>
          rw [hout] at hread
          cases hread
          refine ⟨content, rfl, ⟨⟨content, hrest, by simp [hbuffer]⟩, harms⟩, fun hp => ⟨?_, ?_⟩⟩
          · intro e he
            exact hp.unasked e (by rw [hevents]; exact List.mem_cons_of_mem _ he)
          · have htime := hp.inTime
            simp only [delay, hevents, List.map_cons, List.sum_cons] at htime
            simp only [delay, record]
            omega

/-- A wait for bytes: setting the timeout, and then looking. -/
theorem delivers_wait {armed : Channel} {result : Except IoError Bytes} (h : c.Delivers content)
    (harm : c.arm = (.ok (), armed)) (hread : armed.available = (result, d)) :
    match result with
    | .error e => e = wouldBlock ∧ ¬ c.Prompt ∧ c.deadline.expiry.nanos ≤ d.clock.nanos
    | .ok [] => content = [] ∧ (c.ClosesLast → d.Delivers [])
    | .ok bytes => ∃ rest, content = bytes ++ rest ∧ d.Delivers rest ∧ (c.Prompt → d.Prompt) := by
  have harmed := arm_reads h
  rw [harm] at harmed
  cases harmed with
  | given hcontent delivers prompt later =>
    subst hcontent
    have hnext := delivers_available delivers hread
    rcases result with e | _ | ⟨byte, bytes⟩
    · obtain ⟨he, late, passed⟩ := hnext
      rw [later.deadline_eq] at passed
      exact ⟨he, fun hp => late (prompt hp), passed⟩
    · exact ⟨hnext.1, fun hlast => hnext.2 (hlast.later later)⟩
    · obtain ⟨rest, hcontent, hrest, hprompt⟩ := hnext
      exact ⟨rest, hcontent, hrest, fun hp => hprompt (prompt hp)⟩

/-! ### One line -/

theorem lineTooLong_ne_closedByServer : lineTooLong ≠ closedByServer := by
  decide

/-- A line is collected as it stands in the content, over as many reads as it
takes. -/
theorem collect_reads (line : Bytes) (c : Channel) :
    ∀ content, lineFeed ∉ line → line.length ≤ maxLineLength → c.Delivers content →
      c.Reads (fun reason => firstLine (line ++ content) = .error (.protocol reason))
        (fun out rest => firstLine (line ++ content) = .ok (out, rest)) (c.collect line) := by
  fun_induction collect line c with (intro content hline hfits h)
  | case1 line c e armed harm =>
    have harmed := arm_reads h
    rw [harm] at harmed
    cases harmed with
    | expired late passed => exact .expired late passed
    | failed hfalse => exact hfalse.elim
  | case2 line c armed harm e d hread =>
    obtain ⟨rfl, late, passed⟩ := delivers_wait h harm hread
    rw [(later_of_wait harm hread).deadline_eq]
    exact .expired late passed
  | case3 line c armed harm d hread =>
    obtain ⟨rfl, nothing⟩ := delivers_wait h harm hread
    refine .failed ?_ fun _ => nothing
    rw [List.append_nil, firstLine_of_not_mem hline, if_neg (by omega)]
    rfl
  | case4 line c armed harm byte bytes d hread hdrop seen hlong =>
    -- too many bytes already, wherever the line will end
    obtain ⟨rest, rfl, -⟩ := delivers_wait h harm hread
    refine .failed ?_ fun hclosed => absurd hclosed lineTooLong_ne_closedByServer
    rw [← List.append_assoc]
    exact firstLine_of_long (not_mem_append_of_dropWhile hline hdrop) hlong rest
  | case5 line c armed harm byte bytes d hread hdrop seen hshort ih =>
    -- no line feed yet, so the line goes on with the next bytes
    obtain ⟨rest, rfl, hrest, hprompt⟩ := delivers_wait h harm hread
    have hreads := ih rest (not_mem_append_of_dropWhile hline hdrop) (by omega) hrest
    rw [List.append_assoc] at hreads
    exact hreads.of_later hprompt (later_of_wait harm hread)
  | case6 line c armed harm byte bytes d hread b after hdrop out d' hlong =>
    obtain ⟨hmem, hbytes⟩ := eq_append_of_dropWhile hdrop
    obtain ⟨rest, rfl, -⟩ := delivers_wait h harm hread
    refine .failed ?_ fun hclosed => absurd hclosed lineTooLong_ne_closedByServer
    rw [hbytes, List.append_assoc, ← List.append_assoc, List.cons_append,
      firstLine_append (by simp [hline, hmem]), if_pos]
    · rfl
    · simpa [out, Nat.add_assoc] using hlong
  | case7 line c armed harm byte bytes d hread b after hdrop out d' hshort =>
    obtain ⟨hmem, hbytes⟩ := eq_append_of_dropWhile hdrop
    obtain ⟨rest, rfl, ⟨⟨later, hbrings, rfl⟩, harms⟩, hprompt⟩ := delivers_wait h harm hread
    obtain ⟨hdeadline, hclock, hreads, hwrites, hflushes⟩ := later_of_wait harm hread
    -- what stands after the line feed is kept in front of what is still to come
    have hbuffer : d.buffer = [] := by rw [← buffer_available armed, hread]
    have hdelivers : d'.Delivers (after ++ later) := ⟨⟨later, hbrings, rfl⟩, harms⟩
    refine .given ?_ hdelivers (fun hp => ⟨(hprompt hp).unasked, (hprompt hp).inTime⟩)
      ⟨hdeadline, hclock, hreads, hwrites, hflushes⟩
    rw [hbuffer, List.nil_append, hbytes, List.append_assoc, ← List.append_assoc,
      List.cons_append, firstLine_append (by simp [hline, hmem]), if_neg]
    simpa [out, Nat.add_assoc] using hshort

/-- The next line is the first line of the content. -/
theorem readLine_reads (h : c.Delivers content) :
    c.Reads (fun reason => firstLine content = .error (.protocol reason))
      (fun text rest => ∃ line, firstLine content = .ok (line, rest) ∧ text = textOf line)
      c.readLine := by
  have hreads := collect_reads [] c content (by simp) (by simp) h
  unfold readLine
  rcases hcollect : c.collect [] with ⟨e | line, d⟩
  · rw [hcollect] at hreads
    cases hreads with
    | expired late passed => exact .expired late passed
    | failed hfails nothing => exact .failed hfails nothing
  · rw [hcollect] at hreads
    cases hreads with
    | given hgives delivers prompt later =>
      exact .given ⟨line, hgives, lineText_eq_textOf line⟩ delivers prompt later

theorem readLine_ends (h : c.Carries content) :
    c.Ends (fun reason => firstLine content = .error (.protocol reason))
      (fun text rest => ∃ line, firstLine content = .ok (line, rest) ∧ text = textOf line)
      c.readLine :=
  (readLine_reads (carries_iff.1 h).1).ends (carries_iff.1 h).2

end Channel

end ServiceProbe.Imap
