import Mathlib
import ServiceProbe.Imap.Session

/-!
What a client writes. Reading leaves what was sent as it is; only a command is
written, and it adds the bytes of its line, all of them unless the peer stops
taking them.
-/

namespace ServiceProbe.Imap

open Text

namespace Channel

variable {c d : Channel}

/-! ### Reading writes nothing -/

@[simp] theorem sent_arm (c : Channel) : c.arm.2.sent = c.sent := by
  unfold arm
  split
  · rfl
  · dsimp only
    split
    · rfl
    · split <;> rfl

@[simp] theorem sent_available (c : Channel) : c.available.2.sent = c.sent := by
  unfold available receive
  split
  · split
    · rfl
    · split <;> rfl
  · rfl

theorem sent_of_wait {armed : Channel} {result : Except IoError Bytes}
    (harm : c.arm = (.ok (), armed)) (hread : armed.available = (result, d)) :
    d.sent = c.sent := by
  have h₁ := sent_arm c
  have h₂ := sent_available armed
  rw [harm] at h₁
  rw [hread] at h₂
  exact h₂.trans h₁

@[simp] theorem sent_collect (line : Bytes) (c : Channel) :
    (c.collect line).2.sent = c.sent := by
  fun_induction collect line c with
  | case1 line c e armed harm => rw [← sent_arm c, harm]
  | case2 line c armed harm e d hread => exact sent_of_wait harm hread
  | case3 line c armed harm d hread => exact sent_of_wait harm hread
  | case4 line c armed harm byte bytes d hread => exact sent_of_wait harm hread
  | case5 line c armed harm byte bytes d hread _ _ _ ih =>
    exact ih.trans (sent_of_wait harm hread)
  | case6 line c armed harm byte bytes d hread _ _ _ _ d' =>
    show d.sent = c.sent
    exact sent_of_wait harm hread
  | case7 line c armed harm byte bytes d hread _ _ _ _ d' =>
    show d.sent = c.sent
    exact sent_of_wait harm hread

@[simp] theorem sent_readLine (c : Channel) : c.readLine.2.sent = c.sent := by
  have h := sent_collect [] c
  unfold readLine
  rcases hcollect : c.collect [] with ⟨_ | line, d⟩ <;> rw [hcollect] at h <;> exact h

@[simp] theorem sent_awaitReply (tag : List Char) (c : Channel) :
    (c.awaitReply tag).2.sent = c.sent := by
  fun_induction awaitReply tag c with
  | case1 c e d hline => rw [← sent_readLine c, hline]
  | case2 c line d hline verdict hverdict => rw [← sent_readLine c, hline]
  | case3 c line d hline hverdict ih => rw [ih, ← sent_readLine c, hline]

/-! ### Writing -/

/-- The peer takes bytes from the front, and all of them if nothing fails. -/
theorem taken_writeAll (events : List WriteEvent) (bytes : Bytes) (wait : Nat) (before : Bytes) :
    ∃ part, part <+: bytes ∧ (writeAll events bytes wait before).2.2.1 = before ++ part ∧
      ((writeAll events bytes wait before).1 = .ok () → part = bytes) := by
  fun_induction writeAll events bytes wait before with
  | case1 events wait before => exact ⟨[], List.prefix_rfl, by simp, fun _ => rfl⟩
  | case2 bytes wait before hbytes => exact ⟨bytes, List.prefix_rfl, rfl, fun _ => rfl⟩
  | case3 event events byte bytes wait before e hout hkind ih =>
    -- interrupted, and tried again with the same bytes
    exact ih
  | case4 event events byte bytes wait before e hout hkind =>
    exact ⟨[], List.nil_prefix, by simp, fun h => by simp at h⟩
  | case5 event events byte bytes wait before hout =>
    exact ⟨[], List.nil_prefix, by simp, fun h => by simp at h⟩
  | case6 event events byte bytes wait before n hout ih =>
    obtain ⟨part, hprefix, htaken, hall⟩ := ih
    refine ⟨byte :: bytes.take n ++ part, ?_, by simp [htaken], fun h => ?_⟩
    · obtain ⟨missing, hmissing⟩ := hprefix
      exact ⟨missing, by simp [hmissing]⟩
    · simp [hall h]

/-- What is left of the peer's behaviour is an end of what it was, and what is
gone has been waited for. -/
theorem left_writeAll (events : List WriteEvent) (bytes : Bytes) (wait : Nat) (before : Bytes) :
    (writeAll events bytes wait before).2.2.2 <:+ events ∧
      (writeAll events bytes wait before).2.1 +
          ((writeAll events bytes wait before).2.2.2.map (·.wait)).sum =
        wait + (events.map (·.wait)).sum := by
  fun_induction writeAll events bytes wait before with
  | case1 events wait before => exact ⟨List.suffix_rfl, rfl⟩
  | case2 bytes wait before hbytes => exact ⟨List.suffix_rfl, rfl⟩
  | case3 event events byte bytes wait before e hout hkind ih =>
    exact ⟨ih.1.trans (List.suffix_cons _ _), by simp [ih.2, Nat.add_assoc]⟩
  | case4 event events byte bytes wait before e hout hkind =>
    exact ⟨List.suffix_cons _ _, by simp [Nat.add_assoc]⟩
  | case5 event events byte bytes wait before hout =>
    exact ⟨List.suffix_cons _ _, by simp [Nat.add_assoc]⟩
  | case6 event events byte bytes wait before n hout ih =>
    exact ⟨ih.1.trans (List.suffix_cons _ _), by simp [ih.2, Nat.add_assoc]⟩

/-- A peer that takes something each time takes it all. -/
theorem writeAll_ok {events : List WriteEvent}
    (h : ∀ event ∈ events, ∃ n, event.outcome = .ok (n + 1)) (bytes : Bytes) (wait : Nat)
    (before : Bytes) : (writeAll events bytes wait before).1 = .ok () := by
  fun_induction writeAll events bytes wait before with
  | case1 => rfl
  | case2 => rfl
  | case3 event events byte bytes wait before e hout =>
    obtain ⟨n, hn⟩ := h event (by simp)
    simp [hout] at hn
  | case4 event events byte bytes wait before e hout =>
    obtain ⟨n, hn⟩ := h event (by simp)
    simp [hout] at hn
  | case5 event events byte bytes wait before hout =>
    obtain ⟨n, hn⟩ := h event (by simp)
    simp [hout] at hn
  | case6 event events byte bytes wait before n hout ih =>
    exact ih fun e he => h e (List.mem_cons_of_mem _ he)

/-- How sending a command ends: the bytes are not all taken, or they are and the
flush decides. -/
theorem send_cases (c : Channel) (bytes : Bytes) :
    (∃ e d, c.write bytes = (.error e, d) ∧ c.send bytes = (.error e, d)) ∨
      ∃ d, c.write bytes = (.ok (), d) ∧ c.send bytes = d.flush := by
  unfold send
  rcases c.write bytes with ⟨e | u, d⟩
  · exact .inl ⟨e, d, rfl, rfl⟩
  · exact .inr ⟨d, rfl, rfl⟩

/-- What holds after the write, and after a flush that follows it, holds after the
whole command. -/
theorem send_keeps {P : Channel → Prop} {c : Channel} {bytes : Bytes}
    (hwrite : P (c.write bytes).2)
    (hflush : ∀ d, c.write bytes = (.ok (), d) → P d → P d.flush.2) :
    P (c.send bytes).2 := by
  rcases c.send_cases bytes with ⟨e, d, hresult, hsend⟩ | ⟨d, hresult, hsend⟩ <;>
    rw [hresult] at hwrite <;> rw [hsend]
  · exact hwrite
  · exact hflush d hresult hwrite

@[simp] theorem sent_flush (c : Channel) : c.flush.2.sent = c.sent := by
  unfold flush
  split <;> rfl

/-- What is sent grows by bytes from the front of the given ones. -/
theorem sent_write (c : Channel) (bytes : Bytes) :
    ∃ part, part <+: bytes ∧ (c.write bytes).2.sent = c.sent ++ part ∧
      ((c.write bytes).1 = .ok () → part = bytes) := by
  obtain ⟨part, hprefix, htaken, hall⟩ := taken_writeAll c.stream.writes bytes 0 []
  exact ⟨part, hprefix, by rw [← List.nil_append part, ← htaken]; rfl, hall⟩

/-- The flush adds nothing to it. -/
theorem sent_send (c : Channel) (bytes : Bytes) :
    ∃ part, part <+: bytes ∧ (c.send bytes).2.sent = c.sent ++ part ∧
      ((c.write bytes).1 = .ok () → part = bytes) := by
  obtain ⟨part, hprefix, hsent, hall⟩ := c.sent_write bytes
  exact ⟨part, hprefix, send_keeps (P := fun d => d.sent = c.sent ++ part) hsent
    fun d _ hd => (sent_flush d).trans hd, hall⟩

theorem write_of_send {c : Channel} {bytes : Bytes} (h : (c.send bytes).1 = .ok ()) :
    (c.write bytes).1 = .ok () := by
  rcases c.send_cases bytes with ⟨e, d, -, hsend⟩ | ⟨d, hwrite, -⟩
  · rw [hsend] at h
    contradiction
  · rw [hwrite]

/-- A timeout can be set and the peer takes all the bytes. -/
def Takes (c : Channel) (bytes : Bytes) : Prop :=
  c.arm.1 = .ok () ∧ (c.arm.2.write bytes).1 = .ok ()

end Channel

/-! ### Commands -/

namespace Session

variable (s : Session)

@[simp] theorem sent_greet : s.greet.2.channel.sent = s.channel.sent := by
  have h := s.channel.sent_readLine
  unfold greet
  rcases hline : s.channel.readLine with ⟨_ | line, c⟩ <;> rw [hline] at h
  · exact h
  · dsimp only
    split <;> exact h

@[simp] theorem nextTag_greet : s.greet.2.nextTag = s.nextTag := by
  unfold greet
  split
  · rfl
  · split <;> rfl

@[simp] theorem nextTag_command (text : String) :
    (s.command text).2.nextTag = s.nextTag + 1 := by
  unfold command
  dsimp only
  split
  · rfl
  · split <;> rfl

@[simp] theorem step_snd (name : String) (outcome : Except ProbeError (List Char) × Session) :
    (step name outcome).2 = outcome.2 := by
  rcases outcome with ⟨_ | _, _⟩ <;> rfl

theorem isOk_of_step_eq_ok {name : String} {outcome : Except ProbeError (List Char) × Session}
    (h : (step name outcome).1 = .ok ()) : outcome.1.isOk := by
  rcases outcome with ⟨e | text, s⟩
  · simp [step] at h
  · rfl

/-- The line of a command, as bytes. -/
def commandBytes (text : String) : Bytes :=
  encode (commandText (tagText s.nextTag) text).toList

theorem commandBytes_login {s : Session} (hfirst : s.nextTag = 1) (username password : String) :
    s.commandBytes (loginText username password) =
      encode ("a1 LOGIN " ++ quote username ++ " " ++ quote password ++ "\r\n").toList := by
  have htag : tagText s.nextTag = "a1" := by rw [hfirst]; rfl
  have hspace : "a1 LOGIN " = "a1" ++ " " ++ "LOGIN " := rfl
  rw [commandBytes, commandText, loginText, htag, hspace]
  simp only [String.append_assoc]

theorem commandBytes_logout {s : Session} (hsecond : s.nextTag = 2) :
    s.commandBytes "LOGOUT" = encode "a2 LOGOUT\r\n".toList := by
  rw [commandBytes, hsecond]
  rfl

/-- The session after a command that left the channel so. -/
def after (c : Channel) : Session := { s with channel := c, nextTag := s.nextTag + 1 }

/-- What a command does: it stops where no timeout can be set or the line cannot
be sent, or else waits for the reply. -/
theorem command_cases (text : String) :
    (∃ e c, s.channel.arm = (.error e, c) ∧ s.command text = (.error e, s.after c)) ∨
    (∃ armed e c, s.channel.arm = (.ok (), armed) ∧
      armed.send (s.commandBytes text) = (.error e, c) ∧
      s.command text = (.error (.ofIo e c.deadline.budget), s.after c)) ∨
    ∃ armed c, s.channel.arm = (.ok (), armed) ∧
      armed.send (s.commandBytes text) = (.ok (), c) ∧
      s.command text = ((c.awaitReply (tagText s.nextTag).toList).1,
        s.after (c.awaitReply (tagText s.nextTag).toList).2) := by
  unfold command
  rcases harm : s.channel.arm with ⟨e | u, armed⟩
  · exact .inl ⟨e, armed, rfl, rfl⟩
  · dsimp only
    rcases hsend : armed.send (s.commandBytes text) with ⟨e | u, c⟩
    · rw [commandBytes] at hsend
      rw [hsend]
      exact .inr (.inl ⟨armed, e, c, rfl, hsend, rfl⟩)
    · rw [commandBytes] at hsend
      rw [hsend]
      exact .inr (.inr ⟨armed, c, rfl, hsend, rfl⟩)

/-- A command writes bytes from the front of its line, all of them if the channel
takes them. -/
theorem sent_command (text : String) :
    ∃ part, part <+: s.commandBytes text ∧
      (s.command text).2.channel.sent = s.channel.sent ++ part ∧
      (s.channel.Takes (s.commandBytes text) → part = s.commandBytes text) := by
  have harmed := s.channel.sent_arm
  rcases s.command_cases text with ⟨e, c, harm, hcommand⟩ |
    ⟨armed, e, c, harm, hsend, hcommand⟩ | ⟨armed, c, harm, hsend, hcommand⟩ <;>
    rw [harm] at harmed <;> rw [hcommand, Channel.Takes, harm]
  · -- no timeout can be set, so nothing is sent
    exact ⟨[], List.nil_prefix, by simpa [after] using harmed, fun h => by simp at h⟩
  · obtain ⟨part, hprefix, hsent, hall⟩ := armed.sent_send (s.commandBytes text)
    rw [hsend, harmed] at hsent
    exact ⟨part, hprefix, hsent, fun h => hall h.2⟩
  · obtain ⟨part, hprefix, hsent, hall⟩ := armed.sent_send (s.commandBytes text)
    rw [hsend, harmed] at hsent
    exact ⟨part, hprefix, (Channel.sent_awaitReply _ c).trans hsent, fun h => hall h.2⟩

/-- Only a line that was taken is answered. -/
theorem takes_of_command_isOk {s : Session} {text : String} (h : (s.command text).1.isOk) :
    s.channel.Takes (s.commandBytes text) := by
  rcases s.command_cases text with ⟨e, c, harm, hcommand⟩ |
    ⟨armed, e, c, harm, hsend, hcommand⟩ | ⟨armed, c, harm, hsend, hcommand⟩ <;>
    rw [hcommand] at h
  · contradiction
  · contradiction
  · rw [Channel.Takes, harm]
    exact ⟨rfl, Channel.write_of_send (congrArg Prod.fst hsend)⟩

end Session

end ServiceProbe.Imap
