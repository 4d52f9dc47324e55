import ServiceProbe.Proofs.Imap.Sent

/-!
What holds of a channel all through a conversation, and of every failure in one.
A conversation only sets timeouts, waits for bytes or for a command to be taken,
each time right after a timeout was set, and looks at what it has read. So it is
enough to know these four.
-/

namespace ServiceProbe.Imap

variable {α : Type} {holds : Channel → Prop} {explains : ProbeError → Prop}

namespace Channel

/-- A property of channels that every step of a conversation keeps, and one of
errors that every failure has. -/
structure Kept (holds : Channel → Prop) (explains : ProbeError → Prop) : Prop where
  arm : ∀ {c : Channel}, holds c → holds c.arm.2
  expired : ∀ {c : Channel} {e : ProbeError}, holds c → c.arm.1 = .error e → explains e
  /-- A look for bytes, after a timeout was set. -/
  read : ∀ {c armed : Channel}, holds c → c.arm = (.ok (), armed) → holds armed.available.2
  /-- What stands after the end of a line is kept. -/
  rest : ∀ {c : Channel} (bytes : Bytes), holds c → holds { c with buffer := bytes }
  write : ∀ {c armed : Channel} (bytes : Bytes), holds c → c.arm = (.ok (), armed) →
    holds (armed.send bytes).2
  io : ∀ (e : IoError) (budget : Duration), explains (.ofIo e budget)
  protocol : ∀ reason : String, explains (.protocol reason)

/-- The property holds after something was done, and an error has its own. -/
def Keeps (holds : Channel → Prop) (explains : ProbeError → Prop)
    (outcome : Except ProbeError α × Channel) : Prop :=
  holds outcome.2 ∧ ∀ e, outcome.1 = .error e → explains e

namespace Kept

variable {c d : Channel}

theorem arm_keeps (kept : Kept holds explains) (h : holds c) : Keeps holds explains c.arm :=
  ⟨kept.arm h, fun _ he => kept.expired h he⟩

theorem of_wait (kept : Kept holds explains) {armed : Channel} {result : Except IoError Bytes}
    (h : holds c) (harm : c.arm = (.ok (), armed)) (hread : armed.available = (result, d)) :
    holds d := by
  have hd := kept.read h harm
  rwa [hread] at hd

theorem collect_keeps (kept : Kept holds explains) (line : Bytes) (c : Channel) (h : holds c) :
    Keeps holds explains (c.collect line) := by
  fun_induction collect line c with
  | case1 line c e armed harm =>
    have harmed := kept.arm_keeps h
    rw [harm] at harmed
    exact ⟨harmed.1, fun e' he => harmed.2 e' (by simpa using he)⟩
  | case2 line c armed harm e d hread =>
    refine ⟨kept.of_wait h harm hread, fun e' he => ?_⟩
    cases he
    exact kept.io e _
  | case3 line c armed harm d hread =>
    refine ⟨kept.of_wait h harm hread, fun e' he => ?_⟩
    cases he
    exact kept.protocol _
  | case4 line c armed harm byte bytes d hread hdrop seen hlong =>
    refine ⟨kept.of_wait h harm hread, fun e' he => ?_⟩
    cases he
    exact kept.protocol _
  | case5 line c armed harm byte bytes d hread hdrop seen hshort ih =>
    exact ih (kept.of_wait h harm hread)
  | case6 line c armed harm byte bytes d hread b after hdrop out d' hlong =>
    refine ⟨kept.rest after (kept.of_wait h harm hread), fun e' he => ?_⟩
    cases he
    exact kept.protocol _
  | case7 line c armed harm byte bytes d hread b after hdrop out d' hshort =>
    exact ⟨kept.rest after (kept.of_wait h harm hread), fun e' he => by cases he⟩

theorem readLine_keeps (kept : Kept holds explains) (h : holds c) :
    Keeps holds explains c.readLine := by
  have hcollect := kept.collect_keeps [] c h
  unfold readLine
  rcases hresult : c.collect [] with ⟨e | line, d⟩ <;> rw [hresult] at hcollect
  · exact ⟨hcollect.1, fun e' he => hcollect.2 e' (by simpa using he)⟩
  · exact ⟨hcollect.1, fun e' he => by cases he⟩

theorem awaitReply_keeps (kept : Kept holds explains) (tag : List Char) (c : Channel)
    (h : holds c) : Keeps holds explains (c.awaitReply tag) := by
  fun_induction awaitReply tag c with
  | case1 c e d hline =>
    have hread := kept.readLine_keeps h
    rw [hline] at hread
    exact ⟨hread.1, fun e' he => hread.2 e' (by simpa using he)⟩
  | case2 c line d hline verdict hverdict =>
    have hread := kept.readLine_keeps h
    rw [hline] at hread
    refine ⟨hread.1, fun e he => ?_⟩
    dsimp only at he
    subst he
    -- only failures of the protocol are told from a line
    generalize Reply.ofLine tag line = reply at hverdict
    cases reply <;> cases hverdict <;> exact kept.protocol _
  | case3 c line d hline hverdict ih =>
    have hread := kept.readLine_keeps h
    rw [hline] at hread
    exact ih hread.1

end Kept

end Channel

/-! ### Sessions -/

namespace Session

/-- The property holds of the channel of the session after something was done. -/
def Keeps (holds : Channel → Prop) (explains : ProbeError → Prop)
    (outcome : Except ProbeError α × Session) : Prop :=
  Channel.Keeps holds explains (outcome.1, outcome.2.channel)

variable {s : Session}

theorem greet_keeps (kept : Channel.Kept holds explains) (h : holds s.channel) :
    Keeps holds explains s.greet := by
  have hread := kept.readLine_keeps h
  unfold greet
  rcases hline : s.channel.readLine with ⟨e | line, c⟩ <;> rw [hline] at hread
  · exact ⟨hread.1, fun e' he => hread.2 e' (by simpa using he)⟩
  · dsimp only
    split
    · exact ⟨hread.1, fun e he => by cases he⟩
    · refine ⟨hread.1, fun e he => ?_⟩
      cases he
      exact kept.protocol _

theorem command_keeps (kept : Channel.Kept holds explains) (h : holds s.channel)
    (text : String) : Keeps holds explains (s.command text) := by
  rcases s.command_cases text with ⟨e, c, harm, hcommand⟩ |
    ⟨armed, e, c, harm, hsend, hcommand⟩ | ⟨armed, c, harm, hsend, hcommand⟩ <;> rw [hcommand]
  · have harmed := kept.arm_keeps h
    rw [harm] at harmed
    exact ⟨harmed.1, fun e' he => harmed.2 e' (by simpa using he)⟩
  · have hsent := kept.write (s.commandBytes text) h harm
    rw [hsend] at hsent
    refine ⟨hsent, fun e' he => ?_⟩
    cases he
    exact kept.io e _
  · have hsent := kept.write (s.commandBytes text) h harm
    rw [hsend] at hsent
    exact kept.awaitReply_keeps _ c hsent

theorem step_keeps (kept : Channel.Kept holds explains) (name : String)
    {outcome : Except ProbeError (List Char) × Session} (h : Keeps holds explains outcome) :
    Keeps holds explains (step name outcome) := by
  rcases outcome with ⟨e | text, s⟩
  · refine ⟨h.1, fun e' he => ?_⟩
    cases he
    cases e with
    | protocol reason => exact kept.protocol _
    | _ => exact h.2 _ rfl
  · exact ⟨h.1, fun e he => by cases he⟩

end Session

/-- What every step keeps, a conversation keeps. -/
theorem converse_keeps (kept : Channel.Kept holds explains) {channel : Channel}
    (h : holds channel) (credentials : Option (String × String)) :
    Session.Keeps holds explains (converse credentials channel) := by
  have hgreet := Session.greet_keeps (s := .start channel) kept h
  unfold converse
  rcases hgreeted : (Session.start channel).greet with ⟨e | u, s⟩ <;> rw [hgreeted] at hgreet
  · exact hgreet
  · rcases credentials with _ | ⟨username, password⟩
    · exact hgreet
    · have hlogin : Session.Keeps holds explains (s.login username password) :=
        Session.step_keeps kept "login" (Session.command_keeps kept hgreet.1 _)
      dsimp only
      rcases hlogged : s.login username password with ⟨e | u, later⟩ <;> rw [hlogged] at hlogin
      · exact hlogin
      · exact Session.step_keeps kept "logout" (Session.command_keeps kept hlogin.1 _)

end ServiceProbe.Imap
