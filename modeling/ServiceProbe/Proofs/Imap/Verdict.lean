import ServiceProbe.Proofs.Imap.Lines

/-!
When a conversation passes, and what it writes. Both are told from the lines of
the server alone: the first has to be a greeting, and after it each command is
decided by the first line that answers it. A command is sent only when the one
before it has succeeded.
-/

namespace ServiceProbe.Imap

open Text

/-! ### Told from the lines -/

/-- The line answers the command with the tag: it begins with the tag and a
space, or it asks for a continuation. -/
def answers (tag line : List Char) : Bool :=
  (tag ++ [' ']).isPrefixOf line || line.head? == some '+'

/-- The line begins with the tag and a space, and the word after them is OK, in
capital letters or small ones. -/
def reportsSuccess (tag line : List Char) : Bool :=
  (tag ++ [' ']).isPrefixOf line &&
    ((line.drop (tag.length + 1)).takeWhile (· != ' ')).map Char.toUpper == "OK".toList

/-- The lines after the greeting, if the first line is one. -/
def afterGreeting? : List (List Char) → Option (List (List Char))
  | [] => none
  | line :: later =>
    if "* OK".toList.isPrefixOf line || "* PREAUTH".toList.isPrefixOf line then some later
    else none

/-- The lines after the first one that answers the command, if that one reports
success. -/
def afterSuccess? (tag : List Char) (lines : List (List Char)) : Option (List (List Char)) :=
  match lines.dropWhile (!answers tag ·) with
  | [] => none
  | line :: later => if reportsSuccess tag line then some later else none

/-- Whether a server that sends the lines passes: it has to greet and, with
credentials, to report success for the login and then for the logout. -/
def passes (credentials : Option (String × String)) (lines : List (List Char)) : Bool :=
  match afterGreeting? lines, credentials with
  | none, _ => false
  | some _, none => true
  | some later, some _ =>
    ((afterSuccess? "a1".toList later).bind (afterSuccess? "a2".toList)).isSome

/-- What is written to a server that sends the lines. -/
def dialogue (credentials : Option (String × String)) (lines : List (List Char)) : String :=
  match afterGreeting? lines, credentials with
  | none, _ => ""
  | some _, none => ""
  | some later, some (username, password) =>
    let login := "a1 LOGIN " ++ quote username ++ " " ++ quote password ++ "\r\n"
    if (afterSuccess? "a1".toList later).isSome then login ++ "a2 LOGOUT\r\n" else login

/-! ### Replies -/

theorem verdict?_of_not_answers {tag line : List Char} (h : answers tag line = false) :
    (Reply.ofLine tag line).verdict? line = none := by
  rw [answers, Bool.or_eq_false_iff] at h
  have hplus : line.head? ≠ some '+' := by simpa using h.2
  rw [Reply.ofLine, if_neg (by simp [h.1]), if_neg hplus]
  rfl

/-- The first line that answers a command ends it. -/
theorem verdict?_of_answers {tag line : List Char} (h : answers tag line = true) :
    (reportsSuccess tag line = true ∧
      ∃ text, (Reply.ofLine tag line).verdict? line = some (.ok text)) ∨
    (reportsSuccess tag line = false ∧
      ∃ reason, (Reply.ofLine tag line).verdict? line = some (.error (.protocol reason))) := by
  unfold Reply.ofLine reportsSuccess
  by_cases htag : (tag ++ [' ']).isPrefixOf line = true
  · rw [if_pos htag, htag, Bool.true_and]
    dsimp only [splitStatus]
    generalize ((line.drop (tag.length + 1)).takeWhile (· != ' ')).map Char.toUpper = word
    have hword (s : String) (hs : String.ofList word = s) : word = s.toList := by
      rw [← hs, String.toList_ofList]
    split
    · next hok => exact .inl ⟨by simp [hword _ hok], _, rfl⟩
    · next hno => exact .inr ⟨by rw [hword _ hno]; rfl, _, rfl⟩
    · next hbad => exact .inr ⟨by rw [hword _ hbad]; rfl, _, rfl⟩
    · next hother _ _ =>
      refine .inr ⟨?_, _, rfl⟩
      rw [beq_eq_false_iff_ne]
      rintro rfl
      exact hother rfl
  · rw [answers, Bool.or_eq_true, beq_iff_eq] at h
    have hplus : line.head? = some '+' := h.resolve_left htag
    rw [if_neg htag, if_pos hplus]
    exact .inr ⟨by simp [htag], _, rfl⟩

theorem afterSuccess?_cons_of_not_answers {tag line : List Char} (h : answers tag line = false)
    (later : List (List Char)) : afterSuccess? tag (line :: later) = afterSuccess? tag later := by
  rw [afterSuccess?, List.dropWhile_cons_of_pos (by simp [h]), afterSuccess?]

theorem afterSuccess?_cons_of_answers {tag line : List Char} (h : answers tag line = true)
    (later : List (List Char)) :
    afterSuccess? tag (line :: later) = if reportsSuccess tag line then some later else none := by
  rw [afterSuccess?, List.dropWhile_cons_of_neg (by simp [h])]

/-! ### The conversation -/

namespace Channel

variable {c : Channel} {content : Bytes}

/-- The next line is the first one of the server. -/
theorem readLine_serverLines (h : c.Carries content) :
    c.Ends (fun _ => serverLines content = [])
      (fun line rest => serverLines content = line :: serverLines rest) c.readLine := by
  refine (readLine_ends h).imp (fun reason hfails => serverLines_of_firstLine_error hfails) ?_
  rintro line rest ⟨bytes, hfirst, rfl⟩
  exact serverLines_of_firstLine hfirst

/-- The lines that do not answer are passed over. -/
theorem awaitReply_ends (tag : List Char) (c : Channel) :
    ∀ content, c.Carries content →
      c.Ends (fun _ => afterSuccess? tag (serverLines content) = none)
        (fun _ rest => afterSuccess? tag (serverLines content) = some (serverLines rest))
        (c.awaitReply tag) := by
  fun_induction awaitReply tag c with
    (intro content h
     have hends := readLine_serverLines h)
  | case1 c e d hline =>
    rw [hline] at hends
    cases hends with
    | expired late => exact .expired late
    | failed hnone => exact .failed (by rw [hnone]; rfl)
  | case2 c line d hline verdict hverdict =>
    rw [hline] at hends
    cases hends with
    | given hlines carries prompt deadline =>
      rw [hlines]
      -- a line that ends the command is one that answers it
      cases hanswers : answers tag line with
      | false => simp [verdict?_of_not_answers hanswers] at hverdict
      | true =>
        rw [afterSuccess?_cons_of_answers hanswers]
        rcases verdict?_of_answers hanswers with ⟨hsuccess, text, hok⟩ | ⟨hsuccess, reason, herror⟩
        · rw [hok] at hverdict
          cases hverdict
          exact .given (by rw [hsuccess, if_pos rfl]) carries prompt deadline
        · rw [herror] at hverdict
          cases hverdict
          exact .failed (by rw [hsuccess]; rfl)
  | case3 c line d hline hverdict ih =>
    rw [hline] at hends
    cases hends with
    | given hlines carries prompt deadline =>
      rw [hlines]
      cases hanswers : answers tag line with
      | false =>
        rw [afterSuccess?_cons_of_not_answers hanswers]
        exact (ih _ carries).of_later prompt deadline
      | true =>
        rcases verdict?_of_answers hanswers with ⟨-, text, hok⟩ | ⟨-, reason, herror⟩
        · simp [hok] at hverdict
        · simp [herror] at hverdict

theorem delay_write (c : Channel) (bytes : Bytes) :
    (c.write bytes).2.clock.nanos + (c.write bytes).2.delay = c.clock.nanos + c.delay := by
  have htime := (left_writeAll c.stream.writes bytes 0 []).2
  show c.clock.nanos + (writeAll c.stream.writes bytes 0 []).2.1 +
    ((c.stream.reads.map (·.wait)).sum +
      ((writeAll c.stream.writes bytes 0 []).2.2.2.map (·.wait)).sum +
      (c.flushes.map (·.wait)).sum) = _
  rw [delay]
  omega

theorem delay_flush (c : Channel) :
    c.flush.2.clock.nanos + c.flush.2.delay = c.clock.nanos + c.delay := by
  unfold flush
  split
  · rfl
  · next event later hflushes =>
    simp only [prolong, delay, hflushes, List.map_cons, List.sum_cons]
    omega

/-- What a command waits for is no longer to come. -/
theorem delay_send (c : Channel) (bytes : Bytes) :
    (c.send bytes).2.clock.nanos + (c.send bytes).2.delay = c.clock.nanos + c.delay :=
  send_keeps (P := fun d => d.clock.nanos + d.delay = c.clock.nanos + c.delay)
    (c.delay_write bytes) fun d _ hd => (delay_flush d).trans hd

/-! Sending takes nothing from what the peer sends. -/

theorem Delivers.flush (h : c.Delivers content) : c.flush.2.Delivers content := by
  unfold Channel.flush
  split
  · exact h
  · exact ⟨h.brings, h.arms⟩

theorem Delivers.send (h : c.Delivers content) (bytes : Bytes) :
    (c.send bytes).2.Delivers content :=
  send_keeps (P := (·.Delivers content)) ⟨h.brings, h.arms⟩ fun _ _ hd => hd.flush

theorem Prompt.send (h : c.Prompt) (bytes : Bytes) : (c.send bytes).2.Prompt where
  unasked event hevent := h.unasked event ((c.later_send bytes).reads_suffix.subset hevent)
  inTime := by
    rw [delay_send, (c.later_send bytes).deadline_eq]
    exact h.inTime

theorem flush_ok (h : ∀ event ∈ c.flushes, event.outcome = .ok ()) : c.flush.1 = .ok () := by
  unfold flush
  split
  · rfl
  · next event later hflushes => exact h event (by simp [hflushes])

theorem send_ok (h : c.Accepts) (bytes : Bytes) : (c.send bytes).1 = .ok () := by
  have hwrite : (c.write bytes).1 = .ok () := writeAll_ok h.writes bytes 0 []
  have hflushes : ∀ event ∈ (c.write bytes).2.flushes, event.outcome = .ok () := h.flushes
  rcases c.send_cases bytes with ⟨e, d, hresult, hsend⟩ | ⟨d, hresult, hsend⟩ <;>
    rw [hresult] at hwrite hflushes
  · contradiction
  · rw [hsend]
    exact flush_ok hflushes

/-- A command line is sent whole. -/
theorem send_of_carries (h : c.Carries content) (bytes : Bytes) :
    ∃ d, c.send bytes = (.ok (), d) ∧ d.Carries content ∧ (c.Prompt → d.Prompt) ∧
      d.deadline = c.deadline ∧ d.sent = c.sent ++ bytes := by
  obtain ⟨hdelivers, haccepts⟩ := carries_iff.1 h
  have hok := send_ok haccepts bytes
  have hlater := c.later_send bytes
  obtain ⟨part, -, hsent, hall⟩ := c.sent_send bytes
  rw [hall (write_of_send hok)] at hsent
  have hcarries := carries_iff.2 ⟨hdelivers.send bytes, haccepts.later hlater⟩
  exact ⟨(c.send bytes).2, by rw [← hok], hcarries, fun hp => hp.send bytes, hlater.deadline_eq,
    hsent⟩

end Channel

namespace Session

variable {s : Session} {content : Bytes}

/-- The session waits for the greeting and writes nothing. -/
theorem greet_ends (h : s.channel.Carries content) :
    s.channel.Ends (fun _ => afterGreeting? (serverLines content) = none)
      (fun _ rest => afterGreeting? (serverLines content) = some (serverLines rest))
      (s.greet.1, s.greet.2.channel) := by
  have hends := Channel.readLine_serverLines h
  unfold greet
  rcases hline : s.channel.readLine with ⟨e | line, c⟩ <;> rw [hline] at hends
  · cases hends with
    | expired late => exact .expired late
    | failed hnone => exact .failed (by rw [hnone]; rfl)
  · cases hends with
    | given hlines carries prompt deadline =>
      dsimp only
      split
      · next hgreeting =>
        exact .given (by rw [hlines]; exact if_pos hgreeting) carries prompt deadline
      · next hgreeting => exact .failed (by rw [hlines]; exact if_neg hgreeting)

/-- A step of the session sends the line of its command, if there is time, and
waits for the answer. -/
theorem step_ends (name text : String) (h : s.channel.Carries content) :
    let tag := (tagText s.nextTag).toList
    let outcome := step name (s.command text)
    s.channel.Ends (fun _ => afterSuccess? tag (serverLines content) = none)
        (fun _ rest => afterSuccess? tag (serverLines content) = some (serverLines rest))
        (outcome.1, outcome.2.channel) ∧
      (outcome.1 = .error (.timeout s.channel.deadline.budget) ∨
        outcome.2.channel.sent = s.channel.sent ++ s.commandBytes text) := by
  intro tag outcome
  have harmed := Channel.arm_ends h
  have hunsent := s.channel.sent_arm
  rcases s.command_cases text with ⟨e, c, harm, hcommand⟩ |
    ⟨armed, e, c, harm, hsend, hcommand⟩ | ⟨armed, c, harm, hsend, hcommand⟩ <;>
    rw [harm] at harmed hunsent <;>
    rw [show outcome = _ from congrArg (step name) hcommand]
  · cases harmed with
    | expired late => exact ⟨.expired late, .inl rfl⟩
    | failed hfalse => exact hfalse.elim
  · cases harmed with
    | given hcontent carries prompt deadline =>
      -- such a peer takes every line
      obtain ⟨d, hsent, -⟩ := Channel.send_of_carries carries (s.commandBytes text)
      rw [hsend] at hsent
      cases hsent
  · cases harmed with
    | given hcontent carries prompt deadline =>
      subst hcontent
      obtain ⟨d, hsent, hcarries, hprompt, hdeadline, hbytes⟩ :=
        Channel.send_of_carries carries (s.commandBytes text)
      rw [hsend] at hsent
      cases hsent
      have hreply := (Channel.awaitReply_ends tag c _ hcarries).of_later
        (fun hp => hprompt (prompt hp)) (hdeadline.trans deadline)
      have hunread := c.sent_awaitReply tag
      rw [hbytes, hunsent] at hunread
      rw [step_snd]
      refine ⟨?_, .inr hunread⟩
      rcases hawait : c.awaitReply tag with ⟨e | reply, d⟩ <;> rw [hawait] at hreply
      · cases hreply with
        | expired late => exact .expired late
        | failed hnone => exact .failed hnone
      · cases hreply with
        | given hsome carries prompt deadline => exact .given hsome carries prompt deadline

end Session

/-! ### The whole conversation -/

/-- The ways in which a conversation from a channel on can end: its time is
over, or it comes to a verdict and has written the given bytes. -/
inductive Channel.Settles (c : Channel) : (passed : Bool) → (written : Bytes) →
    Except ProbeError Unit × Session → Prop where
  | expired {passed : Bool} {written : Bytes} {s : Session} (late : ¬ c.Prompt) :
      Settles c passed written (.error (.timeout c.deadline.budget), s)
  | failed {written : Bytes} {reason : String} {s : Session}
      (sent : s.channel.sent = c.sent ++ written) :
      Settles c false written (.error (.protocol reason), s)
  | passed {written : Bytes} {s : Session} (sent : s.channel.sent = c.sent ++ written) :
      Settles c true written (.ok (), s)

theorem Channel.Settles.of_later {c d : Channel} {passed : Bool} {written before : Bytes}
    {outcome : Except ProbeError Unit × Session} (h : d.Settles passed written outcome)
    (hprompt : c.Prompt → d.Prompt) (hdeadline : d.deadline = c.deadline)
    (hsent : d.sent = c.sent ++ before) : c.Settles passed (before ++ written) outcome := by
  cases h with
  | expired late =>
    rw [hdeadline]
    exact .expired fun hc => late (hprompt hc)
  | failed sent => exact .failed (by rw [sent, hsent, List.append_assoc])
  | passed sent => exact .passed (by rw [sent, hsent, List.append_assoc])

namespace Session

variable {s : Session} {content : Bytes}

theorem logout_settles (h : s.channel.Carries content) (htag : s.nextTag = 2) :
    s.channel.Settles (afterSuccess? "a2".toList (serverLines content)).isSome
      (encode "a2 LOGOUT\r\n".toList) s.logout := by
  obtain ⟨hends, hsent⟩ := step_ends "logout" "LOGOUT" h
  rw [htag, ← logout] at hends
  rw [commandBytes_logout htag, ← logout] at hsent
  rcases hlogout : s.logout with ⟨e | u, later⟩ <;> rw [hlogout] at hends hsent
  · cases hends with
    | expired late => exact .expired late
    | failed hnone =>
      change afterSuccess? "a2".toList (serverLines content) = none at hnone
      rw [hnone]
      exact .failed (hsent.resolve_left (by simp))
  · cases hends with
    | given hsome =>
      change afterSuccess? "a2".toList (serverLines content) = _ at hsome
      rw [hsome]
      exact .passed (hsent.resolve_left (by simp))

/-- A login, and a logout if the login succeeds. -/
theorem login_logout_settles (h : s.channel.Carries content) (htag : s.nextTag = 1)
    (username password : String) :
    let afterLogin := afterSuccess? "a1".toList (serverLines content)
    let login := "a1 LOGIN " ++ quote username ++ " " ++ quote password ++ "\r\n"
    s.channel.Settles (afterLogin.bind (afterSuccess? "a2".toList)).isSome
      (encode (if afterLogin.isSome then login ++ "a2 LOGOUT\r\n" else login).toList)
      (match s.login username password with
      | (.error e, later) => (.error e, later)
      | (.ok (), later) => later.logout) := by
  intro afterLogin login
  obtain ⟨hends, hsent⟩ := step_ends "login" (loginText username password) h
  have hnext := s.nextTag_command (loginText username password)
  rw [htag, ← Session.login] at hends
  rw [commandBytes_login htag, ← Session.login] at hsent
  rw [← step_snd "login", ← Session.login, htag] at hnext
  rcases hlogin : s.login username password with ⟨e | u, later⟩ <;> rw [hlogin] at hends hsent hnext
  · cases hends with
    | expired late => exact .expired late
    | failed hnone =>
      change afterLogin = none at hnone
      rw [hnone]
      exact .failed (hsent.resolve_left (by simp))
  · cases hends with
    | given hsome carries prompt hdeadline =>
      change afterLogin = _ at hsome
      rw [hsome]
      have hsettles := (logout_settles carries hnext).of_later prompt hdeadline
        (hsent.resolve_left (by simp))
      rw [← encode_append, ← String.toList_append] at hsettles
      exact hsettles

end Session

theorem converse_settles {channel : Channel} {content : Bytes} (h : channel.Carries content)
    (credentials : Option (String × String)) :
    let lines := serverLines content
    channel.Settles (passes credentials lines) (encode (dialogue credentials lines).toList)
      (converse credentials channel) := by
  intro lines
  have hends := Session.greet_ends (s := .start channel) h
  have hunsent : (Session.start channel).greet.2.channel.sent = channel.sent ++ [] := by
    rw [Session.sent_greet, List.append_nil]
    rfl
  have htag := (Session.start channel).nextTag_greet
  unfold converse passes dialogue
  rcases hgreet : (Session.start channel).greet with ⟨e | u, s⟩ <;>
    rw [hgreet] at hends hunsent htag
  · cases hends with
    | expired late => exact .expired late
    | failed hnone =>
      change afterGreeting? lines = none at hnone
      rw [hnone]
      exact .failed hunsent
  · cases hends with
    | given hsome carries prompt hdeadline =>
      change afterGreeting? lines = _ at hsome
      rw [hsome]
      rcases credentials with _ | ⟨username, password⟩
      · exact .passed hunsent
      · have hsettles := Session.login_logout_settles carries htag username password
        exact hsettles.of_later prompt hdeadline hunsent

/-- The verdict and the writes depend on the lines of the server alone, and not on
how they are cut into reads. They are given by `passes` and by `dialogue`, unless
the time is over, which it never is when the peer is prompt. -/
theorem converse_verdict {stream : Stream} {content : Bytes} (h : stream.Sends content)
    {flushes : List FlushEvent} (hflushes : ∀ event ∈ flushes, event.outcome = .ok ())
    (credentials : Option (String × String)) (deadline : Deadline) (now : Instant) :
    let channel := { Channel.ofStream stream deadline now with flushes }
    let lines := serverLines content
    let outcome := converse credentials channel
    (channel.Prompt → outcome.1 ≠ .error (.timeout deadline.budget)) ∧
      (outcome.1 ≠ .error (.timeout deadline.budget) →
        (outcome.1 = .ok () ↔ passes credentials lines = true) ∧
        outcome.2.channel.sent = encode (dialogue credentials lines).toList) := by
  intro channel lines outcome
  have hsettles : channel.Settles (passes credentials lines) _ outcome :=
    converse_settles ⟨⟨content, h, rfl⟩, hflushes⟩ credentials
  generalize passes credentials lines = passed, outcome = result at hsettles ⊢
  cases hsettles with
  | expired late => exact ⟨fun hprompt => absurd hprompt late, fun hne => absurd rfl hne⟩
  | failed sent => exact ⟨fun _ => by simp, fun _ => ⟨by simp, sent⟩⟩
  | passed sent => exact ⟨fun _ => by simp, fun _ => ⟨by simp, sent⟩⟩

/-- A line end that falls between two reads, an answer in small letters and a
peer that takes three bytes at first and is slow to flush them. -/
theorem converse_verdict_of_pieces :
    let pieces := ["* OK hi\r", "\n* a1 NO\r\na1 o", "k\r\na2 OK", " bye\n"].map
      fun s : String => encode s.toList
    let stream : Stream := ⟨pieces.map fun piece => ⟨0, 0, .ok piece⟩, [⟨2, .ok 3⟩], [none]⟩
    let flushes : List FlushEvent := [⟨1, .ok ()⟩]
    let channel := { Channel.ofStream stream ⟨⟨5⟩, ⟨5⟩⟩ ⟨0⟩ with flushes }
    let outcome := converse (some ("u\\", "\"")) channel
    stream.Sends pieces.flatten ∧
      channel.Prompt ∧
      outcome.1 ≠ .error (.timeout ⟨5⟩) ∧
      outcome.1 = .ok () ∧
      outcome.2.channel.sent =
        encode "a1 LOGIN \"u\\\\\" \"\\\"\"\r\na2 LOGOUT\r\n".toList := by
  intro pieces stream flushes channel outcome
  have hsends : stream.Sends pieces.flatten :=
    ⟨.of_pieces (by decide), by simp [stream], by simp [stream]⟩
  have hprompt : channel.Prompt := ⟨by simp [channel, stream, Channel.ofStream], by decide⟩
  have hflushes : ∀ event ∈ flushes, event.outcome = .ok () := by simp [flushes]
  obtain ⟨hintime, hverdict⟩ :=
    converse_verdict hsends hflushes (some ("u\\", "\"")) ⟨⟨5⟩, ⟨5⟩⟩ ⟨0⟩
  obtain ⟨hok, hsent⟩ := hverdict (hintime hprompt)
  have hlines : serverLines pieces.flatten =
      ["* OK hi", "* a1 NO", "a1 ok", "a2 OK bye"].map String.toList := by decide
  rw [hlines] at hok hsent
  exact ⟨hsends, hprompt, hintime hprompt, hok.2 (by decide), hsent.trans (by decide)⟩

end ServiceProbe.Imap
