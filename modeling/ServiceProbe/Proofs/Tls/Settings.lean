import ServiceProbe.Probe.Builtin
import ServiceProbe.Proofs.Parser.Arguments

/-!
How the certificate of the peer is dealt with, for a test that was read from a
line. The target of such a test is the first word of its input, although the two
are found by different readers, so there is always a name to verify; and only a
clause with the very word `insecure` turns the verification off.
-/

namespace ServiceProbe

open Line Net Text

/-- The target is the first word of the input. -/
theorem Line.Sentence.WellFormed.inputHost? {d : Sentence} (h : d.WellFormed) :
    d.test.inputHost? = some d.test.target := by
  have htext : d.text = d.target ++ (d.beforeMust ++ _) := rfl
  have hstart : trimStart d.text = d.text := trimStart_eq_self (h.target.stops _)
  have hfirst : firstWord d.text = d.target := by
    rw [htext, firstWord_append h.target (h.beforeMust.stops _)]
  have hleading : leadingWord? d.text = some d.target := by
    rw [leadingWord?, hstart, hfirst]
    split
    · next hnil => exact absurd hnil h.target.1
    · rfl
  rw [Test.inputHost?, Sentence.test, String.toList_ofList, hleading, Option.map_some]

namespace Tls

/-! ### Argument errors of a connection -/

theorem ofIo_ne_invalidArgument (e : IoError) (budget : Duration) (reason : String) :
    ProbeError.ofIo e budget ≠ .invalidArgument reason := by
  unfold ProbeError.ofIo
  split <;> simp

theorem dialAny_ne_invalidArgument (network : Network) (address : String) (deadline : Deadline)
    (now : Instant) (last : Option IoError) (sockets : List SocketAddress) (reason : String) :
    dialAny network address deadline now last sockets ≠ .error (.invalidArgument reason) := by
  fun_induction dialAny network address deadline now last sockets with
  | case1 e => simp [ofIo_ne_invalidArgument]
  | case2 => simp
  | case3 last socket others ih =>
    unfold Deadline.remaining
    split
    · simp [bind, Except.bind]
    · cases hpeer : network.connections socket with
      | ok peer => simp [bind, Except.bind, pure, Except.pure]
      | error e => exact ih e

theorem dial_ne_invalidArgument (network : Network) (address : String) (deadline : Deadline)
    (now : Instant) (reason : String) :
    dial network address deadline now ≠ .error (.invalidArgument reason) := by
  unfold dial
  cases network.socketAddresses address with
  | error e => simp [bind, Except.bind, Except.mapError]
  | ok sockets => exact dialAny_ne_invalidArgument network address deadline now none sockets reason

theorem nameToVerify_eq_invalidArgument_iff {settings : Settings} {reason : String} :
    nameToVerify settings = .error (.invalidArgument reason) ↔
      settings.verify = true ∧ settings.serverName = none ∧
        "no server name to verify" = reason := by
  obtain ⟨_ | _, _ | name⟩ := settings
  · simp [nameToVerify]
  · simp [nameToVerify]
  · simp [nameToVerify]
  · simp only [nameToVerify, Bool.not_true, Bool.false_eq_true, if_false]
    split
    · simp
    · split <;> simp

/-- The only argument that a handshake can lack is the name to verify. -/
theorem handshake_eq_invalidArgument_iff {peer : Peer} {settings : Settings} {deadline : Deadline}
    {reason : String} :
    handshake peer settings deadline = .error (.invalidArgument reason) ↔
      settings.verify = true ∧ settings.serverName = none ∧
        "no server name to verify" = reason := by
  rw [← nameToVerify_eq_invalidArgument_iff, handshake]
  cases nameToVerify settings with
  | error e => simp [bind, Except.bind]
  | ok name =>
    cases peer with
    | silent => simp [bind, Except.bind, throw, throwThe, MonadExceptOf.throw]
    | plain => simp [bind, Except.bind, throw, throwThe, MonadExceptOf.throw]
    | secure certificate stream =>
      cases hfault : name.bind certificate.fault? <;>
        simp [bind, Except.bind, hfault, throw, throwThe, MonadExceptOf.throw, pure, Except.pure]

theorem connect_eq_invalidArgument_iff {network : Network} {address : String}
    {settings : Settings} {deadline : Deadline} {now : Instant} {reason : String} :
    (connect network address settings deadline now).1 = .error (.invalidArgument reason) ↔
      (∃ accepted, dial network address deadline now = .ok accepted) ∧
        settings.verify = true ∧ settings.serverName = none ∧
        "no server name to verify" = reason := by
  unfold connect
  cases hdial : dial network address deadline now with
  | error e =>
    have hne := dial_ne_invalidArgument network address deadline now reason
    rw [hdial] at hne
    simpa using hne
  | ok accepted =>
    rw [and_iff_right ⟨accepted, rfl⟩]
    exact handshake_eq_invalidArgument_iff

/-! ### The settings of a line -/

/-- A clause of the line turns the verification off. -/
def AllowsInsecure (d : Sentence) : Prop :=
  ∃ c ∈ d.clauses, c.name = "tls".toList ∧ c.value = "insecure".toList

theorem ofTest_of_allowsInsecure {d : Sentence} (hnames : (d.clauses.map (·.name)).Nodup)
    (h : AllowsInsecure d) : Settings.ofTest d.test = ⟨false, none⟩ :=
  if_pos ((Sentence.argument_eq_iff hnames (by decide)).2 h)

theorem ofTest_of_not_allowsInsecure {d : Sentence} (hd : d.WellFormed)
    (hnames : (d.clauses.map (·.name)).Nodup) (h : ¬ AllowsInsecure d) :
    Settings.ofTest d.test = ⟨true, some d.test.target⟩ := by
  rw [← hd.inputHost?]
  exact if_neg fun heq => h ((Sentence.argument_eq_iff hnames (by decide)).1 heq)

/-- The certificate is verified for the target of the line, unless a clause of the
line says `insecure` and nothing else. A connection never lacks a name to
verify. -/
theorem settings_of_parseLine {parser : Parser} {registry : Registry} {line : String}
    {number : Nat} {test : Test}
    (h : (parser.parseLine registry line number).1 = .ok (some test)) :
    test.inputHost? = some test.target ∧
    (∃ d : Sentence, d.WellFormed ∧ d.text = trim line.toList ∧
      (∀ d' : Sentence, d'.WellFormed → d'.text = trim line.toList → d' = d) ∧
      ((Settings.ofTest test).verify = false ↔ AllowsInsecure d) ∧
      (¬ AllowsInsecure d → Settings.ofTest test = ⟨true, some test.target⟩)) ∧
    ∀ network address deadline now reason,
      (connect network address (Settings.ofTest test) deadline now).1 ≠
        .error (.invalidArgument reason) := by
  obtain ⟨d, hd, htext, hnames, rfl⟩ := Parser.sentence_of_parseLine h
  have hunique (d' : Sentence) (hd' : d'.WellFormed) (htext' : d'.text = trim line.toList) :
      d' = d := Sentence.text_inj hd' hd (htext'.trans htext.symm)
  have hverify : (Settings.ofTest d.test).verify = false ↔ AllowsInsecure d := by
    constructor
    · intro hoff
      by_contra hsecure
      rw [ofTest_of_not_allowsInsecure hd hnames hsecure] at hoff
      contradiction
    · intro hinsecure
      rw [ofTest_of_allowsInsecure hnames hinsecure]
  refine ⟨hd.inputHost?, ⟨d, hd, htext, hunique, hverify,
    ofTest_of_not_allowsInsecure hd hnames⟩, ?_⟩
  intro network address deadline now reason hconnect
  obtain ⟨-, hon, hnone, -⟩ := connect_eq_invalidArgument_iff.1 hconnect
  have hsecure : ¬ AllowsInsecure d := fun hinsecure => by
    simp [ofTest_of_allowsInsecure hnames hinsecure] at hon
  rw [ofTest_of_not_allowsInsecure hd hnames hsecure] at hnone
  contradiction

/-- A value that the pattern lets through does not turn the verification off. -/
theorem settings_of_insecure_and_blank :
    let text := "mail must run imaps with tls 'insecure '"
    let test : Test := ⟨"mail", "imaps", text, [("tls", "insecure ")]⟩
    (Parser.fresh.parseLine Registry.builtin text 1).1 = .ok (some test) ∧
      test.inputHost? = some test.target ∧
      Settings.ofTest test = ⟨true, some "mail"⟩ ∧
      ∀ network address deadline now reason,
        (connect network address (Settings.ofTest test) deadline now).1 ≠
          .error (.invalidArgument reason) := by
  intro text test
  have hparse : (Parser.fresh.parseLine Registry.builtin text 1).1 = .ok (some test) := by
    decide +kernel
  obtain ⟨hhost, -, hnamed⟩ := settings_of_parseLine hparse
  exact ⟨hparse, hhost, by decide, hnamed⟩

end Tls

end ServiceProbe
