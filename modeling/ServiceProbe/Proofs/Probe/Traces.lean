import ServiceProbe.Proofs.Dns.Verdict
import ServiceProbe.Proofs.Imap.Waits
import ServiceProbe.Proofs.Tls.Settings

/-!
What a run that ends in an argument error has left in the network. Nothing, but
for one argument that is looked at too late: the name to verify is wanted only
after the peer has accepted, so a test whose input has no word in it, and that
does not turn the verification off, opens a connection first.
-/

namespace ServiceProbe

open Net

/-- If it fails, then not because of an argument. -/
def Blameless {α : Type} (result : Except ProbeError α) : Prop :=
  ∀ e, result = .error e → e.isArgumentError = false

namespace Blameless

variable {α β : Type}

theorem ok (a : α) : Blameless (.ok a : Except ProbeError α) := by
  intro e h
  contradiction

theorem error {e : ProbeError} (h : e.isArgumentError = false) :
    Blameless (.error e : Except ProbeError α) := by
  intro e' he
  cases he
  exact h

theorem bind {result : Except ProbeError α} {next : α → Except ProbeError β}
    (h : Blameless result) (hnext : ∀ a, Blameless (next a)) : Blameless (result.bind next) := by
  cases result with
  | error e => exact error (h e rfl)
  | ok a => exact hnext a

theorem ofIo (e : IoError) (budget : Duration) :
    (ProbeError.ofIo e budget).isArgumentError = false := by
  unfold ProbeError.ofIo
  split <;> rfl

end Blameless

/-! ### Lookups -/

namespace Dns

theorem blameless_within (delivery : Delivery) (timeout : Duration) :
    Blameless (delivery.within timeout) := by
  cases delivery with
  | silence => exact .error rfl
  | reply wait bytes =>
    rw [Delivery.within]
    split
    · exact .ok _
    · exact .error rfl
  | failure wait e =>
    rw [Delivery.within]
    split
    · exact .error (Blameless.ofIo e timeout)
    · exact .error rfl

theorem blameless_readReply (id : UInt16) (qname : String) (reply : Bytes) (codec : Codec) :
    Blameless (readReply id qname reply codec) := by
  refine Blameless.bind ?_ fun message => Blameless.bind ?_ fun checked => ?_
  · cases codec.decode (reply.take maxReply) with
    | error fault => exact .error rfl
    | ok message => exact .ok _
  · unfold checkId
    split
    · exact .ok _
    · exact .error rfl
  · unfold answersOf
    split
    · exact .ok _
    · split
      · exact .error rfl
      · exact .ok _

theorem blameless_lookUp (network : Network) (server name : String) (type : RecordType)
    (timeout : Duration) (id : UInt16) (codec : Codec) :
    Blameless (lookUp network server name type timeout id codec).1 := by
  dsimp only [lookUp]
  cases codec.readName (fqdn name).toList with
  | error fault => exact .error rfl
  | ok wireName =>
    rcases network.socketAddresses server with e | _ | ⟨remote, others⟩
    · exact .error rfl
    · exact .error rfl
    · dsimp only
      cases network.datagrams remote with
      | error e => exact .error rfl
      | ok respond =>
        dsimp only
        split
        · exact .error rfl
        · exact (blameless_within _ timeout).bind fun reply => blameless_readReply id _ reply codec

theorem blameless_compareAnswers (expected : String) (answers : List String) :
    Blameless (compareAnswers expected answers) := by
  unfold compareAnswers
  dsimp only
  split
  · exact .ok _
  · exact .error rfl

/-- The test names nothing to look up, or no type of records that there is. -/
def LacksQuestion (test : Test) : Prop :=
  test.argument "lookup" = "" ∨ ∀ type : RecordType, type.token ≠ test.argument "type"

/-- What is wrong with a question, whoever is asked. -/
def questionFault (test : Test) : ProbeError :=
  let token := test.argument "type"
  if test.argument "lookup" = "" then .invalidArgument "no value to lookup specified"
  else if token = "" then .invalidArgument "no record-type to lookup"
  else .invalidArgument s!"unsupported record to lookup '{token}'"

theorem isArgumentError_questionFault (test : Test) :
    (questionFault test).isArgumentError = true := by
  unfold questionFault
  dsimp only
  split
  · rfl
  · split <;> rfl

theorem RecordType.parse_of_unknown {token : String} (h : ∀ type : RecordType, type.token ≠ token) :
    parse token = .error (.invalidArgument s!"unsupported record to lookup '{token}'") := by
  have hnone : ofToken? token = none := by
    rw [Option.eq_none_iff_forall_ne_some]
    exact fun type htype => h type (ofToken?_eq_some_iff.1 htype)
  rw [parse, hnone]

/-- The arguments of a lookup are looked at before anything is sent. -/
theorem runProbe_of_lacksQuestion {run : Invocation} (h : LacksQuestion run.test) :
    runProbe run = .failure (questionFault run.test) := by
  unfold runProbe questionFault
  dsimp only
  by_cases hname : run.test.argument "lookup" = ""
  · rw [if_pos hname, if_pos hname]
  · rw [if_neg hname, if_neg hname]
    by_cases htype : run.test.argument "type" = ""
    · rw [if_pos htype, if_pos htype]
    · rw [if_neg htype, if_neg htype, RecordType.parse_of_unknown (h.resolve_left hname)]

/-- From then on no failure is that of an argument. -/
theorem blameless_runProbe {run : Invocation} (h : ¬ LacksQuestion run.test) :
    Blameless (runProbe run).result := by
  simp only [LacksQuestion, not_or, not_forall, not_not] at h
  obtain ⟨hname, type, htype⟩ := h
  have hgiven : run.test.argument "type" ≠ "" := by
    rw [← htype]
    cases type <;> decide
  unfold runProbe
  dsimp only
  rw [if_neg hname, if_neg hgiven, RecordType.parse_eq_ok_iff.2 htype]
  exact (blameless_lookUp _ _ _ _ _ _ _).bind (blameless_compareAnswers _)

theorem traces_of_argumentError {run : Invocation} {e : ProbeError}
    (hresult : (runProbe run).result = .error e) (h : e.isArgumentError = true) :
    (runProbe run).traces = [] := by
  by_cases hlacks : LacksQuestion run.test
  · rw [runProbe_of_lacksQuestion hlacks]
    rfl
  · rw [blameless_runProbe hlacks e hresult] at h
    contradiction

end Dns

/-! ### Mail sessions -/

namespace Imap

/-- A conversation fails for what the peer does or for want of time. -/
theorem blameless_converse (credentials : Option (String × String)) (channel : Channel) :
    Blameless (converse credentials channel).1 := by
  have kept : Channel.Kept (fun _ => True) (fun e => e.isArgumentError = false) :=
    { arm := fun _ => trivial
      expired := fun {c e} _ he => by
        unfold Channel.arm at he
        split at he
        · next hleft =>
          cases he
          unfold Deadline.remaining at hleft
          split at hleft <;> cases hleft
          rfl
        · dsimp only at he
          split at he
          · contradiction
          · split at he
            · contradiction
            · cases he
              exact Blameless.ofIo _ _
      read := fun _ _ => trivial
      rest := fun _ _ => trivial
      write := fun _ _ _ => trivial
      io := Blameless.ofIo
      protocol := fun _ => rfl }
  exact (converse_keeps kept trivial credentials).2

theorem blameless_cap {result : Except ProbeError Unit} (h : Blameless result)
    (deadline : Deadline) (now : Instant) : Blameless (deadline.cap now result) := by
  unfold Deadline.cap
  split
  · exact .error rfl
  · exact h

end Imap

namespace Tls

/-- The test wants a certificate to be verified, and its input has no word that it
could be verified for. -/
def LacksName (test : Test) : Prop :=
  test.argument "tls" ≠ "insecure" ∧ test.inputHost? = none

theorem ofTest_of_lacksName {test : Test} (h : LacksName test) :
    Settings.ofTest test = ⟨true, none⟩ := by
  rw [Settings.ofTest, if_neg h.1, h.2]

theorem lacksName_of_ofTest {test : Test} (hverify : (Settings.ofTest test).verify = true)
    (hname : (Settings.ofTest test).serverName = none) : LacksName test := by
  unfold Settings.ofTest at hverify hname
  split at hverify
  · contradiction
  · next hsecure =>
    rw [if_neg hsecure] at hname
    exact ⟨hsecure, hname⟩

def noServerName : ProbeError := .invalidArgument "no server name to verify"

theorem connect_of_lacksName {network : Network} {address : String} {test : Test}
    {deadline : Deadline} {now : Instant} {accepted : SocketAddress × Peer}
    (hdial : dial network address deadline now = .ok accepted) (h : LacksName test) :
    connect network address (Settings.ofTest test) deadline now =
      (.error noServerName, some accepted.1) := by
  unfold connect
  rw [hdial, ofTest_of_lacksName h]
  rfl

end Tls

namespace Imap

theorem runProbe_of_portOf_error {run : Invocation} {e : ProbeError}
    (h : portOf run.test = .error e) : runProbe run = .ok (.failure e) := by
  unfold runProbe
  rw [h]

/-- A run at a port has no argument left to complain about but the name to verify. -/
theorem lacksName_of_argumentError {run : Invocation} {report : Report} {e : ProbeError}
    {port : UInt16} (hport : portOf run.test = .ok port) (hrun : runProbe run = .ok report)
    (hresult : report.result = .error e) (h : e.isArgumentError = true) :
    Tls.LacksName run.test ∧ ∃ server, report.traces = [.connection server none] := by
  unfold runProbe at hrun
  rw [hport] at hrun
  cases hdeadline : Deadline.after? run.start run.timeout with
  | none => simp [hdeadline] at hrun
  | some deadline =>
    simp only [hdeadline] at hrun
    rcases hconnect : Tls.connect run.network (joinHostPort run.target port)
      (Tls.Settings.ofTest run.test) deadline run.start with ⟨e' | stream, server⟩ <;>
      rw [hconnect] at hrun <;> cases hrun
    · -- the connection has failed, and an argument can only be the name to verify
      cases hresult
      obtain ⟨reason, rfl⟩ : ∃ reason, e = .invalidArgument reason := by
        cases e <;> simp_all [ProbeError.isArgumentError]
      have hfailed := congrArg Prod.fst hconnect
      obtain ⟨⟨accepted, hdial⟩, hverify, hname, -⟩ :=
        Tls.connect_eq_invalidArgument_iff.1 hfailed
      have hlacks := Tls.lacksName_of_ofTest hverify hname
      rw [Tls.connect_of_lacksName hdial hlacks] at hconnect
      cases hconnect
      exact ⟨hlacks, accepted.1, rfl⟩
    · have hconverse :=
        blameless_converse (credentialsOf run.test) (.ofStream stream deadline run.start)
      rw [blameless_cap hconverse _ _ e hresult] at h
      contradiction

theorem traces_of_argumentError {run : Invocation} {report : Report} {e : ProbeError}
    (hrun : runProbe run = .ok report) (hresult : report.result = .error e)
    (h : e.isArgumentError = true) :
    report.traces = [] ∨
      Tls.LacksName run.test ∧ ∃ server, report.traces = [.connection server none] := by
  cases hport : portOf run.test with
  | error e' =>
    rw [runProbe_of_portOf_error hport] at hrun
    cases hrun
    exact .inl rfl
  | ok port => exact .inr (lacksName_of_argumentError hport hrun hresult h)

/-- A run that lacks a name to verify opens a connection before it says so. -/
theorem runProbe_of_lacksName {run : Invocation} {port : UInt16} {deadline : Deadline}
    {accepted : SocketAddress × Peer} (hport : portOf run.test = .ok port)
    (hdeadline : Deadline.after? run.start run.timeout = some deadline)
    (hdial : Tls.dial run.network (joinHostPort run.target port) deadline run.start = .ok accepted)
    (h : Tls.LacksName run.test) :
    runProbe run = .ok ⟨.error Tls.noServerName, [.connection accepted.1 none]⟩ := by
  unfold runProbe
  simp only [hport, hdeadline, Tls.connect_of_lacksName hdial h]
  rfl

end Imap

namespace Registry

theorem lookup_builtin {name : String} {probe : Probe} (h : builtin.lookup name = some probe) :
    (name = Dns.protocol ∧ probe = Dns.probe) ∨ (name = Imap.protocol ∧ probe = Imap.probe) := by
  by_cases himap : name = Imap.protocol
  · subst himap
    rw [builtin, lookup_register_self] at h
    exact .inr ⟨rfl, (Option.some.inj h).symm⟩
  · rw [builtin, lookup_register_of_ne _ himap] at h
    by_cases hdns : name = Dns.protocol
    · subst hdns
      rw [lookup_register_self] at h
      exact .inl ⟨rfl, (Option.some.inj h).symm⟩
    · rw [lookup_register_of_ne _ hdns] at h
      contradiction

/-- A run of a built-in probe that ends in an argument error has sent no datagram
and opened no connection, unless it is a mail session that lacks a name to verify;
and every such session opens one, if the peer accepts. -/
theorem argumentError_traces (run : Invocation) :
    (∀ name probe earlier report e, builtin.lookup name = some probe →
      probe.run earlier run = .ok report → report.result = .error e →
      e.isArgumentError = true →
      report.traces = [] ∨ name = Imap.protocol ∧ Tls.LacksName run.test ∧
        ∃ server, report.traces = [.connection server none]) ∧
    ∀ port deadline accepted, Imap.portOf run.test = .ok port →
      Deadline.after? run.start run.timeout = some deadline →
      Tls.dial run.network (joinHostPort run.target port) deadline run.start = .ok accepted →
      Tls.LacksName run.test →
      Imap.runProbe run = .ok ⟨.error Tls.noServerName, [.connection accepted.1 none]⟩ := by
  constructor
  · intro name probe earlier report e hprobe hrun hresult h
    rcases lookup_builtin hprobe with ⟨rfl, rfl⟩ | ⟨rfl, rfl⟩
    · cases hrun
      exact .inl (Dns.traces_of_argumentError hresult h)
    · rcases Imap.traces_of_argumentError hrun hresult h with hnone | hlacks
      · exact .inl hnone
      · exact .inr ⟨rfl, hlacks⟩
  · intro port deadline accepted hport hdeadline hdial h
    exact Imap.runProbe_of_lacksName hport hdeadline hdial h

/-- A network in which everybody accepts a connection and says nothing. -/
def silentNetwork : Network := { Network.unreachable with connections := fun _ => .ok .silent }

/-- A mail session with an empty input. -/
def namelessRun : Invocation :=
  ⟨.bare "127.0.0.1" "imaps" "", "127.0.0.1", ⟨1⟩, silentNetwork, ⟨0⟩, 0⟩

theorem dial_namelessRun :
    Tls.dial namelessRun.network (joinHostPort namelessRun.target 993) ⟨⟨1⟩, ⟨1⟩⟩
      namelessRun.start = .ok (⟨.v4 ⟨127, 0, 0, 1⟩, 993⟩, .silent) := rfl

theorem lacksName_namelessRun : Tls.LacksName namelessRun.test := ⟨by decide, by decide⟩

/-- Not every argument error leaves the network alone. -/
theorem argumentError_after_connection :
    IpAddress.parse? namelessRun.target.toList = some (.v4 ⟨127, 0, 0, 1⟩) ∧
      ∃ probe report e, builtin.lookup "imaps" = some probe ∧
        probe.run 0 namelessRun = .ok report ∧ report.result = .error e ∧
        e.isArgumentError = true ∧
        report.traces = [.connection ⟨.v4 ⟨127, 0, 0, 1⟩, 993⟩ none] :=
  ⟨by decide +kernel, Imap.probe, _, _, rfl,
    Imap.runProbe_of_lacksName rfl rfl dial_namelessRun lacksName_namelessRun, rfl, rfl, rfl⟩

/-- A port that is no number is found before the connection, the missing name after
it. -/
theorem argumentError_traces_of_port :
    let run : Invocation := { namelessRun with
      test := ⟨"127.0.0.1", "imaps", "mail", [("port", "imap")]⟩ }
    (∃ report e, Imap.runProbe run = .ok report ∧ report.result = .error e ∧
      e.isArgumentError = true ∧ report.traces = []) ∧
    Imap.runProbe namelessRun =
      .ok ⟨.error Tls.noServerName, [.connection ⟨.v4 ⟨127, 0, 0, 1⟩, 993⟩ none]⟩ := by
  intro run
  have hport : Imap.portOf run.test =
      .error (.invalidArgument "invalid port 'imap': invalid digit found in string") := by
    decide +kernel
  have hrun : Imap.runProbe run = .ok (.failure (.invalidArgument
      "invalid port 'imap': invalid digit found in string")) := by
    unfold Imap.runProbe
    rw [hport]
  have hnamed : ¬ Tls.LacksName run.test := fun h => by
    have hword : run.test.inputHost? = some "mail" := by decide
    rw [h.2] at hword
    contradiction
  have htraces := (argumentError_traces run).1 "imaps" Imap.probe 0 _ _ rfl hrun rfl rfl
  refine ⟨⟨_, _, hrun, rfl, rfl, htraces.resolve_right fun h => hnamed h.2.1⟩, ?_⟩
  exact (argumentError_traces namelessRun).2 993 ⟨⟨1⟩, ⟨1⟩⟩ _ rfl rfl dial_namelessRun
    lacksName_namelessRun

end Registry

end ServiceProbe
