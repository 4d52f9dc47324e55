import ServiceProbe.Proofs.Net.Texts
import ServiceProbe.Proofs.Run
import ServiceProbe.Probe.Builtin

/-!
A test whose target is a literal address, in whatever spelling. It is run once, at the
address that the literal stands for, or it is one failure if addresses of that kind are
not in use. A run at a literal has to do with one address of the network only: it leaves
no trace at another, and nobody else can make a difference to it.
-/

namespace ServiceProbe

open Net

/-- Where a trace was left. -/
def Trace.server : Trace → SocketAddress
  | datagram server _ => server
  | connection server _ => server

/-- A run of a probe has to do with one address of the network only. -/
structure Probe.DialsOnly (probe : Probe) (run : Invocation) (server : SocketAddress) : Prop where
  traces : ∀ earlier report, probe.run earlier run = .ok report →
    ∀ trace ∈ report.traces, trace.server = server
  /-- Two networks that are alike at the address are alike for the run. -/
  agree : ∀ earlier network, network.datagrams server = run.network.datagrams server →
    network.connections server = run.network.connections server →
    probe.run earlier { run with network := network } = probe.run earlier run

/-! ### Lookups -/

namespace Dns

variable {network network' : Network} {address : String} {remote : SocketAddress}

theorem server_of_mem_lookUp (h : network.socketAddresses address = .ok [remote]) (name : String)
    (type : RecordType) (timeout : Duration) (id : UInt16) (codec : Codec) :
    ∀ trace ∈ (lookUp network address name type timeout id codec).2, trace.server = remote := by
  dsimp only [lookUp]
  cases codec.readName (fqdn name).toList with
  | error fault => simp
  | ok wireName =>
    rw [h]
    dsimp only
    cases network.datagrams remote with
    | error e => simp
    | ok respond =>
      dsimp only
      split
      · simp
      · intro trace htrace
        rw [List.mem_singleton.1 htrace]
        rfl

theorem lookUp_of_agree (h : network.socketAddresses address = .ok [remote])
    (h' : network'.socketAddresses address = .ok [remote])
    (hagree : network'.datagrams remote = network.datagrams remote) (name : String)
    (type : RecordType) (timeout : Duration) (id : UInt16) (codec : Codec) :
    lookUp network' address name type timeout id codec =
      lookUp network address name type timeout id codec := by
  dsimp only [lookUp]
  rw [h, h']
  dsimp only
  rw [hagree]

theorem probe_dialsOnly {run : Invocation} {ip : IpAddress}
    (h : IpAddress.parse? run.target.toList = some ip) : probe.DialsOnly run ⟨ip, port⟩ := by
  have hserver (network : Network) := network.socketAddresses_joinHostPort h port
  constructor
  · intro earlier report hrun
    obtain rfl : runProbe run = report := Except.ok.inj hrun
    unfold runProbe
    dsimp only
    split
    · simp [Report.failure]
    · split
      · simp [Report.failure]
      · split
        · simp [Report.failure]
        · exact server_of_mem_lookUp (hserver run.network) _ _ _ _ _
  · intro earlier network hdatagrams _
    show Except.ok (runProbe { run with network := network }) = .ok (runProbe run)
    unfold runProbe
    simp only [lookUp_of_agree (hserver run.network) (hserver network) hdatagrams]

end Dns

/-! ### Connections -/

namespace Tls

variable {network network' : Network} {address : String} {remote : SocketAddress}

/-- The one address is tried once. -/
theorem dial_eq (h : network.socketAddresses address = .ok [remote]) (deadline : Deadline)
    (now : Instant) :
    dial network address deadline now = (deadline.remaining now).bind fun _ =>
      match network.connections remote with
      | .ok peer => .ok (remote, peer)
      | .error e => .error (.ofIo e deadline.budget) := by
  rw [dial, h]
  rfl

theorem server_of_connect (h : network.socketAddresses address = .ok [remote])
    (settings : Settings) (deadline : Deadline) (now : Instant) :
    ∀ server ∈ (connect network address settings deadline now).2, server = remote := by
  rw [connect, dial_eq h]
  cases deadline.remaining now with
  | error e => simp [Except.bind]
  | ok left => cases network.connections remote <;> simp [Except.bind]

theorem connect_of_agree (h : network.socketAddresses address = .ok [remote])
    (h' : network'.socketAddresses address = .ok [remote])
    (hagree : network'.connections remote = network.connections remote) (settings : Settings)
    (deadline : Deadline) (now : Instant) :
    connect network' address settings deadline now =
      connect network address settings deadline now := by
  rw [connect, connect, dial_eq h, dial_eq h', hagree]

end Tls

namespace Imap

theorem server_of_mem_traces {peer : Option SocketAddress} {server : SocketAddress}
    (h : ∀ s ∈ peer, s = server) (session : Option Bytes) :
    ∀ trace ∈ peer.toList.map fun s => Trace.connection s session, trace.server = server := by
  intro trace htrace
  obtain ⟨s, hs, rfl⟩ := List.mem_map.1 htrace
  exact h s (Option.mem_toList.1 hs)

theorem probe_dialsOnly {run : Invocation} {ip : IpAddress}
    (h : IpAddress.parse? run.target.toList = some ip) {port : UInt16}
    (hport : portOf run.test = .ok port) : probe.DialsOnly run ⟨ip, port⟩ := by
  have hserver (network : Network) := network.socketAddresses_joinHostPort h port
  constructor
  · intro earlier report hrun
    change runProbe run = .ok report at hrun
    simp only [runProbe, hport] at hrun
    cases hdeadline : Deadline.after? run.start run.timeout with
    | none => simp [hdeadline] at hrun
    | some deadline =>
      simp only [hdeadline] at hrun
      have hconnect := Tls.server_of_connect (hserver run.network) (Tls.Settings.ofTest run.test)
        deadline run.start
      generalize Tls.connect run.network (joinHostPort run.target port)
        (Tls.Settings.ofTest run.test) deadline run.start = connection at hconnect hrun
      rcases connection with ⟨e | stream, peer⟩
      · cases hrun
        exact server_of_mem_traces hconnect none
      · cases hrun
        exact server_of_mem_traces hconnect _
  · intro earlier network _ hconnections
    show runProbe { run with network := network } = runProbe run
    simp only [runProbe, hport,
      Tls.connect_of_agree (hserver run.network) (hserver network) hconnections]

end Imap

/-! ### Plans -/

section Plans

variable {registry : Registry} {network : Network} {settings : Settings} {test : Test}

theorem resolve_of_literal {host : String} {ip : IpAddress}
    (h : IpAddress.parse? host.toList = some ip) :
    resolve network settings host =
      if settings.uses ip then .ok [ip] else .error (noUsableAddress settings host) := by
  have haddresses : network.addresses host = .ok [ip] := by rw [Network.addresses, h]
  rw [resolve, haddresses]
  cases huses : settings.uses ip with
  | false => simp [huses, dropRepeats, noUsableAddress]
  | true => simp [huses, dropRepeats]

theorem planTest_of_literal {probe : Probe} {ip : IpAddress}
    (hprobe : registry.lookup test.protocol = some probe) (hresolves : probe.resolvesTarget = true)
    (h : IpAddress.parse? test.target.toList = some ip) :
    planTest registry network settings test =
      if settings.uses ip then .ok [⟨test, ip.text⟩]
      else .error (noUsableAddress settings test.target) := by
  rw [planTest, hprobe]
  dsimp only
  rw [if_pos hresolves, resolve_of_literal h]
  split <;> rfl

end Plans

/-- A literal of a kind that is not in use is one failure and no run. Any other literal
is one run, at the text of its address, however the literal was spelt; and with a port
joined to it that text is dialled as the address and the port. -/
theorem literalTarget_dialled (registry : Registry) (network : Network) (settings : Settings)
    {test : Test} {probe : Probe} {ip : IpAddress}
    (hprobe : registry.lookup test.protocol = some probe) (hresolves : probe.resolvesTarget = true)
    (h : IpAddress.parse? test.target.toList = some ip) :
    let plan := Plan.ofTests registry network settings
    (settings.uses ip = false →
      let failure := Outcome.unplanned test (noUsableAddress settings test.target)
      failure.passed = false ∧
      (∀ before after, plan (before ++ test :: after) =
        ⟨(plan before).failures ++ failure :: (plan after).failures,
          (plan before).jobs ++ (plan after).jobs⟩) ∧
      ∀ perform schedule concurrency,
        runTests registry network settings perform schedule concurrency [test] =
          .ok ⟨[failure], []⟩) ∧
    (settings.uses ip = true →
      let job : Job := ⟨test, ip.text⟩
      (∀ before after, plan (before ++ test :: after) =
        ⟨(plan before).failures ++ (plan after).failures,
          (plan before).jobs ++ job :: (plan after).jobs⟩) ∧
      (∀ perform schedule concurrency,
        runTests registry network settings perform schedule concurrency [test] =
          (perform 0 job).map fun execution =>
            ⟨[job.outcome execution], execution.report.traces⟩) ∧
      (∀ port, SocketAddress.parse? (joinHostPort job.address port).toList = some ⟨ip, port⟩ ∧
        network.socketAddresses (joinHostPort job.address port) = .ok [⟨ip, port⟩]) ∧
      ∀ timeout start queryId,
        let run : Invocation := ⟨test, job.address, timeout, network, start, queryId⟩
        Dns.probe.DialsOnly run ⟨ip, Dns.port⟩ ∧
        ∀ port, Imap.portOf test = .ok port → Imap.probe.DialsOnly run ⟨ip, port⟩) := by
  intro plan
  have hplan : planTest registry network settings test =
      if settings.uses ip then .ok [⟨test, ip.text⟩]
      else .error (noUsableAddress settings test.target) :=
    planTest_of_literal hprobe hresolves h
  constructor
  · intro huses failure
    have hfailure : planTest registry network settings test =
        .error (noUsableAddress settings test.target) := by
      rw [hplan, huses]
      rfl
    refine ⟨rfl, fun before after => ?_, fun perform schedule concurrency => ?_⟩
    · show Plan.ofTests registry network settings (before ++ test :: after) = _
      rw [Plan.ofTests_append, Plan.ofTests_cons_of_error hfailure]
    · rw [runTests, Plan.ofTests_cons_of_error hfailure]
      exact Plan.run_of_no_jobs _ perform schedule concurrency
  · intro huses job
    have hjob : planTest registry network settings test = .ok [job] := by
      rw [hplan, huses]
      rfl
    refine ⟨fun before after => ?_, fun perform schedule concurrency => ?_, fun port => ?_,
      fun timeout start queryId => ?_⟩
    · show Plan.ofTests registry network settings (before ++ test :: after) = _
      rw [Plan.ofTests_append, Plan.ofTests_cons_of_ok hjob]
      rfl
    · rw [runTests, Plan.ofTests_cons_of_ok hjob]
      exact Plan.run_of_one_job job perform schedule concurrency
    · have haddress : IpAddress.parse? job.address.toList = some ip := ip.parse?_text
      exact ⟨SocketAddress.parse?_joinHostPort haddress port,
        network.socketAddresses_joinHostPort haddress port⟩
    · intro run
      have htarget : IpAddress.parse? run.target.toList = some ip := ip.parse?_text
      exact ⟨Dns.probe_dialsOnly htarget, fun port hport => Imap.probe_dialsOnly htarget hport⟩

/-- An IPv4-mapped address that the line spells in groups is dialled in dotted form, and
only if IPv6 is in use. -/
theorem literalTarget_dialled_mapped :
    let test : Test := ⟨"0:0:0:0:0:FFFF:C000:201", "imaps", "", [("port", "1993")]⟩
    let ip : IpAddress := .v6 ⟨[0, 0, 0, 0, 0, 0xFFFF, 0xC000, 0x0201], rfl⟩
    let without : Settings := { Settings.defaults with ipv6 := false }
    let plan (settings : Settings) :=
      Plan.ofTests Registry.builtin Network.unreachable settings [test]
    let run : Invocation := ⟨test, ip.text, ⟨1⟩, Network.unreachable, ⟨0⟩, 0⟩
    IpAddress.parse? test.target.toList = some ip ∧ ip.text = "::ffff:192.0.2.1" ∧
      plan Settings.defaults = ⟨[], [⟨test, ip.text⟩]⟩ ∧
      SocketAddress.parse? (joinHostPort ip.text 1993).toList = some ⟨ip, 1993⟩ ∧
      Imap.probe.DialsOnly run ⟨ip, 1993⟩ ∧
      plan without = ⟨[.unplanned test (noUsableAddress without test.target)], []⟩ := by
  intro test ip without plan run
  have hliteral : IpAddress.parse? test.target.toList = some ip := by decide +kernel
  have hport : Imap.portOf test = .ok 1993 := by decide +kernel
  obtain ⟨hjob, -, hdialled, hruns⟩ := (literalTarget_dialled Registry.builtin Network.unreachable
    Settings.defaults rfl rfl hliteral).2 rfl
  obtain ⟨-, hfailure, -⟩ := (literalTarget_dialled Registry.builtin Network.unreachable
    without rfl rfl hliteral).1 rfl
  exact ⟨hliteral, by decide +kernel, hjob [] [], (hdialled 1993).1,
    (hruns ⟨1⟩ ⟨0⟩ 0).2 1993 hport, hfailure [] []⟩

end ServiceProbe
