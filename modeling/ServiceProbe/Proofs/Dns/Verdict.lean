import ServiceProbe.Dns.Lookup
import ServiceProbe.Proofs.Except
import ServiceProbe.Proofs.Net.Literals
import ServiceProbe.Proofs.Text.Order

/-!
When a lookup passes. There has to be a reply in time that decodes and carries
the number of the query; then its response code decides whether its answers, no
answers or nothing at all can match what the test expects.
-/

namespace ServiceProbe.Dns

open Net Text

/-! ### The question -/

theorem RecordType.ofToken?_eq_some_iff {token : String} {type : RecordType} :
    ofToken? token = some type ↔ type.token = token := by
  constructor
  · intro h
    simpa using List.find?_some h
  · rintro rfl
    cases type <;> decide

theorem RecordType.parse_eq_ok_iff {token : String} {type : RecordType} :
    parse token = .ok type ↔ type.token = token := by
  rw [← ofToken?_eq_some_iff, parse]
  cases ofToken? token <;> simp

theorem RecordType.token_injective {type type' : RecordType} (h : type.token = type'.token) :
    type = type' := by
  rw [← ofToken?_eq_some_iff, ofToken?_eq_some_iff.2 rfl] at h
  exact (Option.some.inj h).symm

/-! ### The reply -/

theorem answersOf_eq_ok_iff {qname : String} {message : Message} {answers : List String} :
    answersOf qname message = .ok answers ↔
      (message.responseCode = noError ∧ extractAnswers message.answers = answers) ∨
      (message.responseCode ≠ noError ∧ message.responseCode ≠ noSuchDomain ∧ [] = answers) := by
  unfold answersOf
  by_cases hcode : message.responseCode = noError
  · rw [if_pos hcode]
    simp [hcode]
  · by_cases hdomain : message.responseCode = noSuchDomain
    · have hne : noSuchDomain ≠ noError := by decide
      rw [if_neg hcode, if_pos hdomain]
      simp [hdomain, hne]
    · rw [if_neg hcode, if_neg hdomain]
      simp [hcode, hdomain]

theorem checkId_eq_ok_iff {id : UInt16} {message checked : Message} :
    checkId id message = .ok checked ↔ message = checked ∧ message.id = id := by
  unfold checkId
  split
  · next hid => simp [hid]
  · next hid => simp [hid]

theorem readReply_eq_ok_iff {id : UInt16} {qname : String} {reply : Bytes} {codec : Codec}
    {answers : List String} :
    readReply id qname reply codec = .ok answers ↔
      ∃ message, codec.decode (reply.take maxReply) = .ok message ∧ message.id = id ∧
        answersOf qname message = .ok answers := by
  simp only [readReply, bind_eq_ok_iff, mapError_eq_ok_iff, checkId_eq_ok_iff]
  refine exists_congr fun message => and_congr_right fun _ => ?_
  constructor
  · rintro ⟨_, ⟨rfl, hid⟩, hanswers⟩
    exact ⟨hid, hanswers⟩
  · rintro ⟨hid, hanswers⟩
    exact ⟨message, ⟨rfl, hid⟩, hanswers⟩

/-- A lookup at an address goes well when the name can be asked for and a reply
comes in time that can be read. -/
theorem lookUp_eq_ok_iff {network : Network} {server name : String} {remote : SocketAddress}
    (hserver : network.socketAddresses server = .ok [remote]) {type : RecordType}
    {timeout : Duration} {id : UInt16} {codec : Codec} {answers : List String} :
    (lookUp network server name type timeout id codec).1 = .ok answers ↔
      ∃ wireName respond wait reply, codec.readName (fqdn name).toList = .ok wireName ∧
        wireName.wireLength ≤ Name.maxLength ∧ network.datagrams remote = .ok respond ∧
        respond (queryWire id wireName type) = .reply wait reply ∧
        wait.nanos < timeout.nanos ∧ readReply id (fqdn name) reply codec = .ok answers := by
  dsimp only [lookUp]
  cases hname : codec.readName (fqdn name).toList with
  | error fault => simp
  | ok wireName =>
    cases hremote : network.datagrams remote with
    | error e => simp [hserver, hremote]
    | ok respond =>
      rw [hserver]
      dsimp only
      rw [hremote]
      dsimp only
      by_cases hlong : Name.maxLength < wireName.wireLength
      · have hfits : ¬ wireName.wireLength ≤ Name.maxLength := Nat.not_le.2 hlong
        simp [hlong, hfits]
      · have hfits : wireName.wireLength ≤ Name.maxLength := Nat.not_lt.1 hlong
        rw [if_neg hlong]
        simp only [bind_eq_ok_iff, Delivery.within_eq_ok_iff]
        constructor
        · rintro ⟨reply, ⟨wait, hreply, htime⟩, hread⟩
          exact ⟨wireName, respond, wait, reply, rfl, hfits, rfl, hreply, htime, hread⟩
        · rintro ⟨_, _, wait, reply, ⟨⟩, -, ⟨⟩, hreply, htime, hread⟩
          exact ⟨reply, ⟨wait, hreply, htime⟩, hread⟩

/-! ### The comparison -/

theorem joinSorted_eq_iff {answers : List String} {expected : String} :
    joinSorted answers = expected ↔
      ∃ order, order.Perm answers ∧ ByteSorted order ∧ String.intercalate "," order = expected := by
  constructor
  · rintro rfl
    exact ⟨sorted answers, sorted_perm answers, byteSorted_sorted answers, rfl⟩
  · rintro ⟨order, hperm, hsorted, rfl⟩
    rw [joinSorted, ← eq_sorted_iff.2 ⟨hperm, hsorted⟩]

theorem joinSorted_nil : joinSorted [] = "" := by
  rw [joinSorted, sorted, List.mergeSort_nil, String.intercalate_nil]

theorem compareAnswers_eq_ok_iff {expected : String} {answers : List String} :
    compareAnswers expected answers = .ok () ↔ joinSorted answers = expected := by
  unfold compareAnswers
  dsimp only
  split
  · next heq => simp [heq]
  · next hne => simp [hne]

/-- What a message has to say for an expectation to be met. A server that
neither answers nor denies the name counts as one without answers. -/
def Message.Confirms (message : Message) (expected : String) : Prop :=
  (message.responseCode = noError ∧ ∃ order, order.Perm (extractAnswers message.answers) ∧
    ByteSorted order ∧ String.intercalate "," order = expected) ∨
  (message.responseCode ≠ noError ∧ message.responseCode ≠ noSuchDomain ∧ expected = "")

theorem Message.confirms_iff {message : Message} {qname expected : String} :
    message.Confirms expected ↔
      ∃ answers, answersOf qname message = .ok answers ∧
        compareAnswers expected answers = .ok () := by
  simp only [answersOf_eq_ok_iff, compareAnswers_eq_ok_iff]
  constructor
  · rintro (⟨hcode, horder⟩ | ⟨hcode, hdomain, rfl⟩)
    · exact ⟨_, .inl ⟨hcode, rfl⟩, joinSorted_eq_iff.2 horder⟩
    · exact ⟨[], .inr ⟨hcode, hdomain, rfl⟩, joinSorted_nil⟩
  · rintro ⟨answers, ⟨hcode, rfl⟩ | ⟨hcode, hdomain, rfl⟩, hfound⟩
    · exact .inl ⟨hcode, joinSorted_eq_iff.1 hfound⟩
    · exact .inr ⟨hcode, hdomain, hfound.symm.trans joinSorted_nil⟩

theorem Message.not_confirms_of_noSuchDomain {message : Message} {expected : String}
    (h : message.responseCode = noSuchDomain) : ¬ message.Confirms expected := by
  rintro (⟨hcode, -⟩ | ⟨-, hdomain, -⟩)
  · rw [h] at hcode
    contradiction
  · exact hdomain h

/-! ### A run -/

/-- A run's question to a server and the reply to it: the arguments are given,
the name can be read, and what comes first from the server comes in time, decodes
and carries the number of the query. -/
structure Exchange (codec : Codec) (run : Invocation) (server : SocketAddress) where
  type : RecordType
  name : Name
  respond : Bytes → Delivery
  wait : Duration
  reply : Bytes
  message : Message
  lookup_ne : run.test.argument "lookup" ≠ ""
  type_token : type.token = run.test.argument "type"
  name_text : codec.readName (fqdn (run.test.argument "lookup")).toList = .ok name
  name_length : name.wireLength ≤ Name.maxLength
  reachable : run.network.datagrams server = .ok respond
  replied : respond (queryWire run.queryId name type) = .reply wait reply
  inTime : wait.nanos < run.timeout.nanos
  decoded : codec.decode (reply.take maxReply) = .ok message
  sameId : message.id = run.queryId

/-- There is one exchange at most. -/
theorem Exchange.message_eq {codec : Codec} {run : Invocation} {server : SocketAddress}
    (e e' : Exchange codec run server) : e.message = e'.message := by
  have htype : e.type = e'.type :=
    RecordType.token_injective (e.type_token.trans e'.type_token.symm)
  have hname : e.name = e'.name := by simpa [e.name_text] using e'.name_text
  have hrespond : e.respond = e'.respond := by simpa [e.reachable] using e'.reachable
  have hreply : e.reply = e'.reply := by
    have hreplied := e'.replied
    rw [← hrespond, ← hname, ← htype, e.replied] at hreplied
    exact (Delivery.reply.inj hreplied).2
  have hdecoded := e'.decoded
  rw [← hreply, e.decoded] at hdecoded
  exact Except.ok.inj hdecoded

theorem runProbe_eq_ok_iff {run : Invocation} {codec : Codec} :
    (runProbe run codec).result = .ok () ↔
      run.test.argument "lookup" ≠ "" ∧ ∃ type, type.token = run.test.argument "type" ∧
        ∃ answers, (lookUp run.network (joinHostPort run.target port) (run.test.argument "lookup")
            type run.timeout run.queryId codec).1 = .ok answers ∧
          compareAnswers (run.test.argument "result") answers = .ok () := by
  unfold runProbe
  by_cases hlookup : run.test.argument "lookup" = ""
  · simp [hlookup, Report.failure]
  · rw [if_neg hlookup]
    by_cases htoken : run.test.argument "type" = ""
    · -- an empty token is refused before it is looked up, and no type has one
      have hempty (type : RecordType) : type.token ≠ "" := by cases type <;> decide
      simp [htoken, Report.failure, hempty]
    · rw [if_neg htoken]
      simp only [← RecordType.parse_eq_ok_iff]
      cases RecordType.parse (run.test.argument "type") with
      | error e => simp [Report.failure]
      | ok type =>
        dsimp only
        refine Iff.trans bind_eq_ok_iff ?_
        simp [hlookup]

/-- However names are read and messages decoded, a run at a literal target passes
when there is an exchange with that address whose message confirms the
expectation, and in no other case. The denial of a name confirms nothing. -/
theorem runProbe_passes_iff (codec : Codec) (run : Invocation) {ip : IpAddress}
    (h : IpAddress.parse? run.target.toList = some ip) :
    ((runProbe run codec).result = .ok () ↔
      ∃ e : Exchange codec run ⟨ip, port⟩, e.message.Confirms (run.test.argument "result")) ∧
    ∀ e : Exchange codec run ⟨ip, port⟩, e.message.responseCode = noSuchDomain →
      (runProbe run codec).result ≠ .ok () := by
  have hserver := run.network.socketAddresses_joinHostPort h port
  have hpasses : (runProbe run codec).result = .ok () ↔
      ∃ e : Exchange codec run ⟨ip, port⟩, e.message.Confirms (run.test.argument "result") := by
    simp only [runProbe_eq_ok_iff, lookUp_eq_ok_iff hserver, readReply_eq_ok_iff]
    constructor
    · rintro ⟨hlookup, type, htype, answers, ⟨name, respond, wait, reply, hname, hlength, hreach,
        hreply, htime, message, hdecoded, hid, hanswers⟩, hmatch⟩
      exact ⟨⟨type, name, respond, wait, reply, message, hlookup, htype, hname, hlength, hreach,
        hreply, htime, hdecoded, hid⟩, Message.confirms_iff.2 ⟨answers, hanswers, hmatch⟩⟩
    · rintro ⟨e, hconfirms⟩
      obtain ⟨answers, hanswers, hmatch⟩ := Message.confirms_iff.1 hconfirms
      exact ⟨e.lookup_ne, e.type, e.type_token, answers, ⟨e.name, e.respond, e.wait, e.reply,
        e.name_text, e.name_length, e.reachable, e.replied, e.inTime, e.message, e.decoded,
        e.sameId, hanswers⟩, hmatch⟩
  refine ⟨hpasses, fun e hdomain hok => ?_⟩
  obtain ⟨e', hconfirms⟩ := hpasses.1 hok
  rw [e'.message_eq e] at hconfirms
  exact Message.not_confirms_of_noSuchDomain hdomain hconfirms

/-- Two addresses are found in the order of their bytes, `10.0.0.1` first; and the
same answers under the code that denies the name are not looked at. -/
theorem runProbe_passes_iff_two_addresses :
    let answer (a b c d : UInt8) : Bytes := [0, 0, 1, 0, 1, 0, 0, 0, 60, 0, 4, a, b, c, d]
    let reply (code : UInt8) : Bytes :=
      [0, 7, 0x81, code, 0, 0, 0, 2, 0, 0, 0, 0] ++ answer 9 9 9 9 ++ answer 10 0 0 1
    let network (code : UInt8) : Network :=
      { Network.unreachable with datagrams := fun _ => .ok fun _ => .reply ⟨1⟩ (reply code) }
    let test : Test := ⟨"127.0.0.1", "dns", "",
      [("lookup", "a"), ("type", "A"), ("result", "10.0.0.1,9.9.9.9")]⟩
    let run (code : UInt8) : Invocation := ⟨test, "127.0.0.1", ⟨2⟩, network code, ⟨0⟩, 7⟩
    IpAddress.parse? "127.0.0.1".toList = some (.v4 ⟨127, 0, 0, 1⟩) ∧
      (runProbe (run 0x80)).result = .ok () ∧ (runProbe (run 0x83)).result ≠ .ok () := by
  intro answer reply network test run
  have hliteral : IpAddress.parse? "127.0.0.1".toList = some (.v4 ⟨127, 0, 0, 1⟩) := by
    decide +kernel
  have hlookup : test.argument "lookup" ≠ "" := by decide
  have htoken : RecordType.a.token = test.argument "type" := by decide
  have hname : Name.ofText (fqdn (test.argument "lookup")).toList = .ok ⟨[[97]], true⟩ := by cbv
  have hlength : Name.wireLength ⟨[[97]], true⟩ ≤ Name.maxLength := by decide
  have htime : Duration.nanos ⟨1⟩ < Duration.nanos ⟨2⟩ := by decide
  let records : List Record := [⟨.root, 1, 60, some (.a ⟨9, 9, 9, 9⟩)⟩,
    ⟨.root, 1, 60, some (.a ⟨10, 0, 0, 1⟩)⟩]
  have hfound : Message.decode ((reply 0x80).take maxReply) = .ok ⟨7, 0, records⟩ := by cbv
  have hdenied : Message.decode ((reply 0x83).take maxReply) = .ok ⟨7, 3, records⟩ := by cbv
  have hanswers : extractAnswers records = ["9.9.9.9", "10.0.0.1"] := by cbv
  have hsorted : ByteSorted ["10.0.0.1", "9.9.9.9"] := by
    unfold ByteSorted
    decide
  refine ⟨hliteral, ?_, ?_⟩
  · let e : Exchange .standard (run 0x80) ⟨.v4 ⟨127, 0, 0, 1⟩, port⟩ :=
      ⟨.a, ⟨[[97]], true⟩, fun _ => .reply ⟨1⟩ (reply 0x80), ⟨1⟩, reply 0x80, ⟨7, 0, records⟩,
        hlookup, htoken, hname, hlength, rfl, rfl, htime, hfound, rfl⟩
    refine (runProbe_passes_iff .standard (run 0x80) hliteral).1.2 ⟨e, .inl ⟨rfl, ?_⟩⟩
    exact ⟨_, (List.Perm.swap _ _ _).trans (List.Perm.of_eq hanswers.symm), hsorted, by decide⟩
  · let e : Exchange .standard (run 0x83) ⟨.v4 ⟨127, 0, 0, 1⟩, port⟩ :=
      ⟨.a, ⟨[[97]], true⟩, fun _ => .reply ⟨1⟩ (reply 0x83), ⟨1⟩, reply 0x83, ⟨7, 3, records⟩,
        hlookup, htoken, hname, hlength, rfl, rfl, htime, hdenied, rfl⟩
    exact (runProbe_passes_iff .standard (run 0x83) hliteral).2 e rfl

end ServiceProbe.Dns
