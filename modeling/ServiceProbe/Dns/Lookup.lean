import ServiceProbe.Dns.Answers
import ServiceProbe.Dns.Wire
import ServiceProbe.Probe

/-!
Looking a name up at one server, and the probe that does it. The name is read
before anything else happens; a datagram is sent only if it fits, and the first
reply decides. A name that does not exist is an error, all other codes but
success count as a reply without answers. How names are read and messages
decoded is left to a `Codec`; unless told otherwise it is the standard one.
-/

namespace ServiceProbe.Dns

open Net

/-- Where name servers listen. -/
def port : UInt16 := 53

/-- The most bytes of a reply that are looked at. -/
def maxReply : Nat := 4096

/-- How the name to look up is read, and how the messages of servers are. -/
structure Codec where
  readName : List Char → Except Fault Name
  decode : Bytes → Except Fault Message

def Codec.standard : Codec := ⟨Name.ofText, Message.decode⟩

/-- Whether a reply carries the number of its query. -/
def checkId (id : UInt16) (message : Message) : Except ProbeError Message :=
  if message.id = id then .ok message
  else
    .error (.protocol
      s!"response id {message.id.toNat} does not match query id {id.toNat}")

/-- The answers of a message to a query for a name. -/
def answersOf (qname : String) (message : Message) : Except ProbeError (List String) :=
  if message.responseCode = noError then .ok (extractAnswers message.answers)
  else if message.responseCode = noSuchDomain then .error (.protocol s!"no such domain {qname}")
  else .ok []

/-- What the reply to a query means. -/
def readReply (id : UInt16) (qname : String) (reply : Bytes) (codec : Codec := .standard) :
    Except ProbeError (List String) := do
  let message ← (codec.decode (reply.take maxReply)).mapError Fault.toProbeError
  answersOf qname (← checkId id message)

/-- Asks a server, given as `host:port`, for the records of a name. -/
def lookUp (network : Network) (server name : String) (type : RecordType) (timeout : Duration)
    (id : UInt16) (codec : Codec := .standard) : Except ProbeError (List String) × List Trace :=
  let qname := fqdn name
  match codec.readName qname.toList with
  | .error fault => (.error fault.toProbeError, [])
  | .ok wireName =>
    match network.socketAddresses server with
    | .error e => (.error (.io e), [])
    | .ok [] => (.error (.network s!"no address for {server}"), [])
    | .ok (remote :: _) =>
      match network.datagrams remote with
      | .error e => (.error (.io e), [])
      | .ok respond =>
        if Name.maxLength < wireName.wireLength then
          (.error (Fault.longName wireName.wireLength).toProbeError, [])
        else
          let query := queryWire id wireName type
          ((respond query).within timeout >>= (readReply id qname · codec),
            [.datagram remote query])

/-- One run of the probe. -/
def runProbe (run : Invocation) (codec : Codec := .standard) : Report :=
  let name := run.test.argument "lookup"
  let typeToken := run.test.argument "type"
  if name = "" then .failure (.invalidArgument "no value to lookup specified")
  else if typeToken = "" then .failure (.invalidArgument "no record-type to lookup")
  else
    match RecordType.parse typeToken with
    | .error e => .failure e
    | .ok type =>
      let server := joinHostPort run.target port
      let (answers, traces) := lookUp run.network server name type run.timeout run.queryId codec
      ⟨answers.bind (compareAnswers (run.test.argument "result")), traces⟩

def usage : String := "
DNS Tester
----------
 The DNS tester allows you to confirm that the specified DNS server
 returns the results you expect.  It is invoked with input like this:

    ns.example.com must run dns with lookup test.example.com with type A with result '1.2.3.4'

 This test ensures that the DNS lookup of an A record for 'test.example.com'
 returns the single value 1.2.3.4

 Lookups are supported for A, AAAA, MX, NS, and TXT records.  If you expect
 there to be zero returning records, perhaps because you're ensuring that a
 service is IPv4-only you can specify that you require an empty result:

    ns.example.com must run dns with lookup www.example.com with type AAAA with result ''
"

/-- The name under which the probe is registered. -/
def protocol : String := "dns"

def probe : Probe where
  arguments := [
    ("type", .anyOf ["A", "AAAA", "MX", "NS", "TXT"]),
    ("lookup", .anything),
    ("result", .anything)]
  resolvesTarget := true
  usage := usage
  run _ run := .ok (runProbe run)

end ServiceProbe.Dns
