import ServiceProbe.Tls.Certificate
import ServiceProbe.Imap.Channel

/-!
The network as a probe meets it: what names resolve to, how datagrams are
answered and who accepts connections. Names and addresses written as literals
are resolved here and never looked up. All of this is a function of the name or
address asked for: that a name resolves otherwise, or a server answers otherwise,
when it is asked a second time in the same run cannot be expressed.
-/

namespace ServiceProbe.Net

open Text

/-- Who is at the other end of a connection. -/
inductive Peer where
  /-- It accepts the connection and never says anything. -/
  | silent
  /-- It does not speak TLS. -/
  | plain
  | secure (certificate : Tls.Certificate) (stream : Imap.Stream)

/-- What comes first after a datagram was sent, and after how long. -/
inductive Delivery where
  | silence
  | reply (wait : Duration) (bytes : Bytes)
  | failure (wait : Duration) (error : IoError)

namespace Delivery

/-- What has come before the time is over. -/
def within (timeout : Duration) : Delivery → Except ProbeError Bytes
  | silence => .error (.timeout timeout)
  | reply wait bytes => if wait.nanos < timeout.nanos then .ok bytes else .error (.timeout timeout)
  | failure wait e =>
    if wait.nanos < timeout.nanos then .error (.ofIo e timeout) else .error (.timeout timeout)

theorem within_eq_ok_iff {timeout : Duration} {delivery : Delivery} {bytes : Bytes} :
    delivery.within timeout = .ok bytes ↔
      ∃ wait, delivery = .reply wait bytes ∧ wait.nanos < timeout.nanos := by
  cases delivery with
  | silence => simp [within]
  | reply wait sent =>
    simp only [within, reply.injEq]
    split
    · next h =>
      constructor
      · intro heq
        cases heq
        exact ⟨wait, ⟨rfl, rfl⟩, h⟩
      · rintro ⟨_, ⟨-, rfl⟩, -⟩
        rfl
    · next h =>
      constructor
      · intro heq
        cases heq
      · rintro ⟨_, ⟨rfl, -⟩, hlt⟩
        exact absurd hlt h
  | failure wait e =>
    simp only [within]
    split <;> simp

end Delivery

structure Network where
  /-- The addresses of a name that is no literal. -/
  names : String → Except IoError (List IpAddress)
  /-- How datagrams to an address are answered. -/
  datagrams : SocketAddress → Except IoError (Bytes → Delivery)
  connections : SocketAddress → Except IoError Peer

namespace Network

def unknownName : IoError :=
  ⟨.other, "failed to lookup address information: Name or service not known"⟩

/-- A network in which nobody is there. -/
def unreachable : Network where
  names _ := .error unknownName
  datagrams _ := .error .connectionRefused
  connections _ := .error .connectionRefused

/-- The addresses of a host. -/
def addresses (network : Network) (host : String) : Except IoError (List IpAddress) :=
  match IpAddress.parse? host.toList with
  | some ip => .ok [ip]
  | none => if '\x00' ∈ host.toList then .error .nulInName else network.names host

/-- The text before the last colon and the text after it. -/
def splitPort? (s : List Char) : Option (List Char × List Char) :=
  if ':' ∈ s then
    let port := (s.reverse.takeWhile (· != ':')).reverse
    some (s.take (s.length - port.length - 1), port)
  else none

/-- The addresses of a text `host:port`. -/
def socketAddresses (network : Network) (address : String) :
    Except IoError (List SocketAddress) :=
  match SocketAddress.parse? address.toList with
  | some socket => .ok [socket]
  | none =>
    match splitPort? address.toList with
    | none => .error .notASocketAddress
    | some (host, portText) =>
      match readPort portText with
      | .error _ => .error .notAPort
      | .ok port =>
        (network.addresses (String.ofList host)).map fun ips => ips.map fun ip => ⟨ip, port⟩

end Network

end ServiceProbe.Net
