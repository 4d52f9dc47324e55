import ServiceProbe.Deadline
import ServiceProbe.Probe

/-!
Opening a secure connection: the addresses of the peer are tried in turn, and
the first that accepts is expected to show a certificate for the given name.
-/

namespace ServiceProbe.Tls

open Net

/-- How the certificate of a peer is dealt with. -/
structure Settings where
  verify : Bool
  /-- The name that the certificate has to stand for. -/
  serverName : Option String
  deriving DecidableEq, Repr

/-- The settings that a test asks for: the certificate has to stand for the host
that the line names, unless the line says otherwise. -/
def Settings.ofTest (test : Test) : Settings :=
  if test.argument "tls" = "insecure" then ⟨false, none⟩ else ⟨true, test.inputHost?⟩

/-- Tries addresses until one accepts a connection. -/
def dialAny (network : Network) (address : String) (deadline : Deadline) (now : Instant)
    (last : Option IoError) : List SocketAddress → Except ProbeError (SocketAddress × Peer)
  | [] =>
    match last with
    | some e => .error (.ofIo e deadline.budget)
    | none => .error (.network s!"no address for {address}")
  | socket :: others => do
    let _ ← deadline.remaining now
    match network.connections socket with
    | .ok peer => return (socket, peer)
    | .error e => dialAny network address deadline now (some e) others

def dial (network : Network) (address : String) (deadline : Deadline) (now : Instant) :
    Except ProbeError (SocketAddress × Peer) := do
  let sockets ← (network.socketAddresses address).mapError ProbeError.io
  dialAny network address deadline now none sockets

/-- The name to announce and to verify, if the settings ask for that. A name
with a NUL in it is a fault of the process, not of the peer. -/
def nameToVerify (settings : Settings) : Except ProbeError (Option (List Char)) :=
  if !settings.verify then .ok none
  else
    match settings.serverName with
    | none => .error (.invalidArgument "no server name to verify")
    | some name =>
      if '\x00' ∈ name.toList then .error (.internal none)
      else if canAnnounce name.toList then .ok (some name.toList)
      else .error (.tls none)

/-- Makes the connection to a peer secure. -/
def handshake (peer : Peer) (settings : Settings) (deadline : Deadline) :
    Except ProbeError Imap.Stream := do
  let name ← nameToVerify settings
  match peer with
  | .silent => throw (.timeout deadline.budget)
  | .plain => throw (.tls none)
  | .secure certificate stream =>
    match name.bind certificate.fault? with
    | some fault => throw (.tls (some ("certificate verification failed: " ++ fault.message)))
    | none => return stream

/-- A secure connection, or why there is none, and the peer that accepted. -/
def connect (network : Network) (address : String) (settings : Settings) (deadline : Deadline)
    (now : Instant) : Except ProbeError Imap.Stream × Option SocketAddress :=
  match dial network address deadline now with
  | .error e => (.error e, none)
  | .ok (socket, peer) => (handshake peer settings deadline, some socket)

/-- A connection that is closed again as soon as it is secure. -/
def connectOnly (network : Network) (address : String) (settings : Settings)
    (deadline : Deadline) (now : Instant) : Report :=
  match connect network address settings deadline now with
  | (.error e, socket) => ⟨.error e, socket.toList.map fun s => .connection s none⟩
  | (.ok _, socket) => ⟨.ok (), socket.toList.map fun s => .connection s (some [])⟩

end ServiceProbe.Tls
