import ServiceProbe.Net.Address
import ServiceProbe.Probe

/-!
Settings: where the job queue is and how probes are run. They come in layers: a
layer gives some of the values and leaves the others to the layer below it. At
the bottom are the defaults, above them a file and the command line.
-/

namespace ServiceProbe

/-- For a queue whose address has no port. -/
def defaultQueuePort : UInt16 := 6379

structure Settings where
  /-- The queue's address. -/
  redisHost : String
  /-- A unix socket, which goes before the address unless it is empty. -/
  redisSocket : String
  redisPassword : String
  redisDb : Int
  /-- How long connecting to the queue and each of its commands may take. -/
  redisTimeout : Duration
  /-- How long each probe run may take. -/
  timeout : Duration
  /-- Whether probes are run against addresses of each family. -/
  ipv4 : Bool
  ipv6 : Bool
  deriving DecidableEq, Repr

/-- One layer of settings. -/
structure Overrides where
  redisHost : Option String
  redisSocket : Option String
  redisPassword : Option String
  redisDb : Option Int
  redisTimeout : Option Duration
  timeout : Option Duration
  ipv4 : Option Bool
  ipv6 : Option Bool
  deriving DecidableEq, Repr

/-- The layer that leaves everything to the layer below. -/
def Overrides.none : Overrides :=
  ⟨.none, .none, .none, .none, .none, .none, .none, .none⟩

namespace Settings

/-- The limits of a database index. -/
def maxDb : Nat := 0x7FFFFFFFFFFFFFFF

def defaults : Settings where
  redisHost := "localhost:6379"
  redisSocket := ""
  redisPassword := ""
  redisDb := 0
  redisTimeout := .ofSeconds 5
  timeout := defaultTimeout
  ipv4 := true
  ipv6 := true

/-- Puts a layer on top. -/
def apply (settings : Settings) (layer : Overrides) : Settings where
  redisHost := layer.redisHost.getD settings.redisHost
  redisSocket := layer.redisSocket.getD settings.redisSocket
  redisPassword := layer.redisPassword.getD settings.redisPassword
  redisDb := layer.redisDb.getD settings.redisDb
  redisTimeout := layer.redisTimeout.getD settings.redisTimeout
  timeout := layer.timeout.getD settings.timeout
  ipv4 := layer.ipv4.getD settings.ipv4
  ipv6 := layer.ipv6.getD settings.ipv6

@[simp] theorem apply_none (settings : Settings) : settings.apply .none = settings := rfl

end Settings

/-! ### The queue's address -/

inductive QueueEndpoint where
  | tcp (host : String) (port : UInt16)
  | unix (path : String)
  deriving DecidableEq, Repr

/-- The text without brackets at its two ends. -/
def dropBrackets (s : List Char) : List Char :=
  ((s.dropWhile (· == '[')).reverse.dropWhile (· == ']')).reverse

/-- A host and a port. An address with two colons or more is a host alone,
unless what stands before the last of them ends in a bracket. -/
def splitQueueHost (s : List Char) : Except String (List Char × UInt16) :=
  match Net.Network.splitPort? s with
  | none => .ok (s, defaultQueuePort)
  | some (host, port) =>
    if ':' ∈ host ∧ host.getLast? ≠ some ']' then .ok (s, defaultQueuePort)
    else
      match Text.readPort port with
      | .ok n => .ok (host, n)
      | .error e =>
        let shown := String.ofList port
        .error s!"bad port '{shown}': {e.message}"

/-- Where the queue is. -/
def Settings.queueEndpoint (settings : Settings) : Except ConfigError QueueEndpoint :=
  if settings.redisSocket ≠ "" then .ok (.unix settings.redisSocket)
  else
    match splitQueueHost settings.redisHost.toList with
    | .error reason => .error (.invalidValue "redis-host" reason)
    | .ok (host, port) =>
      match dropBrackets host with
      | [] => .error (.invalidValue "redis-host" s!"no host in '{settings.redisHost}'")
      | name => .ok (.tcp (String.ofList name) port)

end ServiceProbe
