import ServiceProbe.Dns.Name
import ServiceProbe.Net.Address

/-!
Messages of the domain name system: queries as they are sent, and what is kept
of a response. Records whose data can be shown as an answer keep it; of all
others it is only known that they are there.
-/

namespace ServiceProbe.Dns

open Net

/-- The types of records that can be asked for. -/
inductive RecordType where
  | a
  | aaaa
  | mx
  | ns
  | txt
  deriving DecidableEq, Repr

namespace RecordType

def code : RecordType → UInt16
  | a => 1
  | ns => 2
  | mx => 15
  | txt => 16
  | aaaa => 28

def token : RecordType → String
  | a => "A"
  | aaaa => "AAAA"
  | mx => "MX"
  | ns => "NS"
  | txt => "TXT"

def all : List RecordType := [a, aaaa, mx, ns, txt]

/-- The type that a token names. -/
def ofToken? (token : String) : Option RecordType :=
  all.find? fun t => t.token == token

def parse (token : String) : Except ProbeError RecordType :=
  match ofToken? token with
  | some t => .ok t
  | none => .error (.invalidArgument s!"unsupported record to lookup '{token}'")

end RecordType

inductive RecordData where
  | a (address : Ipv4)
  | aaaa (address : Ipv6)
  | mx (preference : UInt16) (exchange : Name)
  | ns (name : Name)
  | txt (chunks : List Bytes)
  | other
  deriving DecidableEq, Repr

structure Record where
  name : Name
  typeCode : UInt16
  ttl : Nat
  /-- Absent where the record holds no data. -/
  data : Option RecordData
  deriving DecidableEq, Repr

structure Message where
  id : UInt16
  /-- The response code with the bits that an options record adds. -/
  responseCode : Nat
  answers : List Record
  deriving DecidableEq, Repr

def noError : Nat := 0

def noSuchDomain : Nat := 3

def wire16 (n : UInt16) : Bytes := [(n >>> 8).toUInt8, n.toUInt8]

/-- A recursive query for the records of one type. -/
def queryWire (id : UInt16) (name : Name) (type : RecordType) : Bytes :=
  wire16 id ++ [0x01, 0x00] ++ wire16 1 ++ wire16 0 ++ wire16 0 ++ wire16 0 ++
    name.wire ++ wire16 type.code ++ wire16 1

end ServiceProbe.Dns
