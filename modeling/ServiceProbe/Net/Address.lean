import ServiceProbe.Text.Escaped
import ServiceProbe.Text.Numeral

/-!
Internet addresses, the texts that stand for them and the one text each is
shown as. A reader takes an address from the front of a text and gives back
what follows it; `parse?` wants the whole text to be one.
-/

namespace ServiceProbe.Net

open Text

structure Ipv4 where
  a : UInt8
  b : UInt8
  c : UInt8
  d : UInt8
  deriving DecidableEq, Repr

structure Ipv6 where
  groups : List UInt16
  length_groups : groups.length = 8
  deriving DecidableEq, Repr

inductive IpAddress where
  | v4 (address : Ipv4)
  | v6 (address : Ipv6)
  deriving DecidableEq, Repr

structure SocketAddress where
  ip : IpAddress
  port : UInt16
  deriving DecidableEq, Repr

/-! ### Texts of addresses -/

def Ipv4.text (ip : Ipv4) : String :=
  String.intercalate "." ([ip.a, ip.b, ip.c, ip.d].map fun n => toString n.toNat)

/-- The IPv4 address inside an IPv4-mapped one, `::ffff:a.b.c.d`. -/
def Ipv6.mapped? (ip : Ipv6) : Option Ipv4 :=
  match ip.groups with
  | [0, 0, 0, 0, 0, 0xFFFF, g, h] =>
    some ⟨(g >>> 8).toUInt8, g.toUInt8, (h >>> 8).toUInt8, h.toUInt8⟩
  | _ => none

/-- The place and the length of the first of the longest runs of zeros. -/
def longestZeroRun (groups : List UInt16) : Nat × Nat :=
  let runs := (List.range groups.length).map fun i =>
    (i, ((groups.drop i).takeWhile (· == 0)).length)
  runs.foldl (fun best run => if best.2 < run.2 then run else best) (0, 0)

def groupsText (groups : List UInt16) : String :=
  String.intercalate ":" (groups.map fun g => String.ofList (lowerHex g.toNat))

/-- IPv4-mapped addresses end in dotted form; in all others the first longest
run of two zero groups or more is left out. -/
def Ipv6.text (ip : Ipv6) : String :=
  match ip.mapped? with
  | some v4 => "::ffff:" ++ v4.text
  | none =>
    let (start, count) := longestZeroRun ip.groups
    if count < 2 then groupsText ip.groups
    else groupsText (ip.groups.take start) ++ "::" ++ groupsText (ip.groups.drop (start + count))

def IpAddress.text : IpAddress → String
  | v4 ip => ip.text
  | v6 ip => ip.text

/-- A host and a port as one text. A host with a colon is an IPv6 literal and
stands in brackets; nothing else about it is looked at. -/
def joinHostPort (host : String) (port : UInt16) : String :=
  if ':' ∈ host.toList then s!"[{host}]:{port.toNat}" else s!"{host}:{port.toNat}"

/-! ### Reading addresses -/

def hexDigit? (c : Char) : Option Nat :=
  if '0' ≤ c ∧ c ≤ '9' then some (c.toNat - '0'.toNat)
  else if 'a' ≤ c ∧ c ≤ 'f' then some (c.toNat - 'a'.toNat + 10)
  else if 'A' ≤ c ∧ c ≤ 'F' then some (c.toNat - 'A'.toNat + 10)
  else none

/-- All digits at the front of a text, read as one number of at most `limit`. -/
def readNumber (digit? : Char → Option Nat) (radix limit : Nat) (s : List Char) :
    Option ((List Char × Nat) × List Char) :=
  let digits := s.takeWhile fun c => (digit? c).isSome
  let rest := s.drop digits.length
  let value := digits.foldl (fun n c => n * radix + (digit? c).getD 0) 0
  if digits = [] ∨ limit < value then none else some ((digits, value), rest)

/-- A part of a dotted address: up to 255, in one to three digits without a
leading zero. -/
def readOctet (s : List Char) : Option (UInt8 × List Char) :=
  match readNumber digit? 10 255 s with
  | none => none
  | some ((digits, value), rest) =>
    if 3 < digits.length ∨ (digits.head? = some '0' ∧ digits ≠ ['0']) then none
    else some (value.toUInt8, rest)

/-- What follows a given character. -/
def expect (c : Char) : List Char → Option (List Char)
  | [] => none
  | d :: rest => if d = c then some rest else none

def readIpv4 (s : List Char) : Option (Ipv4 × List Char) := do
  let (a, s) ← readOctet s
  let (b, s) ← readOctet (← expect '.' s)
  let (c, s) ← readOctet (← expect '.' s)
  let (d, s) ← readOctet (← expect '.' s)
  return (⟨a, b, c, d⟩, s)

/-- A group of an IPv6 address, one to four hexadecimal digits. -/
def readGroup (s : List Char) : Option (UInt16 × List Char) :=
  match readNumber hexDigit? 16 0xFFFF s with
  | none => none
  | some ((digits, value), rest) => if 4 < digits.length then none else some (value.toUInt16, rest)

/-- A dotted address as two groups. -/
def Ipv4.groups (ip : Ipv4) : List UInt16 :=
  [ip.a.toUInt16 <<< 8 ||| ip.b.toUInt16, ip.c.toUInt16 <<< 8 ||| ip.d.toUInt16]

/-- At most `room` groups with colons between them, the first one after a colon
too if `apart`. A dotted address may take the place of two groups and ends the
list; the flag says whether one did. -/
def readGroups : (room : Nat) → (apart : Bool) → List Char →
    (List UInt16 × Bool) × List Char
  | 0, _, s => (([], false), s)
  | room + 1, apart, s =>
    match if apart then expect ':' s else some s with
    | none => (([], false), s)
    | some t =>
      match if room = 0 then none else readIpv4 t with
      | some (ip, rest) => ((ip.groups, true), rest)
      | none =>
        match readGroup t with
        | none => (([], false), s)
        | some (g, rest) =>
          let ((groups, dotted), rest) := readGroups room true rest
          ((g :: groups, dotted), rest)

def Ipv6.ofGroups? (groups : List UInt16) : Option Ipv6 :=
  if h : groups.length = 8 then some ⟨groups, h⟩ else none

/-- Eight groups, or fewer with `::` for one zero group or more. A dotted
address stands only at the very end. -/
def readIpv6 (s : List Char) : Option (Ipv6 × List Char) := do
  let ((front, dotted), rest) := readGroups 8 false s
  match Ipv6.ofGroups? front with
  | some ip => return (ip, rest)
  | none =>
    if dotted then none
    else
      let rest ← expect ':' (← expect ':' rest)
      let ((back, _), rest) := readGroups (7 - front.length) false rest
      let zeros := List.replicate (8 - front.length - back.length) 0
      let ip ← Ipv6.ofGroups? (front ++ zeros ++ back)
      return (ip, rest)

/-- The value of a reader that takes the whole text. -/
def whole {α : Type} : Option (α × List Char) → Option α
  | some (value, []) => some value
  | _ => none

def IpAddress.parse? (s : List Char) : Option IpAddress :=
  (whole (readIpv4 s)).map .v4 <|> (whole (readIpv6 s)).map .v6

def readPortNumber (s : List Char) : Option (UInt16 × List Char) :=
  (readNumber digit? 10 65535 s).map fun ((_, value), rest) => (value.toUInt16, rest)

/-- Skips the zone of an IPv6 address, a number of 32 bits after `%`. -/
def skipZone (s : List Char) : Option (List Char) :=
  match s with
  | '%' :: s => (readNumber digit? 10 0xFFFFFFFF s).map (·.2)
  | s => some s

def readSocketV4 (s : List Char) : Option (SocketAddress × List Char) := do
  let (ip, s) ← readIpv4 s
  let (port, s) ← readPortNumber (← expect ':' s)
  return (⟨.v4 ip, port⟩, s)

def readSocketV6 (s : List Char) : Option (SocketAddress × List Char) := do
  let (ip, s) ← readIpv6 (← expect '[' s)
  let s ← expect ']' (← skipZone s)
  let (port, s) ← readPortNumber (← expect ':' s)
  return (⟨.v6 ip, port⟩, s)

def SocketAddress.parse? (s : List Char) : Option SocketAddress :=
  whole (readSocketV4 s) <|> whole (readSocketV6 s)

end ServiceProbe.Net
