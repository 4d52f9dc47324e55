import ServiceProbe.Dns.Message

/-!
Reading messages. A reader stands at a position of a message; reading a part
moves it on, also when the part turns out to be broken, because the length of a
record's data is judged by how far the reader went. Names may continue at an
earlier place of the message; every jump goes back before the part it comes
from, so names end. Data of a type without a layout here is taken as it is, also
where a reader that knows the type would refuse it.
-/

namespace ServiceProbe.Dns

open Text Net

/-- Readers of a part of a message: from the message and a position to the part
or a fault, and the position reached. -/
abbrev Wire (α : Type) := ReaderT (Array UInt8) (ExceptT Fault (StateM Nat)) α

namespace Wire

/-- Runs a reader at the start of a message. -/
def run {α : Type} (reader : Wire α) (message : Array UInt8) : Except Fault α :=
  (reader message 0).1

/-- Runs a reader and gives back its result as a value, with the bytes it went
over. -/
def measured {α : Type} (reader : Wire α) : Wire (Except Fault α × Nat) := fun message start =>
  let (result, stop) := reader message start
  (.ok (result, stop - start), stop)

def fail {α : Type} (fault : Fault) : Wire α := throw fault

/-- The number of bytes ahead. -/
def remaining : Wire Nat := fun message position => (.ok (message.size - position), position)

/-- A number of bytes; nothing is read if there are not so many. -/
def bytes (count : Nat) : Wire Bytes := fun message position =>
  if message.size < position + count then (.error .endOfInput, position)
  else (.ok (message.extract position (position + count)).toList, position + count)

/-- A number of the given count of bytes, the highest first. -/
def number (count : Nat) : Wire Nat := do
  return (← bytes count).foldl (fun n b => n * 256 + b.toNat) 0

def word : Wire UInt16 := do
  return (← number 2).toUInt16

/-- A length byte and so many bytes. -/
def string : Wire Bytes := do
  bytes (← number 1)

/-- What a list of labels is when it is complete. -/
def finishLabels (labels : List Bytes) : Except Fault (List Bytes) :=
  let length := max 1 labels.length + labels.flatten.length
  if Name.maxLength ≤ length then .error (.longName length) else .ok labels

/-- Reads the labels of a name from `position` on. `start` is where this part of
the name begins, and `bound` the place that it may not reach: where the part
that led here begins. -/
def labelsFrom (message : Array UInt8) (start position : Nat) (bound : Option Nat)
    (labels : List Bytes) : Except Fault (List Bytes) × Nat :=
  match bound.filter (· ≤ position) with
  | some other => (.error (.overlappingLabels start other), position)
  | none =>
    match _hbyte : message[position]? with
    | none => (.error .endOfInput, position)
    | some byte =>
      if byte = 0 then (finishLabels labels, position + 1)
      else if 0xC0 ≤ byte then
        match message[position + 1]? with
        | none => (.error .endOfInput, position)
        | some low =>
          let target := (byte &&& 0x3F).toNat * 256 + low.toNat
          if _hback : target < start then
            let (result, _) := labelsFrom message target target (some start) labels
            (result.bind finishLabels, position + 2)
          else (.error (.forwardPointer position target), position + 2)
      else if 0x40 ≤ byte then (.error (.unrecognizedLabel byte), position)
      else
        let stop := position + 1 + byte.toNat
        if message.size < stop then (.error .endOfInput, position + 1)
        else
          let labels := labels ++ [(message.extract (position + 1) stop).toList]
          if Name.maxLength < Name.dataLength labels then (.error (.longName byte.toNat), stop)
          else labelsFrom message start stop bound labels
termination_by (start, message.size - position)
decreasing_by
  · exact Prod.Lex.left _ _ _hback
  · have := (Array.getElem?_eq_some_iff.1 _hbyte).1
    exact Prod.Lex.right _ (by omega)

def name : Wire Name := fun message position =>
  let (result, stop) := labelsFrom message position position none []
  (result.map fun labels => ⟨labels, true⟩, stop)

/-- A dotted address. -/
def ipv4 : Wire Ipv4 := do
  let a ← number 1
  let b ← number 1
  let c ← number 1
  let d ← number 1
  return ⟨a.toUInt8, b.toUInt8, c.toUInt8, d.toUInt8⟩

def words : Nat → Wire (List UInt16)
  | 0 => return []
  | n + 1 => do
    let first ← word
    let rest ← words n
    return first :: rest

def ipv6 : Wire (Option RecordData) := do
  return (Ipv6.ofGroups? (← words 8)).map .aaaa

/-- Strings until `count` bytes or more have been read. -/
def strings (count : Nat) : Wire (List Bytes) := fun message position =>
  go message position (position + count) []
where
  go (message : Array UInt8) (position stop : Nat) (read : List Bytes) :
      Except Fault (List Bytes) × Nat :=
    if stop ≤ position then (.ok read.reverse, position)
    else
      match _hbyte : message[position]? with
      | none => (.error .endOfInput, position)
      | some byte =>
        let after := position + 1 + byte.toNat
        if message.size < after then (.error .endOfInput, position + 1)
        else
          go message after stop ((message.extract (position + 1) after).toList :: read)
  termination_by message.size - position
  decreasing_by
    have := (Array.getElem?_eq_some_iff.1 _hbyte).1
    omega

/-- Options until `count` bytes or more have been read; each is a code, a length
and data. Their contents are not kept. -/
def options (count : Nat) : Wire Unit := fun message position =>
  go message position (position + count)
where
  go (message : Array UInt8) (position stop : Nat) : Except Fault Unit × Nat :=
    if stop ≤ position then (.ok (), position)
    else if _hcode : message.size < position + 2 then (.error .endOfInput, position)
    else if stop ≤ position + 2 then (.ok (), position + 2)
    else
      match message[position + 2]?, message[position + 3]? with
      | some high, some low =>
        let length := high.toNat * 256 + low.toNat
        if count < length then (.error .longOption, position + 4)
        else
          let after := min (position + 4 + length) (max stop (position + 4))
          if message.size < after then (.error .endOfInput, message.size)
          else go message after stop
      | _, _ => (.error .endOfInput, position + 2)
  termination_by message.size - position
  decreasing_by omega

/-- The parts that some further types of data consist of. -/
inductive Part where
  | name
  | string
  | number (bytes : Nat)

def skip : List Part → Wire Unit
  | [] => return ()
  | .name :: parts => do
    let _ ← name
    skip parts
  | .string :: parts => do
    let _ ← string
    skip parts
  | .number count :: parts => do
    let _ ← number count
    skip parts

/-- The layout of data that is read and not kept, by type code. -/
def layout? : Nat → Option (List Part)
  | 5 => some [.name]
  | 6 => some ([.name, .name] ++ List.replicate 5 (.number 4))
  | 12 => some [.name]
  | 13 => some [.string, .string]
  | 33 => some [.number 2, .number 2, .number 2, .name]
  | _ => none

/-- The code of the type of options records. -/
def optionsCode : Nat := 41

/-- The data of a record, by the code of its type and its length. -/
def data (code length : Nat) : Wire (Option RecordData) := do
  match code with
  | 1 => return some (.a (← ipv4))
  | 2 => return some (.ns (← name))
  | 15 =>
    let preference ← word
    return some (.mx preference (← name))
  | 16 => return some (.txt (← strings length))
  | 28 => ipv6
  | _ =>
    if code = optionsCode then options length
    else
      match layout? code with
      | some parts => skip parts
      | none => let _ ← bytes length
    return some .other

/-- Types that can only be asked for. -/
def isQueryOnly (code : Nat) : Bool :=
  code == 251 || code == 252 || code == 255

/-- The data of a record: a reader that did not go over exactly its length is at
fault whatever it found. -/
def boundedData (code length : Nat) : Wire (Option RecordData) := do
  if isQueryOnly code then fail (.unknownType code)
  let (result, consumed) ← measured (data code length)
  if consumed ≠ length then fail (.dataLength consumed length)
  match result with
  | .ok data => return data
  | .error fault => fail fault

def record : Wire Record := do
  let name ← name
  let typeCode ← word
  if typeCode.toNat = optionsCode ∧ name.labels ≠ [] then fail (.rootRequired name.text)
  let _ ← word
  let ttl ← number 4
  let length ← number 2
  let ahead ← remaining
  if ahead < length then fail (.longData length ahead)
  let data ← if length = 0 then pure none else boundedData typeCode.toNat length
  return ⟨name, typeCode, ttl, data⟩

def question : Wire Unit := do
  let _ ← name
  let _ ← word
  let _ ← word

def questions : Nat → Wire Unit
  | 0 => return ()
  | n + 1 => do
    question
    questions n

/-- A number of records; with the earlier ones in reverse. -/
def records : Nat → List Record → Wire (List Record)
  | 0, earlier => return earlier.reverse
  | n + 1, earlier => do
    let record ← record
    records n (record :: earlier)

/-- The additional section; of its records the options record counts, of which
there may be one. -/
def additional : Nat → Option Record → Wire (Option Record)
  | 0, options => return options
  | n + 1, options => do
    let record ← record
    if record.typeCode.toNat = optionsCode then
      if options.isSome then fail .secondOptions
      additional n (some record)
    else additional n options

/-- The operation of a message. -/
def operation (flags : Nat) : Nat := flags / 8 % 16

def isOperation (code : Nat) : Bool :=
  code == 0 || code == 2 || code == 4 || code == 5

def message : Wire Message := do
  let id ← word
  let flags ← number 1
  let operation := operation flags
  if !isOperation operation then fail (.unknownOperation operation)
  let low ← number 1
  let questionCount ← number 2
  let answerCount ← number 2
  let authorityCount ← number 2
  let additionalCount ← number 2
  questions questionCount
  let answers ← records answerCount []
  let _ ← records authorityCount []
  let options ← additional additionalCount none
  let high := (options.map (·.ttl)).getD 0 / 0x1000000
  return ⟨id, high * 16 + low % 16, answers⟩

end Wire

def Message.decode (bytes : Bytes) : Except Fault Message :=
  Wire.message.run bytes.toArray

end ServiceProbe.Dns
