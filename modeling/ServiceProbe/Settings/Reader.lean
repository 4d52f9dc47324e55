import ServiceProbe.Duration.Seconds
import ServiceProbe.Json.Ignored
import ServiceProbe.Settings
import ServiceProbe.Source

/-!
Settings files. A file is a JSON object whose members are fields of the settings;
members with other names are passed over, and a field that is not there keeps
its default. A list gives the fields in their order instead. Times are numbers of
seconds and at most a day, since a larger number is nearly always a count of
nanoseconds.
-/

namespace ServiceProbe

open Text Json Number

namespace Settings

inductive Field where
  | redisHost
  | redisSocket
  | redisPassword
  | redisDb
  | redisTimeout
  | timeout
  | ipv4
  | ipv6
  deriving DecidableEq, Repr

namespace Field

/-- The fields in their order. -/
def all : List Field :=
  [redisHost, redisSocket, redisPassword, redisDb, redisTimeout, timeout, ipv4, ipv6]

def name : Field → String
  | redisHost => "RedisHost"
  | redisSocket => "RedisSocket"
  | redisPassword => "RedisPassword"
  | redisDb => "RedisDB"
  | redisTimeout => "RedisDialTimeout"
  | timeout => "Timeout"
  | ipv4 => "IPv4"
  | ipv6 => "IPv6"

def ofName? (name : String) : Option Field :=
  all.find? fun field => field.name == name

end Field

/-- Why a value was refused: a fault with its place, or a cause whose place is
where the reader stands after it has tried to end the value around it. -/
inductive Refusal where
  | placed (fault : Fault)
  | unplaced (cause : Cause) (rest : List Char)

abbrev ReadField (α : Type) := List Char → Except Refusal (α × List Char)

def place {α : Type} : Except Fault α → Except Refusal α
  | .ok a => .ok a
  | .error fault => .error (.placed fault)

/-! ### Values of one type -/

def fractionText (isNegative : Bool) (x : Binary64) : String :=
  (if isNegative then "-" else "") ++ x.jsonText

def numeralText : Numeral → String
  | .natural n => s!"integer `{n}`"
  | .negative n => s!"integer `-{n}`"
  | .fraction isNegative x =>
    let shown := fractionText isNegative x
    s!"floating point `{shown}`"

/-- Reads a number, sign included. -/
def readSigned (s : List Char) : Except Fault (Numeral × List Char) :=
  match s with
  | '-' :: t => readNumeral true t
  | s => readNumeral false s

/-- Refuses a value of some other type than the one wanted. Lists and objects
are not read for that. -/
def refuseType (wanted : String) (s : List Char) : Fault :=
  let found (text : String) (rest : List Char) : Fault := .here (.invalidType text wanted) rest
  let word (text : String) (result : Except Fault (Unit × List Char)) : Fault :=
    match result with
    | .ok (_, rest) => found text rest
    | .error fault => fault
  match s with
  | [] => .next .endInValue []
  | c :: t =>
    if c = 'n' then word "null" (readWord "ull".toList t)
    else if c = 't' then word "boolean `true`" (readWord "rue".toList t)
    else if c = 'f' then word "boolean `false`" (readWord "alse".toList t)
    else if c = '[' then found "sequence" s
    else if c = '\x7b' then found "map" s
    else if c = '"' then
      match readString [] t with
      | .ok (value, rest) => found ("string " ++ String.ofList (quoted value)) rest
      | .error fault => fault
    else if c = '-' ∨ isDigit c then
      match readSigned s with
      | .ok (numeral, rest) => found (numeralText numeral) rest
      | .error fault => fault
    else .next .expectedValue s

def readText (s : List Char) : Except Fault (String × List Char) :=
  match skipSpace s with
  | '"' :: t => (readString [] t).map fun (value, rest) => (String.ofList value, rest)
  | t => .error (refuseType "a string" t)

def readFlag (s : List Char) : Except Fault (Bool × List Char) :=
  match skipSpace s with
  | 't' :: t => (readWord "rue".toList t).map fun (_, rest) => (true, rest)
  | 'f' :: t => (readWord "alse".toList t).map fun (_, rest) => (false, rest)
  | t => .error (refuseType "a boolean" t)

/-- Whether a text begins like a number. -/
def isNumeralStart (s : List Char) : Bool := s.head?.any fun c => c == '-' || isDigit c

def readIndex (s : List Char) : Except Fault (Int × List Char) :=
  let t := skipSpace s
  if !isNumeralStart t then .error (refuseType "i64" t)
  else
    match readSigned t with
    | .error fault => .error fault
    | .ok (.natural n, rest) =>
      if n ≤ maxDb then .ok (n, rest)
      else .error (.here (.invalidValue s!"integer `{n}`" "i64") rest)
    | .ok (.negative n, rest) => .ok (-(n : Int), rest)
    | .ok (numeral, rest) => .error (.here (.invalidType (numeralText numeral) "i64") rest)

/-- Reads a number as a binary fraction, with its sign. -/
def readFractional (s : List Char) : Except Fault ((Bool × Binary64) × List Char) :=
  let t := skipSpace s
  if !isNumeralStart t then .error (refuseType "f64" t)
  else
    (readSigned t).map fun (numeral, rest) =>
      match numeral with
      | .natural n => ((false, (Binary64.ofNat n).getD .zero), rest)
      | .negative n => ((true, (Binary64.ofNat n).getD .zero), rest)
      | .fraction isNegative x => ((isNegative, x), rest)

/-- The longest time that a file may give. -/
def maxSeconds : Nat := 86400

/-- A number of seconds as a time. -/
def timeOf (isNegative : Bool) (x : Binary64) : Except Cause Duration :=
  if !isNegative ∧ maxSeconds * Binary64.scale < x.units then .error (.longDuration x.plainText)
  else if isNegative ∧ x.units ≠ 0 then .error .negativeDuration
  else .ok ((Duration.ofSeconds? x).getD .zero)

def readTime : ReadField Duration := fun s => do
  let ((isNegative, x), rest) ← place (readFractional s)
  match timeOf isNegative x with
  | .ok d => return (d, rest)
  | .error cause => throw (.unplaced cause rest)

/-! ### Fields and layers -/

/-- Reads the value of a field into a layer. -/
def readField (field : Field) (layer : Overrides) : ReadField Overrides := fun s => do
  match field with
  | .redisHost =>
    let (value, rest) ← place (readText s)
    return ({ layer with redisHost := some value }, rest)
  | .redisSocket =>
    let (value, rest) ← place (readText s)
    return ({ layer with redisSocket := some value }, rest)
  | .redisPassword =>
    let (value, rest) ← place (readText s)
    return ({ layer with redisPassword := some value }, rest)
  | .redisDb =>
    let (value, rest) ← place (readIndex s)
    return ({ layer with redisDb := some value }, rest)
  | .redisTimeout =>
    let (value, rest) ← readTime s
    return ({ layer with redisTimeout := some value }, rest)
  | .timeout =>
    let (value, rest) ← readTime s
    return ({ layer with timeout := some value }, rest)
  | .ipv4 =>
    let (value, rest) ← place (readFlag s)
    return ({ layer with ipv4 := some value }, rest)
  | .ipv6 =>
    let (value, rest) ← place (readFlag s)
    return ({ layer with ipv6 := some value }, rest)

/-- What follows the colon of a member. -/
def skipColon (s : List Char) : Except Fault (List Char) :=
  match skipSpace s with
  | [] => .error (.next .endInObject [])
  | c :: t => if c = ':' then .ok t else .error (.next .expectedColon (c :: t))

/-- Goes to the next key of an object: what follows its opening quote, or none at
the end of the object, whose brace is still to come. -/
def nextKey (first : Bool) (s : List Char) : Except Fault (Option (List Char) × List Char) :=
  match skipSpace s with
  | [] => .error (.next .endInObject [])
  | '\x7d' :: t => .ok (none, '\x7d' :: t)
  | c :: t =>
    if first then
      if c = '"' then .ok (some t, t) else .error (.next .keyNotString (c :: t))
    else if c ≠ ',' then .error (.next .expectedCommaOrBrace (c :: t))
    else
      match skipSpace t with
      | [] => .error (.next .endInValue [])
      | '"' :: u => .ok (some u, u)
      | '\x7d' :: u => .error (.next .trailingComma ('\x7d' :: u))
      | u => .error (.next .keyNotString u)

/-- Reads the members of an object, up to its closing brace, with the number of
members left to read at most. `seen` are the fields that have been given. -/
def readMembers : (room : Nat) → (first : Bool) → (seen : List Field) → Overrides →
    ReadField Overrides
  | 0, _, _, layer, s => .ok (layer, s)
  | room + 1, first, seen, layer, s => do
    match ← place (nextKey first s) with
    | (none, rest) => return (layer, rest)
    | (some t, _) =>
      let (key, rest) ← place (readString [] t)
      match Field.ofName? (String.ofList key) with
      | none =>
        let rest ← place (skipColon rest)
        let rest ← place (skipValue rest)
        readMembers room false seen layer rest
      | some field =>
        if field ∈ seen then throw (.unplaced (.duplicateField field.name) rest)
        let rest ← place (skipColon rest)
        let (layer, rest) ← readField field layer rest
        readMembers room false (field :: seen) layer rest

/-- Goes to the next element of a list: where it begins, or none at the end. -/
def nextElement (first : Bool) (s : List Char) : Except Fault (Option (List Char) × List Char) :=
  match skipSpace s with
  | [] => .error (.next .endInList [])
  | ']' :: t => .ok (none, ']' :: t)
  | c :: t =>
    if first then .ok (some (c :: t), c :: t)
    else if c ≠ ',' then .error (.next .expectedCommaOrBracket (c :: t))
    else
      match skipSpace t with
      | [] => .error (.next .endInValue [])
      | ']' :: u => .error (.next .trailingComma (']' :: u))
      | u => .ok (some u, u)

/-- Reads the elements of a list into fields. -/
def readElements : List Field → (first : Bool) → Overrides → ReadField Overrides
  | [], _, layer, s => .ok (layer, s)
  | field :: fields, first, layer, s => do
    match ← place (nextElement first s) with
    | (none, rest) => return (layer, rest)
    | (some t, _) =>
      let (layer, rest) ← readField field layer t
      readElements fields false layer rest

/-- Where the reader stands after it has tried to end an object. -/
def leaveObject (s : List Char) : List Char :=
  match skipSpace s with
  | '\x7d' :: t => t
  | t => t

/-- The same for a list. -/
def leaveList (s : List Char) : List Char :=
  match skipSpace s with
  | ']' :: t => t
  | ',' :: t => skipSpace t
  | t => t

/-- Gives every refusal its place. -/
def settle {α : Type} (leave : List Char → List Char) : Except Refusal α → Except Fault α
  | .ok a => .ok a
  | .error (.placed fault) => .error fault
  | .error (.unplaced cause rest) => .error (.here cause (leave rest))

/-- What follows the end of a list whose fields have all been read. -/
def endList (s : List Char) : Except Fault (List Char) :=
  match skipSpace s with
  | [] => .error (.next .endInList [])
  | ']' :: t => .ok t
  | ',' :: t =>
    match skipSpace t with
    | ']' :: u => .error (.next .trailingComma (']' :: u))
    | u => .error (.next .trailingCharacters u)
  | t => .error (.next .trailingCharacters t)

/-- Reads a layer of settings at the front of a text. -/
def readLayer (s : List Char) : Except Fault (Overrides × List Char) :=
  match skipSpace s with
  | [] => .error (.next .endInValue [])
  | '\x7b' :: t => do
    let (layer, rest) ← settle leaveObject (readMembers (t.length + 1) true [] .none t)
    return (layer, leaveObject rest)
  | '[' :: t => do
    let (layer, rest) ← settle leaveList (readElements Field.all true .none t)
    return (layer, ← endList rest)
  | t => .error (refuseType "struct Settings" t)

/-- Reads a text that is a layer of settings and nothing else. -/
def layerOfJson (s : List Char) : Except Fault Overrides := do
  let (layer, rest) ← readLayer s
  match skipSpace rest with
  | [] => return layer
  | t => throw (.next .trailingCharacters t)

/-- Reads settings from a JSON text, or tells what is wrong with it. -/
def ofJson (s : List Char) : Except String Settings :=
  match layerOfJson s with
  | .ok layer => .ok (defaults.apply layer)
  | .error fault => .error (fault.message s)

/-- Reads settings from a file. -/
def ofFile (files : Files) (path : String) : Except ConfigError Settings :=
  match files.find path with
  | .error e => .error (.read path e)
  | .ok .directory => .error (.read path .isADirectory)
  | .ok .socket => .error (.read path .noSuchDevice)
  | .ok (.locked e) => .error (.read path e)
  | .ok (.file content) =>
    match decode? content with
    | none => .error (.read path .notUtf8)
    | some text => (ofJson text).mapError (.parse path)

/-- The settings to start from, and what was wrong with the file if the defaults
have to do without it. No path, or an empty one, means no file. -/
def load (files : Files) (path : Option String) : Settings × Option ConfigError :=
  match path.filter (· ≠ "") with
  | none => (defaults, none)
  | some path =>
    match ofFile files path with
    | .ok settings => (settings, none)
    | .error e => (defaults, some e)

end Settings

end ServiceProbe
