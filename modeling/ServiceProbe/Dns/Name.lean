import ServiceProbe.Dns.Fault
import ServiceProbe.Idn.Label
import ServiceProbe.Text.Blank
import ServiceProbe.Text.Numeric
import ServiceProbe.Text.Utf8

/-!
Domain names: lists of labels, which are bytes. A text is read into a name one
character at a time; dots divide labels, a backslash makes the next character
literal or begins the three octal digits of one. A name is shown with every
byte escaped that could be taken for something else.
-/

namespace ServiceProbe.Dns

open Text

structure Name where
  labels : List Bytes
  /-- Whether the name is complete and not relative to some other one. -/
  fqdn : Bool
  deriving DecidableEq, Repr

namespace Name

def root : Name := ⟨[], true⟩

/-- The bytes of the labels and one more for each label. -/
def dataLength (labels : List Bytes) : Nat :=
  labels.flatten.length + labels.length

/-- The length of a name in a message. -/
def wireLength (name : Name) : Nat := dataLength name.labels + 1

def maxLength : Nat := 255

def maxLabelLength : Nat := 63

/-- A name in a message. -/
def wire (name : Name) : Bytes :=
  name.labels.flatMap (fun label => label.length.toUInt8 :: label) ++ [0]

/-! ### Names from text -/

/-- Characters with which a label of a text may begin. -/
def isLabelStart (c : Char) : Bool :=
  c.isAlphanum || c == '_' || c == '*' || c == '.'

def isLabelRest (c : Char) : Bool :=
  c.isAlphanum || c == '_' || c == '-' || c == '.'

def isWellFormed : List Char → Bool
  | [] => false
  | c :: rest => isLabelStart c && rest.all isLabelRest

/-- A label of a text as bytes. -/
def readLabel (label : List Char) : Except Fault Bytes :=
  let bytes := encode label
  if maxLabelLength < bytes.length then .error (.longLabel bytes.length)
  else if isWellFormed label then .ok bytes
  else .error (.malformedLabel (String.ofList label))

/-- Where a reader of a text stands. -/
inductive Mode where
  | plain
  /-- After a backslash. -/
  | escaped
  /-- After the first octal digit. -/
  | octal1 (high : Nat)
  /-- After the second one. -/
  | octal2 (high middle : Nat)
  deriving DecidableEq, Repr

structure TextReader where
  labels : List Bytes
  /-- The label being read, in reverse. -/
  label : List Char
  mode : Mode
  deriving DecidableEq, Repr

/-- The value of an octal digit. Numeric characters that are none are illegal. -/
def octal (c : Char) : Except Fault Nat :=
  if '0' ≤ c ∧ c ≤ '7' then .ok (c.toNat - '0'.toNat) else .error (.illegalChar c)

/-- An octal digit, where only one can stand. -/
def octalOnly (c : Char) : Except Fault Nat :=
  if isNumeric c then octal c else .error (.unrecognizedChar c)

namespace TextReader

def start : TextReader := ⟨[], [], .plain⟩

/-- Ends a label. -/
def endLabel (r : TextReader) : Except Fault TextReader := do
  let label ← readLabel r.label.reverse
  let labels := r.labels ++ [label]
  if maxLength < dataLength labels then .error (.longName (dataLength labels))
  else return ⟨labels, [], .plain⟩

def feed (r : TextReader) (c : Char) : Except Fault TextReader :=
  match r.mode with
  | .plain =>
    if c = '.' then r.endLabel
    else if c = '\\' then .ok { r with mode := .escaped }
    else if isControl c || isBlank c then .error (.unrecognizedChar c)
    else .ok { r with label := c :: r.label }
  | .escaped =>
    if isNumeric c then (octal c).map fun high => { r with mode := .octal1 high }
    else .ok { r with label := c :: r.label, mode := .plain }
  | .octal1 high => (octalOnly c).map fun middle => { r with mode := .octal2 high middle }
  | .octal2 high middle =>
    (octalOnly c).map fun low =>
      { r with label := Char.ofNat (high * 64 + middle * 8 + low) :: r.label, mode := .plain }

end TextReader

/-- Reads a name. An unfinished escape at the end is dropped. -/
def ofText (s : List Char) : Except Fault Name := do
  if s = ['.'] then return root
  let r ← s.foldlM TextReader.feed TextReader.start
  let r ← if r.label = [] then .ok r else r.endLabel
  return ⟨r.labels, s.getLast? == some '.'⟩

/-! ### Texts of names -/

/-- Three octal digits. -/
def octalDigits (n : Nat) : List Char :=
  [n / 64, n / 8 % 8, n % 8].map Nat.digitChar

/-- A byte of a label; `first` says whether the label begins with it. -/
def byteText (first : Bool) (b : UInt8) : List Char :=
  let c := Char.ofNat b.toNat
  if c.isAlphanum || c == '_' || (c == '-' && !first) || (c == '*' && first) then [c]
  else if 0x20 < b && b < 0x7F then ['\\', c]
  else '\\' :: octalDigits b.toNat

def asciiLabelText : Bytes → List Char
  | [] => []
  | b :: rest => byteText true b ++ rest.flatMap (byteText false)

/-- A label; internationalised ones are shown in full where that is possible. -/
def labelText (label : Bytes) : List Char :=
  if (encode Idn.acePrefix).isPrefixOf label then
    (Idn.toUnicode? (decodeLossy label)).getD (asciiLabelText label)
  else asciiLabelText label

def text (name : Name) : String :=
  let labels := name.labels.map fun label => String.ofList (labelText label)
  let dots := if name.fqdn then "." else ""
  String.intercalate "." labels ++ dots

end Name

/-- A name completed to a full one. -/
def fqdn (name : String) : String :=
  if name.toList.getLast? = some '.' then name else name ++ "."

end ServiceProbe.Dns
