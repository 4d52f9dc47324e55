import ServiceProbe.Text.Utf8

/-!
What can be wrong with a JSON text and where. A place is a number of bytes from
the start of the text; it is shown as a line and a column, which is the number
of bytes after the last line feed before the place.
-/

namespace ServiceProbe.Json

open Text

inductive Cause where
  | endInValue
  | endInObject
  | endInList
  | endInString
  | expectedValue
  | expectedWord
  | expectedColon
  | expectedCommaOrBrace
  | expectedCommaOrBracket
  | keyNotString
  | trailingComma
  | trailingCharacters
  | invalidNumber
  | numberOutOfRange
  | invalidEscape
  | unfinishedSurrogate
  | loneSurrogate
  | controlCharacter
  | invalidType (found wanted : String)
  | invalidValue (found wanted : String)
  | duplicateField (name : String)
  | longDuration (seconds : String)
  | negativeDuration
  deriving DecidableEq, Repr

def Cause.message : Cause → String
  | endInValue => "EOF while parsing a value"
  | endInObject => "EOF while parsing an object"
  | endInList => "EOF while parsing a list"
  | endInString => "EOF while parsing a string"
  | expectedValue => "expected value"
  | expectedWord => "expected ident"
  | expectedColon => "expected `:`"
  | expectedCommaOrBrace => "expected `,` or `\x7d`"
  | expectedCommaOrBracket => "expected `,` or `]`"
  | keyNotString => "key must be a string"
  | trailingComma => "trailing comma"
  | trailingCharacters => "trailing characters"
  | invalidNumber => "invalid number"
  | numberOutOfRange => "number out of range"
  | invalidEscape => "invalid escape"
  | unfinishedSurrogate => "unexpected end of hex escape"
  | loneSurrogate => "lone leading surrogate in hex escape"
  | controlCharacter => "control character (\\u0000-\\u001F) found while parsing a string"
  | invalidType found wanted => s!"invalid type: {found}, expected {wanted}"
  | invalidValue found wanted => s!"invalid value: {found}, expected {wanted}"
  | duplicateField name => s!"duplicate field `{name}`"
  | longDuration seconds =>
    s!"duration of {seconds} seconds is too large (durations are in seconds, not nanoseconds)"
  | negativeDuration => "cannot convert float seconds to Duration: value is negative"

/-- A cause with its place: `beyond` bytes after the start of `rest`, which is
what is left of the text there, but not after its end. -/
structure Fault where
  cause : Cause
  rest : List Char
  beyond : Nat
  deriving DecidableEq, Repr

namespace Fault

/-- A fault where the reader stands. -/
def here (cause : Cause) (rest : List Char) : Fault := ⟨cause, rest, 0⟩

/-- A fault in the byte after the reader. -/
def next (cause : Cause) (rest : List Char) : Fault := ⟨cause, rest, 1⟩

/-- The place of a fault in a text. -/
def offset (fault : Fault) (text : List Char) : Nat :=
  let total := byteLength text
  min total (total - byteLength fault.rest + fault.beyond)

/-- The line and the column of a place. -/
def lineAndColumn (text : List Char) (offset : Nat) : Nat × Nat :=
  let before := (encode text).take offset
  (before.count lineFeed + 1, (before.reverse.takeWhile (· != lineFeed)).length)

def message (fault : Fault) (text : List Char) : String :=
  let (line, column) := lineAndColumn text (fault.offset text)
  s!"{fault.cause.message} at line {line} column {column}"

end Fault

end ServiceProbe.Json
