import ServiceProbe.Error
import ServiceProbe.Text.Escaped
import ServiceProbe.Text.Numeral
import ServiceProbe.Text.Utf8

/-!
What a queue server replies. A reply is a value or an error; values are shown in
messages, and can be asked for a text or a number.
-/

namespace ServiceProbe.Redis

open Text

inductive Value where
  | okay
  | status (text : List Char)
  | integer (n : Int)
  | data (bytes : Bytes)
  | null
  | list (values : List Value)

/-- How a request fails. -/
inductive Failure where
  | server (kind : String) (detail : Option String)
  | extension (code : String) (detail : Option String)
  | typeMismatch (why : String) (shown : String)
  | invalidUtf8
  /-- A reply made no sense. -/
  | malformed (report : String)
  | authentication
  | database
  | driverEnded
  | io (error : IoError)

namespace Failure

def message : Failure → String
  | server kind (some detail) => s!"An error was signalled by the server - {kind}: {detail}"
  | server kind none => s!"An error was signalled by the server- {kind}"
  | extension code detail =>
    code ++ ": " ++ detail.getD "Unknown extension error encountered"
  | typeMismatch why shown =>
    s!"Response was of incompatible type - TypeError: \"{why}\" (response was {shown})"
  | invalidUtf8 => "Invalid UTF-8- TypeError"
  | malformed report => "parse error - ParseError: " ++ report
  | authentication => "Password authentication failed- AuthenticationFailed"
  | database => "Redis server refused to switch database- ResponseError"
  | driverEnded => "Multiplexed connection driver unexpectedly terminated- IoError"
  | io error => error.text

/-- What the server said beyond the kind of its error. -/
def detail? : Failure → Option String
  | server _ detail => detail
  | extension _ detail => detail
  | _ => none

/-- A failure of the connection is told from one of the command. -/
def toQueueError : Failure → QueueError
  | io error => .ofIo error
  | driverEnded => .connection driverEnded.message
  | other => .command other.message

/-- The connection is gone. -/
def brokenPipe : Failure := .io ⟨.brokenPipe, "broken pipe"⟩

end Failure

/-- A reply as a request gets it. -/
abbrev Reply := Except Failure Value

/-- Kinds of errors by the codes that servers use for them. -/
def errorKinds : List (String × String) := [
  ("ERR", "ResponseError"), ("EXECABORT", "ExecAbortError"), ("LOADING", "BusyLoadingError"),
  ("NOSCRIPT", "NoScriptError"), ("MOVED", "Moved"), ("ASK", "Ask"), ("TRYAGAIN", "TryAgain"),
  ("CLUSTERDOWN", "ClusterDown"), ("CROSSSLOT", "CrossSlot"), ("MASTERDOWN", "MasterDown"),
  ("READONLY", "ReadOnly"), ("NOTBUSY", "NotBusy")]

/-- The error that a line stands for: a code and, after a space, a detail. -/
def Failure.ofLine (line : List Char) : Failure :=
  let code := String.ofList (line.takeWhile (· != ' '))
  let detail := match line.dropWhile (· != ' ') with
    | [] => none
    | _ :: rest => some (String.ofList rest)
  match errorKinds.lookup code with
  | some kind => .server kind detail
  | none => .extension code detail

/-! ### Values -/

mutual

/-- A value as messages show it. -/
def Value.shown : Value → String
  | .okay => "ok"
  | .status text => "status(" ++ String.ofList (quoted text) ++ ")"
  | .integer n => s!"int({n})"
  | .data bytes =>
    match decode? bytes with
    | some text => "string-data('" ++ String.ofList (quoted text) ++ "')"
    | none =>
      "binary-data([" ++ String.intercalate ", " (bytes.map fun b => toString b.toNat) ++ "])"
  | .null => "nil"
  | .list values => "bulk(" ++ String.intercalate ", " (Value.allShown values) ++ ")"

def Value.allShown : List Value → List String
  | [] => []
  | value :: values => value.shown :: Value.allShown values

end

/-- The greatest number; the least is one further from zero. -/
def maxInteger : Nat := 0x7FFFFFFFFFFFFFFF

namespace Value

/-- A value where a text is wanted. -/
def asText (value : Value) : Except Failure String :=
  match value with
  | okay => .ok "OK"
  | status text => .ok (String.ofList text)
  | data bytes =>
    match decode? bytes with
    | some text => .ok (String.ofList text)
    | none => .error .invalidUtf8
  | value => .error (.typeMismatch "Response type not string compatible." value.shown)

/-- A value where a number is wanted; a text may stand for one. -/
def asInteger (value : Value) : Except Failure Int :=
  let ofText (text : List Char) : Except Failure Int :=
    (readInt maxInteger text).mapError fun _ =>
      .typeMismatch "Could not convert from string." value.shown
  match value with
  | integer n => .ok n
  | status text => ofText text
  | data bytes =>
    match decode? bytes with
    | some text => ofText text
    | none => .error .invalidUtf8
  | value => .error (.typeMismatch "Response type not convertible to numeric." value.shown)

end Value

end ServiceProbe.Redis
