import ServiceProbe.Duration
import ServiceProbe.IoError
import ServiceProbe.Text.Numeral

/-!
What can go wrong, by who reports it: a probe, the reader of test lines, the
job queue, the reader of settings. Each error is a cause; its wording is in
`message` alone.
-/

namespace ServiceProbe

/-- How a probe run fails. A `tls` or `internal` failure without a text is one
whose words come from the system and are not determined here. -/
inductive ProbeError where
  | invalidArgument (reason : String)
  | network (reason : String)
  | timeout (budget : Duration)
  | io (error : IoError)
  | tls (reason : Option String)
  | protocol (reason : String)
  | mismatch (reason : String)
  | internal (reason : Option String)
  deriving DecidableEq, Repr

namespace ProbeError

def message : ProbeError → String
  | invalidArgument reason => "Invalid argument: " ++ reason
  | network reason => "Network error: " ++ reason
  | timeout budget => "Timeout error after " ++ budget.text
  | io error => "IO error: " ++ error.text
  | tls reason => "TLS error: " ++ reason.getD "handshake failed"
  | protocol reason => "Protocol error: " ++ reason
  | mismatch reason => reason
  | internal reason => "Internal error: " ++ reason.getD "task panicked"

/-- Whether the test itself was at fault. -/
def isArgumentError : ProbeError → Bool
  | invalidArgument _ => true
  | _ => false

/-- Whether the run ended because its time was over. -/
def isTimeout : ProbeError → Bool
  | timeout _ => true
  | io error => error.kind.isTimeout
  | _ => false

/-- A socket failure during a run with the given budget: one that comes from
the deadline is a timeout. -/
def ofIo (error : IoError) (budget : Duration) : ProbeError :=
  if error.kind.isTimeout then timeout budget else io error

def ofNumeral (error : Text.NumeralError) : ProbeError :=
  invalidArgument error.message

theorem isTimeout_ofIo (error : IoError) (budget : Duration) :
    (ofIo error budget).isTimeout = error.kind.isTimeout := by
  unfold ofIo
  split <;> simp_all [isTimeout]

end ProbeError

/-- What is wrong with a test line. -/
inductive LineFault where
  | malformedHeader (found : String)
  | unknownProtocol (protocol : String) (known : List String)
  | badPattern (protocol argument problem : String)
  | malformedArguments (rest : String)
  | unknownArgument (protocol argument : String)
  | invalidValue (argument value pattern : String)
  | repeatedArgument (argument : String)
  deriving DecidableEq, Repr

def LineFault.message : LineFault → String
  | malformedHeader found => s!"expected '<target> must run <protocol>', found '{found}'"
  | unknownProtocol protocol known =>
    let names := String.intercalate ", " known
    s!"unknown protocol '{protocol}' (known: {names})"
  | badPattern protocol argument problem =>
    s!"protocol '{protocol}' declares a bad pattern for '{argument}': {problem}"
  | malformedArguments rest => s!"cannot parse arguments near '{rest}'"
  | unknownArgument protocol argument =>
    s!"protocol '{protocol}' does not accept argument '{argument}'"
  | invalidValue argument value pattern =>
    s!"value '{value}' for argument '{argument}' does not match '{pattern}'"
  | repeatedArgument argument => s!"argument '{argument}' given more than once"

/-- What stops the reading of tests: a line at fault, by its number, or a
source that cannot be read. -/
inductive ParseError where
  | inLine (number : Nat) (fault : LineFault)
  | read (source : String) (error : IoError)
  deriving DecidableEq, Repr

def ParseError.message : ParseError → String
  | inLine number fault => s!"line {number}: {fault.message}"
  | read source error => s!"failed to read {source}: {error.text}"

inductive QueueError where
  | connection (reason : String)
  | command (reason : String)
  | timeout (limit : Duration)
  deriving DecidableEq, Repr

namespace QueueError

def message : QueueError → String
  | connection reason => "Queue connection failed: " ++ reason
  | command reason => "Queue command failed: " ++ reason
  | timeout limit => "Queue connection timed out after " ++ limit.text

/-- A failure of the connection under a command. -/
def ofIo (error : IoError) : QueueError :=
  if error.kind.isTimeout then command ("timeout: " ++ error.text) else connection error.text

end QueueError

inductive ConfigError where
  | read (path : String) (error : IoError)
  | parse (path problem : String)
  | invalidValue (flag reason : String)
  deriving DecidableEq, Repr

def ConfigError.message : ConfigError → String
  | read path error => s!"Failed to read configuration file {path}: {error.text}"
  | parse path problem => s!"Failed to parse configuration file {path}: {problem}"
  | invalidValue flag reason => s!"Invalid value for {flag}: {reason}"

end ServiceProbe
