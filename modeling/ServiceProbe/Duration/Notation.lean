import ServiceProbe.Duration.Seconds
import ServiceProbe.Error
import ServiceProbe.Text.Blank

/-!
The notation of durations on the command line: a decimal number and directly
after it one of the units `ms`, `s`, `m` and `h`, or none for seconds. Blanks
around it do not count.
-/

namespace ServiceProbe.Duration

open Number Text

inductive TimeUnit where
  | seconds
  | milliseconds
  | minutes
  | hours
  deriving DecidableEq, Repr

namespace TimeUnit

def ofText? (s : List Char) : Option TimeUnit :=
  match String.ofList s with
  | "" | "s" => some seconds
  | "ms" => some milliseconds
  | "m" => some minutes
  | "h" => some hours
  | _ => none

/-- A number of units in seconds. -/
def toSeconds (x : Binary64) : TimeUnit → Option Binary64
  | seconds => some x
  | milliseconds => (Binary64.ofNat 1000).bind x.div
  | minutes => (Binary64.ofNat 60).bind x.mul
  | hours => (Binary64.ofNat 3600).bind x.mul

end TimeUnit

def isNumberChar (c : Char) : Bool := (digit? c).isSome || c == '.'

/-- A number of decimal digits with at most one point and at least one digit:
the digits as one number and how many of them stand after the point. -/
def readDecimal? (s : List Char) : Option (Nat × Nat) :=
  let whole := s.takeWhile (· != '.')
  let fraction := (s.dropWhile (· != '.')).drop 1
  let digits := whole ++ fraction
  if digits = [] ∨ ¬ digits.all (fun c => (digit? c).isSome) then none
  else some (digits.foldl (fun n c => n * 10 + (digit? c).getD 0) 0, fraction.length)

/-- Reads a duration from a trimmed text. -/
def ofNotation? (s : List Char) : Option Duration := do
  let (digits, places) ← readDecimal? (s.takeWhile isNumberChar)
  let number ← Binary64.ofDecimal digits places
  let unit ← TimeUnit.ofText? (s.dropWhile isNumberChar)
  ofSeconds? (← unit.toSeconds number)

def parse (value : String) : Except ConfigError Duration :=
  let s := trim value.toList
  match ofNotation? s with
  | some d => .ok d
  | none =>
    let shown := String.ofList s
    .error (.invalidValue "duration" s!"cannot parse '{shown}' (try 500ms, 5s or 2m)")

end ServiceProbe.Duration
