/-!
Whole numbers written in decimal, read into a bounded range. A numeral is an
optional sign and one digit or more; `+` may stand before every number, `-`
only where negative numbers are in the range. Characters are judged from the
left, so the first one at fault decides the error, and a character that is no
digit is noticed before the value that it would have made too large.
-/

namespace ServiceProbe.Text

inductive NumeralError where
  | empty
  | invalidDigit
  | tooLarge
  | tooSmall
  deriving DecidableEq, Repr

def NumeralError.message : NumeralError → String
  | .empty => "cannot parse integer from empty string"
  | .invalidDigit => "invalid digit found in string"
  | .tooLarge => "number too large to fit in target type"
  | .tooSmall => "number too small to fit in target type"

def digit? (c : Char) : Option Nat :=
  if '0' ≤ c ∧ c ≤ '9' then some (c.toNat - '0'.toNat) else none

/-- Reads digits after a value `n`, failing with `outside` as soon as the value
exceeds `limit`. -/
def readDigits (limit : Nat) (outside : NumeralError) : Nat → List Char → Except NumeralError Nat
  | n, [] => .ok n
  | n, c :: s =>
    match digit? c with
    | none => .error .invalidDigit
    | some d =>
      if limit < n * 10 + d then .error outside else readDigits limit outside (n * 10 + d) s

/-- A numeral's digits, of which there must be one. -/
def readMagnitude (limit : Nat) (outside : NumeralError) (s : List Char) :
    Except NumeralError Nat :=
  if s = [] then .error .invalidDigit else readDigits limit outside 0 s

/-- Reads a number of at most `limit`. -/
def readNat (limit : Nat) (s : List Char) : Except NumeralError Nat :=
  match s with
  | [] => .error .empty
  | '+' :: digits => readMagnitude limit .tooLarge digits
  | digits => readMagnitude limit .tooLarge digits

/-- Reads a number from `-limit - 1` to `limit`. -/
def readInt (limit : Nat) (s : List Char) : Except NumeralError Int :=
  match s with
  | '-' :: digits => (readMagnitude (limit + 1) .tooSmall digits).map fun n => -(n : Int)
  | s => (readNat limit s).map Int.ofNat

/-- A port number. -/
def readPort (s : List Char) : Except NumeralError UInt16 :=
  (readNat 65535 s).map Nat.toUInt16

end ServiceProbe.Text
