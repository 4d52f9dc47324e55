import ServiceProbe.Json.Word
import ServiceProbe.Number.Shortest

/-!
Numbers of JSON texts. Whole numbers that fit into 64 bits are kept as they
are. All others become binary fractions: the digits are read as one number, as
far as it fits into 64 bits, and then multiplied or divided by a power of ten,
so that up to three roundings take part.
-/

namespace ServiceProbe.Json

open Text Number

inductive Numeral where
  | natural (n : Nat)
  /-- The negative of a number. -/
  | negative (n : Nat)
  | fraction (isNegative : Bool) (value : Binary64)
  deriving DecidableEq, Repr

def maxSignificand : Nat := 0xFFFFFFFFFFFFFFFF

def maxExponentDigits : Nat := 0x7FFFFFFF

/-- Takes digits into a number while it does not exceed a limit: the number, how
many digits were taken, and the rest. -/
def takeDigits (limit : Nat) (n count : Nat) : List Char → Nat × Nat × List Char
  | [] => (n, count, [])
  | c :: s =>
    match digit? c with
    | none => (n, count, c :: s)
    | some d =>
      if limit < n * 10 + d then (n, count, c :: s)
      else takeDigits limit (n * 10 + d) (count + 1) s

def isDigit (c : Char) : Bool := (digit? c).isSome

def startsWithDigit (s : List Char) : Bool := s.head?.any isDigit

def skipDigits (s : List Char) : List Char := s.dropWhile isDigit

/-- Powers of ten up to this one are multiplied with directly. -/
def maxTenPow : Nat := 308

/-- A value divided several times by the largest power. -/
def divideRepeatedly : (times : Nat) → Binary64 → Option Binary64
  | 0, x => some x
  | times + 1, x =>
    if x.units = 0 then some x
    else ((Binary64.tenPow maxTenPow).bind x.div).bind (divideRepeatedly times)

/-- A value times a power of ten; none if it becomes too large. By more than the
largest power it is divided in several steps. -/
def scaleTen (x : Binary64) (exponent : Int) : Option Binary64 :=
  let size := exponent.natAbs
  if 0 ≤ exponent then
    if size ≤ maxTenPow then (Binary64.tenPow size).bind x.mul
    else if x.units = 0 then some x
    else none
  else
    let steps := (size - 1) / maxTenPow
    (divideRepeatedly steps x).bind fun y =>
      (Binary64.tenPow (size - steps * maxTenPow)).bind y.div

/-- Ends a number that is no whole one. -/
def finishFraction (isNegative : Bool) (significand : Nat) (exponent : Int) (rest : List Char) :
    Except Fault (Numeral × List Char) :=
  match (Binary64.ofNat significand).bind fun x => scaleTen x exponent with
  | some x => .ok (.fraction isNegative x, rest)
  | none => .error (.here .numberOutOfRange rest)

/-- Ends a number whose exponent has too many digits. -/
def hugeExponent (isNegative : Bool) (significand : Nat) (growing : Bool) (s : List Char) :
    Except Fault (Numeral × List Char) :=
  if significand ≠ 0 ∧ growing then .error (.here .numberOutOfRange (s.drop 1))
  else .ok (.fraction isNegative .zero, skipDigits s)

/-- Reads the digits of an exponent. -/
def readExponentDigits (isNegative : Bool) (significand : Nat) (start : Int) (growing : Bool)
    (s : List Char) : Except Fault (Numeral × List Char) :=
  match s with
  | [] => .error (.here .endInValue [])
  | c :: _ =>
    if isDigit c then
      let (n, _, rest) := takeDigits maxExponentDigits 0 0 s
      if startsWithDigit rest then hugeExponent isNegative significand growing rest
      else
        let exponent := if growing then start + n else start - n
        finishFraction isNegative significand exponent rest
    else .error (.next .invalidNumber s)

/-- Reads an exponent, after its letter. -/
def readExponent (isNegative : Bool) (significand : Nat) (start : Int) (s : List Char) :
    Except Fault (Numeral × List Char) :=
  match s with
  | '+' :: t => readExponentDigits isNegative significand start true t
  | '-' :: t => readExponentDigits isNegative significand start false t
  | s => readExponentDigits isNegative significand start true s

/-- Ends a number or goes on with its exponent. -/
def afterFraction (isNegative : Bool) (significand : Nat) (exponent : Int) (s : List Char) :
    Except Fault (Numeral × List Char) :=
  match s with
  | c :: t =>
    if c = 'e' ∨ c = 'E' then readExponent isNegative significand exponent t
    else finishFraction isNegative significand exponent s
  | [] => finishFraction isNegative significand exponent s

/-- Reads the digits after a point. Those that no longer fit are left out. -/
def readFraction (isNegative : Bool) (significand : Nat) (exponent : Int) (s : List Char) :
    Except Fault (Numeral × List Char) :=
  let (n, count, rest) := takeDigits maxSignificand significand 0 s
  if startsWithDigit rest then afterFraction isNegative n (exponent - count) (skipDigits rest)
  else if count = 0 then
    match rest with
    | [] => .error (.next .endInValue rest)
    | _ :: _ => .error (.next .invalidNumber rest)
  else afterFraction isNegative n (exponent - count) rest

/-- A whole number with its sign. The negatives of zero and of numbers that have
no 64-bit negative are fractions. -/
def wholeNumeral (isNegative : Bool) (n : Nat) : Numeral :=
  if !isNegative then .natural n
  else if 0 < n ∧ n ≤ 0x8000000000000000 then .negative n
  else .fraction true ((Binary64.ofNat n).getD .zero)

/-- Goes on after the digits before the point; those that did not fit are
counted in the exponent. -/
def afterInteger (isNegative : Bool) (significand skipped : Nat) (s : List Char) :
    Except Fault (Numeral × List Char) :=
  match s with
  | '.' :: t => readFraction isNegative significand skipped t
  | c :: t =>
    if c = 'e' ∨ c = 'E' then readExponent isNegative significand skipped t
    else if skipped = 0 then .ok (wholeNumeral isNegative significand, s)
    else finishFraction isNegative significand skipped s
  | [] =>
    if skipped = 0 then .ok (wholeNumeral isNegative significand, s)
    else finishFraction isNegative significand skipped s

/-- Reads a number, after its sign. -/
def readNumeral (isNegative : Bool) (s : List Char) : Except Fault (Numeral × List Char) :=
  match s with
  | [] => .error (.here .endInValue [])
  | c :: t =>
    if c = '0' then
      if startsWithDigit t then .error (.next .invalidNumber t)
      else afterInteger isNegative 0 0 t
    else if isDigit c then
      let (n, _, rest) := takeDigits maxSignificand 0 0 s
      afterInteger isNegative n (rest.takeWhile isDigit).length (skipDigits rest)
    else .error (.next .invalidNumber s)

/-! ### Numbers of which only the extent matters -/

/-- What follows one digit or more. -/
def skipSomeDigits (s : List Char) (fault : List Char → Fault) : Except Fault (List Char) :=
  if startsWithDigit s then .ok (skipDigits s) else .error (fault s)

/-- What follows an exponent, if there is one. -/
def skipExponent (s : List Char) : Except Fault (List Char) :=
  match s with
  | [] => .ok []
  | c :: t =>
    if c = 'e' ∨ c = 'E' then
      let u := match t with
        | '+' :: u => u
        | '-' :: u => u
        | t => t
      skipSomeDigits u (.next .invalidNumber)
    else .ok s

/-- What follows a number, after its sign. -/
def skipNumeral (s : List Char) : Except Fault (List Char) :=
  match s with
  | [] => .error (.here .invalidNumber [])
  | c :: t =>
    if c = '0' ∧ startsWithDigit t then .error (.next .invalidNumber t)
    else if isDigit c then
      let u := if c = '0' then t else skipDigits t
      match u with
      | '.' :: v => (skipSomeDigits v (.next .invalidNumber)).bind skipExponent
      | u => skipExponent u
    else .error (.next .invalidNumber s)

end ServiceProbe.Json
