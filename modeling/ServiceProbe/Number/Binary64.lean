import ServiceProbe.Number.Rounding

/-!
Binary fractions of 53 significant bits, with exact arithmetic on them. A value
is `significand * 2 ^ exponent` in units of 2^-1074, the least positive one, and
stands for a finite number that is not negative; where a sign is needed it is
kept beside it. Every operation takes the exact result and rounds it once.
-/

namespace ServiceProbe.Number

structure Binary64 where
  significand : Nat
  exponent : Nat
  deriving DecidableEq, Repr, Inhabited

namespace Binary64

/-- Every value is a multiple of one divided by this. -/
def scale : Nat := Nat.pow 2 1074

/-- The first significand that is too large. -/
def significandLimit : Nat := Nat.pow 2 53

def maxExponent : Nat := 2045

def zero : Binary64 := ⟨0, 0⟩

/-- The value in units of 2^-1074. -/
def units (x : Binary64) : Nat := x.significand * Nat.pow 2 x.exponent

/-- The nearest value to `num / den`, unless that is too large for one. -/
def ofRatio (num den : Nat) : Option Binary64 :=
  let scaled := num * scale
  let exponent := (scaled / den).log2 - 52
  let significand := roundHalfEven scaled (den * Nat.pow 2 exponent)
  let x : Binary64 :=
    if significand = significandLimit then ⟨Nat.pow 2 52, exponent + 1⟩ else ⟨significand, exponent⟩
  if maxExponent < x.exponent then none else some x

def ofNat (n : Nat) : Option Binary64 := ofRatio n 1

def add (x y : Binary64) : Option Binary64 := ofRatio (x.units + y.units) scale

def mul (x y : Binary64) : Option Binary64 := ofRatio (x.units * y.units) (scale * scale)

/-- The quotient; nothing is divided by zero. -/
def div (x y : Binary64) : Option Binary64 :=
  if y.units = 0 then none else ofRatio x.units y.units

/-- A decimal: `digits` as a number, the last `places` of them after the point. -/
def ofDecimal (digits places : Nat) : Option Binary64 := ofRatio digits (Nat.pow 10 places)

/-- The power of ten, for the exponents at which it is a value. -/
def tenPow (exponent : Nat) : Option Binary64 := ofNat (Nat.pow 10 exponent)

end Binary64

end ServiceProbe.Number
