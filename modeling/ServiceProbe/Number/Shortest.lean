import ServiceProbe.Number.Binary64

/-!
The shortest decimal of a binary fraction: of all decimals that round to the
value, those with the fewest digits, and of these the nearest one. Two ways of
writing it down: the one of settings files, which uses an exponent for very
large and very small values, and a plain one. They differ as well in what they
take when two decimals are equally near.
-/

namespace ServiceProbe.Number

/-- Which of two equally near decimals is taken. -/
inductive Tie where
  /-- The one with the even last digit. -/
  | even
  /-- The greater one. -/
  | up
  deriving DecidableEq, Repr

/-- Whether the smaller one is taken, of which the number is given. -/
def Tie.goesDown : Tie → Nat → Bool
  | even, n => n % 2 == 0
  | up, _ => false

/-- A decimal `digits * 10 ^ exponent / 10 ^ Decimal.scale`. -/
structure Decimal where
  digits : Nat
  /-- The place of the last digit, counted from the least one used. -/
  exponent : Nat
  deriving DecidableEq, Repr

/-- The number of places after the point that decimals are counted from. -/
def Decimal.scale : Nat := 400

/-- The value as a fraction of `Decimal.scale` places, in quarter units of the
binary scale. -/
def Decimal.quarters (d : Decimal) : Nat :=
  d.digits * Nat.pow 10 d.exponent * (4 * Binary64.scale)

namespace Binary64

/-- Four times the value in units, on the scale of `Decimal.quarters`. -/
def quarters (n : Nat) : Nat := n * Nat.pow 10 Decimal.scale

/-- The least and the greatest number, in quarters of a unit, that round to a
value, and whether they do so themselves. -/
def interval (x : Binary64) : Nat × Nat × Bool :=
  let gap := Nat.pow 2 x.exponent
  let below := if x.significand = Nat.pow 2 52 ∧ 0 < x.exponent then gap else 2 * gap
  (4 * x.units - below, 4 * x.units + 2 * gap, x.significand % 2 == 0)

/-- Whether a decimal rounds to a value. -/
def admits (x : Binary64) (d : Decimal) : Bool :=
  let (low, high, inclusive) := x.interval
  if inclusive then quarters low ≤ d.quarters && d.quarters ≤ quarters high
  else quarters low < d.quarters && d.quarters < quarters high

/-- The value as a count of the least decimal places, rounded down. -/
def decimalFloor (x : Binary64) : Nat := x.units * Nat.pow 10 Decimal.scale / scale

/-- The best decimal of `count` digits that rounds to a value, of which
`decimalFloor` has `length` digits. -/
def withDigits? (x : Binary64) (tie : Tie) (length count : Nat) : Option Decimal :=
  let exponent := length - count
  let floor := x.decimalFloor / Nat.pow 10 exponent
  let low : Decimal := ⟨floor, exponent⟩
  let high : Decimal := ⟨floor + 1, exponent⟩
  let value := quarters (4 * x.units)
  match x.admits low, x.admits high with
  | true, true =>
    let down := value - low.quarters
    let up := high.quarters - value
    if down < up ∨ (down = up ∧ tie.goesDown floor) then some low else some high
  | true, false => some low
  | false, true => some high
  | false, false => none

/-- The shortest decimal that rounds to a value; 17 digits always suffice. -/
def shortest (x : Binary64) (tie : Tie) : Decimal :=
  let length := (Nat.toDigits 10 x.decimalFloor).length
  ((List.range 17).findSome? fun n => x.withDigits? tie length (n + 1)).getD
    ⟨x.decimalFloor, 0⟩

/-- The digits of the shortest decimal, without zeros at the end, and the place
of the point relative to the first of them. -/
def digitsAndPoint (x : Binary64) (tie : Tie) : List Char × Int :=
  let d := x.shortest tie
  let digits := Nat.toDigits 10 d.digits
  let significant := (digits.reverse.dropWhile (· == '0')).reverse
  (significant, (digits.length : Int) + d.exponent - Decimal.scale)

/-- Digits with the point at a given place, zeros added where they are missing.
Without a fraction there is no point. -/
def positional (digits : List Char) (point : Int) : List Char × List Char :=
  if point ≤ 0 then (['0'], List.replicate (-point).toNat '0' ++ digits)
  else
    let places := point.toNat
    (digits.take places ++ List.replicate (places - digits.length) '0', digits.drop places)

/-- The text without an exponent. -/
def plainText (x : Binary64) : String :=
  if x.units = 0 then "0"
  else
    let (digits, point) := x.digitsAndPoint .up
    let (whole, fraction) := positional digits point
    if fraction = [] then String.ofList whole
    else String.ofList (whole ++ '.' :: fraction)

/-- Values from 10^-5 up to 10^16 have no exponent. -/
def isPositional (point : Int) : Bool := -5 < point && point ≤ 16

/-- The text of settings files; there is always a point or an exponent. -/
def jsonText (x : Binary64) : String :=
  if x.units = 0 then "0.0"
  else
    let (digits, point) := x.digitsAndPoint .even
    if isPositional point then
      let (whole, fraction) := positional digits point
      String.ofList (whole ++ '.' :: (if fraction = [] then ['0'] else fraction))
    else
      let exponent := point - 1
      let mantissa := match digits with
        | [] => []
        | [d] => [d]
        | d :: rest => d :: '.' :: rest
      let sign := if exponent < 0 then "-" else "+"
      String.ofList mantissa ++ "e" ++ sign ++ toString exponent.natAbs

end Binary64

end ServiceProbe.Number
