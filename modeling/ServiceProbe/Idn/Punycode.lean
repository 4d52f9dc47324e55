/-!
Punycode: texts in ASCII characters alone. They hold the ASCII characters of the
text they stand for, a hyphen if there are any, and numbers in base 36 with
digits of varying weight that say which other characters go where.
-/

namespace ServiceProbe.Idn

def base : Nat := 36

/-- The threshold of the digit at position `k`, for the given bias. -/
def threshold (k bias : Nat) : Nat :=
  if k ≤ bias then 1 else if bias + 26 ≤ k then 26 else k - bias

/-- Divides a delta down until it is small: the quotient and `base` for every
division. -/
def adaptLoop (delta k : Nat) : Nat × Nat :=
  if 455 < delta then adaptLoop (delta / 35) (k + base) else (delta, k)
termination_by delta

/-- The bias for the next number. -/
def adapt (delta count : Nat) (first : Bool) : Nat :=
  let delta := if first then delta / 700 else delta / 2
  let (delta, k) := adaptLoop (delta + delta / count) 0
  k + 36 * delta / (delta + 38)

def digitValue? (c : Char) : Option Nat :=
  if 'a' ≤ c ∧ c ≤ 'z' then some (c.toNat - 'a'.toNat)
  else if 'A' ≤ c ∧ c ≤ 'Z' then some (c.toNat - 'A'.toNat)
  else if '0' ≤ c ∧ c ≤ '9' then some (c.toNat - '0'.toNat + 26)
  else none

/-- The state between two digits. -/
structure Decoder where
  output : List Char
  /-- The last code point inserted. -/
  codePoint : Nat
  /-- Where the next character goes, before the number being read is added. -/
  start : Nat
  bias : Nat
  /-- The same with the digits that were read of that number. -/
  position : Nat
  weight : Nat
  k : Nat
  deriving DecidableEq, Repr

namespace Decoder

/-- All numbers are below this one. -/
def limit : Nat := 0x100000000

def ofAscii (output : List Char) : Decoder := ⟨output, 128, 0, 72, 0, 1, base⟩

/-- Ends a number: the character it stands for goes to its place. -/
def insert (d : Decoder) : Option Decoder :=
  let count := d.output.length + 1
  let codePoint := d.codePoint + d.position / count
  let place := d.position % count
  if codePoint < limit ∧ codePoint.isValidChar then
    some {
      output := d.output.take place ++ Char.ofNat codePoint :: d.output.drop place
      codePoint
      start := place + 1
      bias := adapt (d.position - d.start) count (d.start == 0)
      position := place + 1
      weight := 1
      k := base }
  else none

def feed (d : Decoder) (c : Char) : Option Decoder :=
  match digitValue? c with
  | none => none
  | some digit =>
    let position := d.position + digit * d.weight
    let t := threshold d.k d.bias
    if limit ≤ position then none
    else if digit < t then { d with position }.insert
    else
      let weight := d.weight * (base - t)
      if limit ≤ weight then none else some { d with position, weight, k := d.k + base }

/-- The text, if no number is unfinished. -/
def finish (d : Decoder) : Option (List Char) :=
  if d.k = base then some d.output else none

end Decoder

/-- Reads a Punycode text. What stands before the last hyphen is taken over; a
hyphen in front of everything belongs to the numbers. -/
def decodePunycode? (s : List Char) : Option (List Char) :=
  let tail := (s.reverse.takeWhile (· != '-')).reverse
  let ascii := s.take (s.length - tail.length - 1)
  let numbers := if ascii = [] then s else tail
  (numbers.foldlM Decoder.feed (Decoder.ofAscii ascii)).bind Decoder.finish

end ServiceProbe.Idn
