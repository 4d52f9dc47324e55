/-!
Lengths of time in whole nanoseconds, and the clock that deadlines are set on.
A length is shown in the largest unit of s, ms, µs and ns of which it holds at
least one, as a decimal without trailing zeros. The clock counts seconds from a
start of its own in 63 bits, so a very long length added to a reading may have
no reading of its own.
-/

namespace ServiceProbe

structure Duration where
  nanos : Nat
  deriving DecidableEq, Repr, Inhabited

namespace Duration

def zero : Duration := ⟨0⟩

def ofSeconds (n : Nat) : Duration := ⟨n * 1_000_000_000⟩

def ofMillis (n : Nat) : Duration := ⟨n * 1_000_000⟩

/-- Whole seconds are counted in 64 bits, so every length is below this one. -/
def limit : Duration := ofSeconds 0x10000000000000000

def seconds (d : Duration) : Nat := d.nanos / 1_000_000_000

def subsecNanos (d : Duration) : Nat := d.nanos % 1_000_000_000

theorem nanos_eq (d : Duration) : d.seconds * 1_000_000_000 + d.subsecNanos = d.nanos := by
  simp only [seconds, subsecNanos]
  omega

/-- The digits of a fraction with `places` places, without trailing zeros. -/
def fractionDigits (n places : Nat) : List Char :=
  let digits := Nat.toDigits 10 n
  let padded := List.replicate (places - digits.length) '0' ++ digits
  (padded.reverse.dropWhile (· == '0')).reverse

/-- A whole part and a fraction of `places` places; no point without a fraction. -/
def decimalText (whole fraction places : Nat) : String :=
  match fractionDigits fraction places with
  | [] => toString whole
  | digits => toString whole ++ "." ++ String.ofList digits

def text (d : Duration) : String :=
  let n := d.nanos
  if 1_000_000_000 ≤ n then decimalText (n / 1_000_000_000) (n % 1_000_000_000) 9 ++ "s"
  else if 1_000_000 ≤ n then decimalText (n / 1_000_000) (n % 1_000_000) 6 ++ "ms"
  else if 1_000 ≤ n then decimalText (n / 1_000) (n % 1_000) 3 ++ "µs"
  else toString n ++ "ns"

end Duration

/-- A reading of the clock. -/
structure Instant where
  nanos : Nat
  deriving DecidableEq, Repr, Inhabited

namespace Instant

/-- The first reading that the clock cannot show. -/
def limit : Nat := 0x8000000000000000 * 1_000_000_000

/-- The reading after a length of time, if the clock can show it. -/
def after? (t : Instant) (d : Duration) : Option Instant :=
  if t.nanos + d.nanos < limit then some ⟨t.nanos + d.nanos⟩ else none

theorem after?_eq_some_iff {t u : Instant} {d : Duration} :
    t.after? d = some u ↔ t.nanos + d.nanos < limit ∧ u.nanos = t.nanos + d.nanos := by
  cases u
  simp only [after?]
  split
  · simp_all [eq_comm]
  · simp only [reduceCtorEq, false_iff, not_and]
    omega

end Instant

end ServiceProbe
