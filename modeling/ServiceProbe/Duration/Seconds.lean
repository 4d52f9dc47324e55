import ServiceProbe.Duration
import ServiceProbe.Number.Binary64

/-!
Durations as binary fractions of a second: rounded to the nearest nanosecond
one way, and the sum of whole seconds and the rest the other way.
-/

namespace ServiceProbe.Duration

open Number

/-- The duration of a number of seconds, if they are below the limit. -/
def ofSeconds? (x : Binary64) : Option Duration :=
  let nanos := roundHalfEven (x.units * 1_000_000_000) Binary64.scale
  if nanos < limit.nanos then some ⟨nanos⟩ else none

/-- The seconds of a duration. Both parts and their sum are rounded; none of
them can be too large. -/
def toSeconds (d : Duration) : Binary64 :=
  let whole := (Binary64.ofNat d.seconds).getD .zero
  let rest := (Binary64.ofRatio d.subsecNanos 1_000_000_000).getD .zero
  (whole.add rest).getD .zero

end ServiceProbe.Duration
