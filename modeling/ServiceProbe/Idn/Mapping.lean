import ServiceProbe.Idn.Composition
import ServiceProbe.Idn.Mapping.Ideographs
import ServiceProbe.Idn.Mapping.Letters
import ServiceProbe.Idn.Mapping.Runs
import ServiceProbe.Idn.Mapping.Sequences
import ServiceProbe.Idn.Ranges

/-!
The mapping that comes before everything else is done with a host name: capitals
become small, variants of a character become that character, some leave nothing
and the rest stays. What is none of these may not occur at all.
-/

namespace ServiceProbe.Idn

open Text

/-- What a character in a run is mapped to. -/
def inRun? (c : Nat) : Option Nat :=
  match shiftedRuns.find? fun r => r.1 ≤ c && c ≤ r.2.1 with
  | some (first, _, target) => some (target + (c - first))
  | none =>
    if pairedRuns.any fun r => r.1 ≤ c && c ≤ r.2 && (c - r.1) % 2 == 0 then some (c + 1)
    else none

/-- What a character is mapped to, if it does not stay. -/
def mapped? (c : Nat) : Option (List Nat) :=
  let one := (inRun? c).or <| (mappedLetters.lookup c).or <|
    (mappedIdeographs.lookup c).or (mappedSupplementary.lookup c)
  (one.map ([·])).or ((mappedSequences.lookup c).or (mappedForms.lookup c))

/-- What becomes of a character, unless it may not occur. -/
def mapChar? (c : Char) : Option (List Nat) :=
  match mapped? c.toNat with
  | some points => some points
  | none =>
    if inRanges ignoredRanges c then some []
    else if isValid c then some [c.toNat]
    else none

/-- A text after the mapping, in the composed form. -/
def mapText? (s : List Char) : Option (List Char) :=
  (s.mapM mapChar?).map fun points => (compose points.flatten).map Char.ofNat

end ServiceProbe.Idn
