import ServiceProbe.Idn.Direction
import ServiceProbe.Idn.Joiner
import ServiceProbe.Idn.Mapping
import ServiceProbe.Idn.Punycode

/-!
Labels in full. A label that begins with `xn--` is mapped and divided at its
dots; every part that begins so itself is read as Punycode, and the whole is
shown if all parts could be written in this way. Without non-ASCII characters a
part has no other form than itself.
-/

namespace ServiceProbe.Idn

/-- The prefix of internationalised labels. -/
def acePrefix : List Char := "xn--".toList

def isAscii (s : List Char) : Bool := s.all fun c => c.toNat < 0x80

/-- Whether a part may stand in a name: it begins with no mark, and its joiners
are in their places. -/
def isWellPlaced (part : List Char) : Bool :=
  !part.head?.any isMark && joinersFit [] part

/-- Whether a part that was read from Punycode is the one to be written so. -/
def isDecoded (part : List Char) : Bool :=
  !isAscii part && part.all isValid && isComposed part

/-- A mapped part of a name without dots, in full. -/
def partToUnicode? (part : List Char) : Option (List Char) :=
  let shown :=
    if acePrefix.isPrefixOf part then
      if isAscii part then (decodePunycode? (part.drop acePrefix.length)).filter isDecoded
      else none
    else some part
  shown.filter isWellPlaced

/-- The parts of a text between dots. -/
def splitDots : List Char → List (List Char)
  | [] => [[]]
  | c :: s =>
    if c = '.' then [] :: splitDots s
    else
      match splitDots s with
      | [] => [[c]]
      | part :: parts => (c :: part) :: parts

/-- A label in full, if that is possible. -/
def toUnicode? (label : List Char) : Option (List Char) := do
  let mapped ← mapText? label
  let parts ← (splitDots mapped).mapM partToUnicode?
  guard (isWellDirected parts)
  return (parts.intersperse ['.']).flatten

end ServiceProbe.Idn
