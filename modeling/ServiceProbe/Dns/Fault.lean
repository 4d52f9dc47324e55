import ServiceProbe.Error

/-!
What can be wrong with a domain name written as text or with a message.
-/

namespace ServiceProbe.Dns

inductive Fault where
  | unrecognizedChar (c : Char)
  | illegalChar (c : Char)
  | longLabel (bytes : Nat)
  | malformedLabel (label : String)
  /-- A name, or the label that made it so, is too long. -/
  | longName (bytes : Nat)
  | endOfInput
  | unknownOperation (code : Nat)
  | overlappingLabels (start other : Nat)
  | unrecognizedLabel (byte : UInt8)
  | forwardPointer (position target : Nat)
  | rootRequired (name : String)
  | longData (needed remaining : Nat)
  | dataLength (consumed expected : Nat)
  | unknownType (code : Nat)
  | longOption
  | secondOptions
  deriving DecidableEq, Repr

def Fault.message : Fault → String
  | unrecognizedChar c => "unrecognized char: " ++ String.singleton c
  | illegalChar c => "illegal char: " ++ String.singleton c
  | longLabel bytes => s!"label bytes exceed 63: {bytes}"
  | malformedLabel label => s!"Malformed label: {label}"
  | longName bytes => s!"name label data exceed 255: {bytes}"
  | endOfInput => "unexpected end of input reached"
  | unknownOperation code => s!"unknown OpCode: {code}"
  | overlappingLabels start other => s!"overlapping labels name {start} other {other}"
  | unrecognizedLabel byte =>
    "unrecognized label code: " ++ String.ofList (Nat.toDigits 2 byte.toNat)
  | forwardPointer position target =>
    s!"label points to data not prior to idx: {position} ptr: {target}"
  | rootRequired name => s!"edns resource record label must be the root label (.): {name}"
  | longData needed remaining =>
    s!"rdata length too large for remaining bytes, need: {needed} remain: {remaining}"
  | dataLength consumed expected =>
    s!"incorrect rdata length read: {consumed} expected: {expected}"
  | unknownType code => s!"record type value unknown: {code}"
  | longOption => "OPT value length exceeds rdata length"
  | secondOptions => "more than one edns record present"

def Fault.toProbeError (fault : Fault) : ProbeError := .protocol fault.message

end ServiceProbe.Dns
