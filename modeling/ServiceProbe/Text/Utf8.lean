import ServiceProbe.Text.CharRange

/-!
UTF-8. Bytes are read one at a time by a `Reader`, which is either between two
characters or inside one and then knows how many bytes the character still
needs and which values the next of them may have. What it sees is a list of
pieces: a character, or `none` for a longest run of bytes that begins a
character and is not continued to one. A text is refused when a piece is
`none`, or shown with U+FFFD in its place.
-/

namespace ServiceProbe

abbrev Bytes := List UInt8

namespace Text

def lineFeed : UInt8 := 0x0A

def encode (s : List Char) : Bytes :=
  s.flatMap String.utf8EncodeChar

/-- The number of bytes of a text. -/
def byteLength (s : List Char) : Nat :=
  (encode s).length

@[simp] theorem encode_nil : encode [] = [] := rfl

@[simp] theorem encode_cons (c : Char) (s : List Char) :
    encode (c :: s) = String.utf8EncodeChar c ++ encode s := by
  simp [encode]

@[simp] theorem encode_append (s t : List Char) : encode (s ++ t) = encode s ++ encode t := by
  simp [encode]

/-- A character of which some bytes have been read: the value of their payload
bits, the number of bytes to come and the least and greatest next byte. -/
structure Partial where
  payload : Nat
  missing : Nat
  low : UInt8
  high : UInt8
  deriving DecidableEq, Repr

/-- What a first byte of a longer character announces. No first byte is below
C2 or above F4; the ranges after E0, ED, F0 and F4 keep out long forms,
surrogates and values above 10FFFF. -/
def Partial.ofLead? (b : UInt8) : Option Partial :=
  if b < 0xC2 then none
  else if b ≤ 0xDF then some ⟨b.toNat - 0xC0, 1, 0x80, 0xBF⟩
  else if b = 0xE0 then some ⟨0, 2, 0xA0, 0xBF⟩
  else if b = 0xED then some ⟨0xD, 2, 0x80, 0x9F⟩
  else if b ≤ 0xEF then some ⟨b.toNat - 0xE0, 2, 0x80, 0xBF⟩
  else if b = 0xF0 then some ⟨0, 3, 0x90, 0xBF⟩
  else if b ≤ 0xF3 then some ⟨b.toNat - 0xF0, 3, 0x80, 0xBF⟩
  else if b = 0xF4 then some ⟨4, 3, 0x80, 0x8F⟩
  else none

/-- The state between two bytes. `pieces` holds what has been seen, latest first. -/
structure Reader where
  pieces : List (Option Char)
  inside : Option Partial
  deriving DecidableEq, Repr

def Reader.start : Reader := ⟨[], none⟩

/-- Reads a byte that begins a character. -/
def Reader.feedFirst (pieces : List (Option Char)) (b : UInt8) : Reader :=
  if b < 0x80 then ⟨some (Char.ofNat b.toNat) :: pieces, none⟩
  else match Partial.ofLead? b with
    | some p => ⟨pieces, some p⟩
    | none => ⟨none :: pieces, none⟩

def Reader.feed (r : Reader) (b : UInt8) : Reader :=
  match r.inside with
  | none => feedFirst r.pieces b
  | some p =>
    if p.low ≤ b && b ≤ p.high then
      let payload := p.payload * 64 + (b.toNat - 0x80)
      if p.missing ≤ 1 then ⟨some (Char.ofNat payload) :: r.pieces, none⟩
      else ⟨r.pieces, some ⟨payload, p.missing - 1, 0x80, 0xBF⟩⟩
    else feedFirst (none :: r.pieces) b

/-- What has been seen when no byte follows. -/
def Reader.finish (r : Reader) : List (Option Char) :=
  match r.inside with
  | none => r.pieces.reverse
  | some _ => (none :: r.pieces).reverse

/-- The characters of a byte sequence, `none` for each of its broken parts. -/
def pieces (bytes : Bytes) : List (Option Char) :=
  (bytes.foldl Reader.feed Reader.start).finish

/-- The text with U+FFFD in place of each broken part. -/
def decodeLossy (bytes : Bytes) : List Char :=
  (pieces bytes).map (·.getD (Char.ofNat 0xFFFD))

/-- The text, if no part of it is broken. -/
def decode? (bytes : Bytes) : Option (List Char) :=
  if (pieces bytes).all Option.isSome then some ((pieces bytes).filterMap id) else none

end Text

end ServiceProbe
