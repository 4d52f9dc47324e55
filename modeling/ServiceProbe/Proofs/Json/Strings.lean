import Mathlib
import ServiceProbe.Json.Word
import ServiceProbe.Proofs.Text.Blank

/-!
Strings as JSON texts write them. A body between two quotes spells characters:
each one stands for itself or is escaped in one of the ways there are. Reading
gives back what a body spells. Where only the end of a string matters, an escape
may be any code of four digits, also half of a pair.
-/

namespace ServiceProbe.Json

open Text

/-! ### The grammar -/

/-- The letters after a backslash and what they stand for. -/
def shortEscapes : List (Char × Char) :=
  [('"', '"'), ('\\', '\\'), ('/', '/'), ('b', '\x08'), ('f', '\x0C'), ('n', '\n'), ('r', '\r'),
    ('t', '\t')]

/-- Characters that stand for themselves. -/
def isPlain (c : Char) : Prop := c ≠ '"' ∧ c ≠ '\\' ∧ 0x20 ≤ c.toNat

/-- Four hexadecimal digits and their number. -/
inductive Hex4 : List Char → Nat → Prop where
  | mk {a b c d : Char} {w x y z : Nat} (ha : Net.hexDigit? a = some w)
      (hb : Net.hexDigit? b = some x) (hc : Net.hexDigit? c = some y)
      (hd : Net.hexDigit? d = some z) :
      Hex4 [a, b, c, d] (((w * 16 + x) * 16 + y) * 16 + z)

/-- What is between the quotes of a string, and the characters of that string. -/
inductive Spells : List Char → List Char → Prop where
  | nil : Spells [] []
  | plain {c : Char} {s t : List Char} (hc : isPlain c) (h : Spells s t) : Spells (c :: s) (c :: t)
  | short {e c : Char} {s t : List Char} (he : (e, c) ∈ shortEscapes) (h : Spells s t) :
      Spells ('\\' :: e :: s) (c :: t)
  | code {digits : List Char} {n : Nat} {s t : List Char} (hn : Hex4 digits n)
      (hsurrogate : n < 0xD800 ∨ 0xDFFF < n) (h : Spells s t) :
      Spells ('\\' :: 'u' :: (digits ++ s)) (Char.ofNat n :: t)
  /-- Characters above 16 bits have two codes. -/
  | pair {digits digits' : List Char} {high low : Nat} {s t : List Char} (hh : Hex4 digits high)
      (hl : Hex4 digits' low) (hhigh : 0xD800 ≤ high ∧ high ≤ 0xDBFF)
      (hlow : 0xDC00 ≤ low ∧ low ≤ 0xDFFF) (h : Spells s t) :
      Spells ('\\' :: 'u' :: (digits ++ '\\' :: 'u' :: (digits' ++ s)))
        (Char.ofNat (0x10000 + (high - 0xD800) * 0x400 + (low - 0xDC00)) :: t)

/-- The same with codes that need not stand for characters. -/
inductive Loose : List Char → Prop where
  | nil : Loose []
  | plain {c : Char} {s : List Char} (hc : isPlain c) (h : Loose s) : Loose (c :: s)
  | short {e c : Char} {s : List Char} (he : (e, c) ∈ shortEscapes) (h : Loose s) :
      Loose ('\\' :: e :: s)
  | code {digits : List Char} {n : Nat} {s : List Char} (hn : Hex4 digits n) (h : Loose s) :
      Loose ('\\' :: 'u' :: (digits ++ s))

theorem Spells.of_plain {s : List Char} (h : ∀ c ∈ s, isPlain c) : Spells s s := by
  induction s with
  | nil => exact .nil
  | cons c s ih => exact .plain (h c (by simp)) (ih fun d hd => h d (by simp [hd]))

theorem Spells.loose {s t : List Char} (h : Spells s t) : Loose s := by
  induction h with
  | nil => exact .nil
  | plain hc _ ih => exact .plain hc ih
  | short he _ ih => exact .short he ih
  | code hn _ _ ih => exact .code hn ih
  | pair hh hl _ _ _ ih => exact .code hh (.code hl ih)

/-- A string with its quotes. -/
def quotedText (body : List Char) : List Char := '"' :: (body ++ ['"'])

/-! ### Reading -/

theorem length_encodeChar_of_hexDigit? {c : Char} {n : Nat} (h : Net.hexDigit? c = some n) :
    (String.utf8EncodeChar c).length = 1 := by
  rw [String.length_utf8EncodeChar, Char.utf8Size_eq_one_iff]
  unfold Net.hexDigit? at h
  simp only [Char.le_def] at h
  split_ifs at h with h1 h2 h3
  · exact UInt32.le_trans h1.2 (by decide)
  · exact UInt32.le_trans h2.2 (by decide)
  · exact UInt32.le_trans h3.2 (by decide)

theorem readHex4_append {digits : List Char} {n : Nat} (h : Hex4 digits n) (rest : List Char) :
    readHex4 (digits ++ rest) = .ok (n, rest) := by
  cases h with
  | @mk a b c d _ _ _ _ ha hb hc hd =>
    have hlength : ¬ byteLength [a, b, c, d] < 4 := by
      simp only [byteLength, encode_cons, encode_nil, List.length_append, List.length_nil,
        length_encodeChar_of_hexDigit? ha, length_encodeChar_of_hexDigit? hb,
        length_encodeChar_of_hexDigit? hc, length_encodeChar_of_hexDigit? hd]
      decide
    have htake : ([a, b, c, d] ++ rest).take 4 = [a, b, c, d] := rfl
    unfold readHex4
    rw [htake, if_neg hlength]
    simp only [List.cons_append, List.nil_append, ha, hb, hc, hd]

theorem shortEscape?_of_mem {e c : Char} (h : (e, c) ∈ shortEscapes) : shortEscape? e = some c := by
  simp only [shortEscapes, List.mem_cons, Prod.mk.injEq, List.not_mem_nil, or_false] at h
  rcases h with ⟨rfl, rfl⟩ | ⟨rfl, rfl⟩ | ⟨rfl, rfl⟩ | ⟨rfl, rfl⟩ | ⟨rfl, rfl⟩ | ⟨rfl, rfl⟩ |
    ⟨rfl, rfl⟩ | ⟨rfl, rfl⟩ <;> rfl

theorem readString_plain {c : Char} (hc : isPlain c) (read s : List Char) :
    readString read (c :: s) = readString (c :: read) s := by
  rw [readString, if_neg hc.1, if_neg hc.2.1, if_neg (not_lt.2 hc.2.2)]

theorem readString_escape {s rest : List Char} {c : Char} (h : readEscape s = .ok (c, rest))
    (read : List Char) : readString read ('\\' :: s) = readString (c :: read) rest := by
  rw [readString, if_neg (by decide), if_pos rfl]
  split
  · next heq =>
    rw [h] at heq
    cases heq
  · next heq =>
    rw [h] at heq
    cases heq
    rfl

theorem readEscape_short {e c : Char} (h : (e, c) ∈ shortEscapes) (rest : List Char) :
    readEscape (e :: rest) = .ok (c, rest) := by
  rw [readEscape]
  simp only [shortEscape?_of_mem h]

/-- An escape with a code that is no half of a pair. -/
theorem readEscape_code {digits : List Char} {n : Nat} (hn : Hex4 digits n)
    (hsurrogate : n < 0xD800 ∨ 0xDFFF < n) (rest : List Char) :
    readEscape ('u' :: (digits ++ rest)) = .ok (Char.ofNat n, rest) := by
  have hhigh : isHighSurrogate n = false := by
    simp only [isHighSurrogate, Bool.and_eq_false_iff, decide_eq_false_iff_not]
    omega
  have hlow : isLowSurrogate n = false := by
    simp only [isLowSurrogate, Bool.and_eq_false_iff, decide_eq_false_iff_not]
    omega
  have hshort : shortEscape? 'u' = none := rfl
  rw [readEscape]
  simp only [hshort, readHex4_append hn, hhigh, hlow]
  rfl

theorem readEscape_pair {digits digits' : List Char} {high low : Nat} (hh : Hex4 digits high)
    (hl : Hex4 digits' low) (hhigh : 0xD800 ≤ high ∧ high ≤ 0xDBFF)
    (hlow : 0xDC00 ≤ low ∧ low ≤ 0xDFFF) (rest : List Char) :
    readEscape ('u' :: (digits ++ '\\' :: 'u' :: (digits' ++ rest))) =
      .ok (Char.ofNat (0x10000 + (high - 0xD800) * 0x400 + (low - 0xDC00)), rest) := by
  have hhigh' : isHighSurrogate high = true := by simpa [isHighSurrogate] using hhigh
  have hlow' : isLowSurrogate low = true := by simpa [isLowSurrogate] using hlow
  have hshort : shortEscape? 'u' = none := rfl
  rw [readEscape]
  simp only [hshort, readHex4_append hh, hhigh', readLowSurrogate, readHex4_append hl, hlow']
  rfl

/-- Reading a string gives the characters that its body spells. -/
theorem readString_append {body chars : List Char} (h : Spells body chars) (read rest : List Char) :
    readString read (body ++ '"' :: rest) = .ok (read.reverse ++ chars, rest) := by
  have hcons (c : Char) (t : List Char) : (c :: read).reverse ++ t = read.reverse ++ c :: t := by
    simp
  induction h generalizing read with
  | nil => rw [List.nil_append, readString, if_pos rfl, List.append_nil]
  | @plain c s t hc h ih =>
    rw [List.cons_append, readString_plain hc, ih _ (by simp), hcons]
  | @short e c s t he h ih =>
    rw [List.cons_append, List.cons_append, readString_escape (readEscape_short he _),
      ih _ (by simp), hcons]
  | @code digits n s t hn hsurrogate h ih =>
    rw [List.cons_append, List.cons_append, List.append_assoc,
      readString_escape (readEscape_code hn hsurrogate _), ih _ (by simp), hcons]
  | @pair digits digits' high low s t hh hl hhigh hlow h ih =>
    rw [List.cons_append, List.cons_append, List.append_assoc, List.cons_append,
      List.cons_append, List.append_assoc,
      readString_escape (readEscape_pair hh hl hhigh hlow _), ih _ (by simp), hcons]

/-! ### Skipping -/

theorem skipString_plain {c : Char} (hc : isPlain c) (s : List Char) :
    skipString (c :: s) = skipString s := by
  rw [skipString, if_neg hc.1, if_neg hc.2.1, if_neg (not_lt.2 hc.2.2)]

theorem skipString_escape {s rest : List Char} (h : skipEscape s = .ok rest) :
    skipString ('\\' :: s) = skipString rest := by
  rw [skipString, if_neg (by decide), if_pos rfl]
  split
  · next heq =>
    rw [h] at heq
    cases heq
  · next heq =>
    rw [h] at heq
    cases heq
    rfl

theorem skipEscape_code {digits : List Char} {n : Nat} (hn : Hex4 digits n) (rest : List Char) :
    skipEscape ('u' :: (digits ++ rest)) = .ok rest := by
  have hshort : shortEscape? 'u' = none := rfl
  rw [skipEscape]
  simp only [hshort, readHex4_append hn]
  rfl

/-- Skipping a string ends after its second quote. -/
theorem skipString_append {body : List Char} (h : Loose body) (rest : List Char) :
    skipString (body ++ '"' :: rest) = .ok rest := by
  induction h with
  | nil => rw [List.nil_append, skipString, if_pos rfl]
  | plain hc h ih => rw [List.cons_append, skipString_plain hc, ih]
  | @short e c s he h ih =>
    have hskip : skipEscape (e :: (s ++ '"' :: rest)) = .ok (s ++ '"' :: rest) := by
      rw [skipEscape, shortEscape?_of_mem he]
      rfl
    rw [List.cons_append, List.cons_append, skipString_escape hskip, ih]
  | code hn h ih =>
    rw [List.cons_append, List.cons_append, List.append_assoc,
      skipString_escape (skipEscape_code hn _), ih]

end ServiceProbe.Json
