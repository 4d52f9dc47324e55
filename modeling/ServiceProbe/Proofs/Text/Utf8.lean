import ServiceProbe.Text.Utf8

/-!
The decoder reads exactly what the encoder writes: a byte sequence is the text
`s` if and only if it is the encoding of `s`. In one direction the bytes of a
character lead the reader from between two characters back there, with that
character seen. In the other, what a reader holds inside a character spells the
character that the bytes to come would make of it.
-/

namespace ServiceProbe.Text

/-! ### The bytes of a character -/

theorem toNat_ofNat_of_isValidChar {n : Nat} (h : n.isValidChar) : (Char.ofNat n).toNat = n := by
  rw [Char.ofNat, dif_pos h]
  rfl

theorem ofNat_eq_iff {n : Nat} {b : UInt8} (h : n < 256) : UInt8.ofNat n = b ↔ n = b.toNat := by
  rw [← UInt8.toNat_inj, UInt8.toNat_ofNat', Nat.mod_eq_of_lt h]

theorem utf8EncodeChar_of_le {c : Char} (h : c.toNat ≤ 0x7F) :
    String.utf8EncodeChar c = [UInt8.ofNat c.toNat] := by
  have h' : c.val.toNat ≤ 0x7F := h
  simp only [String.utf8EncodeChar, h', if_true]
  rfl

theorem utf8EncodeChar_two {c : Char} (h : 0x80 ≤ c.toNat) (h' : c.toNat ≤ 0x7FF) :
    String.utf8EncodeChar c =
      [UInt8.ofNat (c.toNat / 64 + 0xC0), UInt8.ofNat (c.toNat % 64 + 0x80)] := by
  have hv : c.val.toNat = c.toNat := rfl
  simp only [String.utf8EncodeChar, hv]
  rw [if_neg (by omega), if_pos h', Nat.mod_eq_of_lt (show c.toNat / 64 < 32 by omega)]

theorem utf8EncodeChar_three {c : Char} (h : 0x800 ≤ c.toNat) (h' : c.toNat ≤ 0xFFFF) :
    String.utf8EncodeChar c =
      [UInt8.ofNat (c.toNat / 4096 + 0xE0), UInt8.ofNat (c.toNat / 64 % 64 + 0x80),
        UInt8.ofNat (c.toNat % 64 + 0x80)] := by
  have hv : c.val.toNat = c.toNat := rfl
  simp only [String.utf8EncodeChar, hv]
  rw [if_neg (by omega), if_neg (by omega), if_pos h',
    Nat.mod_eq_of_lt (show c.toNat / 4096 < 16 by omega)]

theorem toNat_lt (c : Char) : c.toNat < 0x110000 := by
  have := c.valid
  change c.toNat < _ ∨ _ < c.toNat ∧ c.toNat < _ at this
  omega

theorem utf8EncodeChar_four {c : Char} (h : 0x10000 ≤ c.toNat) :
    String.utf8EncodeChar c =
      [UInt8.ofNat (c.toNat / 262144 + 0xF0), UInt8.ofNat (c.toNat / 4096 % 64 + 0x80),
        UInt8.ofNat (c.toNat / 64 % 64 + 0x80), UInt8.ofNat (c.toNat % 64 + 0x80)] := by
  have hv : c.val.toNat = c.toNat := rfl
  have hlt := toNat_lt c
  simp only [String.utf8EncodeChar, hv]
  rw [if_neg (by omega), if_neg (by omega), if_neg (by omega),
    Nat.mod_eq_of_lt (show c.toNat / 262144 < 8 by omega)]

/-- Bytes below 80 stand for themselves and occur in no longer character. -/
theorem mem_utf8EncodeChar {b : UInt8} (hb : b.toNat < 0x80) {c : Char} :
    b ∈ String.utf8EncodeChar c ↔ c.toNat = b.toNat := by
  have hlt := toNat_lt c
  rcases Nat.lt_or_ge c.toNat 0x80 with h1 | h1
  · rw [utf8EncodeChar_of_le (by omega), List.mem_singleton, eq_comm, ofNat_eq_iff (by omega)]
  rcases Nat.lt_or_ge c.toNat 0x800 with h2 | h2
  · rw [utf8EncodeChar_two h1 (by omega)]
    simp only [List.mem_cons, List.not_mem_nil, or_false, eq_comm (a := b)]
    rw [ofNat_eq_iff (by omega), ofNat_eq_iff (by omega)]
    omega
  rcases Nat.lt_or_ge c.toNat 0x10000 with h3 | h3
  · rw [utf8EncodeChar_three h2 (by omega)]
    simp only [List.mem_cons, List.not_mem_nil, or_false, eq_comm (a := b)]
    rw [ofNat_eq_iff (by omega), ofNat_eq_iff (by omega), ofNat_eq_iff (by omega)]
    omega
  · rw [utf8EncodeChar_four h3]
    simp only [List.mem_cons, List.not_mem_nil, or_false, eq_comm (a := b)]
    rw [ofNat_eq_iff (by omega), ofNat_eq_iff (by omega), ofNat_eq_iff (by omega),
      ofNat_eq_iff (by omega)]
    omega

/-! ### What the first byte announces -/

theorem ofLead?_two {b : UInt8} (h : 0xC2 ≤ b.toNat) (h' : b.toNat ≤ 0xDF) :
    Partial.ofLead? b = some ⟨b.toNat - 0xC0, 1, 0x80, 0xBF⟩ := by
  have h1 : ¬b < 0xC2 := by rw [UInt8.lt_iff_toNat_lt]; simpa using h
  have h2 : b ≤ 0xDF := by rw [UInt8.le_iff_toNat_le]; simpa using h'
  rw [Partial.ofLead?, if_neg h1, if_pos h2]

theorem ofLead?_three {b : UInt8} (h : 0xE0 ≤ b.toNat) (h' : b.toNat ≤ 0xEF) :
    Partial.ofLead? b = some ⟨b.toNat - 0xE0, 2, if b = 0xE0 then 0xA0 else 0x80,
      if b = 0xED then 0x9F else 0xBF⟩ := by
  have h1 : ¬b < 0xC2 := by rw [UInt8.lt_iff_toNat_lt]; simp; omega
  have h2 : ¬b ≤ 0xDF := by rw [UInt8.le_iff_toNat_le]; simp; omega
  have h3 : b ≤ 0xEF := by rw [UInt8.le_iff_toNat_le]; simpa using h'
  rw [Partial.ofLead?, if_neg h1, if_neg h2]
  by_cases h4 : b = 0xE0
  · subst h4; rfl
  by_cases h5 : b = 0xED
  · subst h5; rfl
  rw [if_neg h4, if_neg h5, if_pos h3, if_neg h4, if_neg h5]

theorem ofLead?_four {b : UInt8} (h : 0xF0 ≤ b.toNat) (h' : b.toNat ≤ 0xF4) :
    Partial.ofLead? b = some ⟨b.toNat - 0xF0, 3, if b = 0xF0 then 0x90 else 0x80,
      if b = 0xF4 then 0x8F else 0xBF⟩ := by
  have h1 : ¬b < 0xC2 := by rw [UInt8.lt_iff_toNat_lt]; simp; omega
  have h2 : ¬b ≤ 0xDF := by rw [UInt8.le_iff_toNat_le]; simp; omega
  have h3 : ¬b ≤ 0xEF := by rw [UInt8.le_iff_toNat_le]; simp; omega
  have h4 : ¬b = 0xE0 := by rw [← UInt8.toNat_inj]; simp; omega
  have h5 : ¬b = 0xED := by rw [← UInt8.toNat_inj]; simp; omega
  rw [Partial.ofLead?, if_neg h1, if_neg h2, if_neg h4, if_neg h5, if_neg h3]
  by_cases h6 : b = 0xF0
  · subst h6; rfl
  by_cases h7 : b = 0xF4
  · subst h7; rfl
  have h8 : b ≤ 0xF3 := by
    rw [← UInt8.toNat_inj] at h7
    rw [UInt8.le_iff_toNat_le]
    simp at h7 ⊢
    omega
  rw [if_neg h6, if_pos h8, if_neg h6, if_neg h7]

theorem ofLead?_eq_none {b : UInt8} (h : b.toNat < 0xC2 ∨ 0xF4 < b.toNat) :
    Partial.ofLead? b = none := by
  simp only [Partial.ofLead?, UInt8.lt_iff_toNat_lt, UInt8.le_iff_toNat_le, ← UInt8.toNat_inj,
    UInt8.reduceToNat]
  rcases h with h | h
  · rw [if_pos h]
  · rw [if_neg (by omega), if_neg (by omega), if_neg (by omega), if_neg (by omega),
      if_neg (by omega), if_neg (by omega), if_neg (by omega), if_neg (by omega)]

/-- The longer characters are announced by three ranges of bytes. -/
theorem range_of_ofLead? {b : UInt8} {p : Partial} (h : Partial.ofLead? b = some p) :
    0xC2 ≤ b.toNat ∧ b.toNat ≤ 0xF4 := by
  apply Decidable.byContradiction
  intro hb
  rw [ofLead?_eq_none (by omega)] at h
  simp at h

/-! ### Bounds that depend on the first byte -/

theorem ite_le_iff {b v x y b1 : UInt8} (hxy : y ≤ x) :
    (if b = v then x else y).toNat ≤ b1.toNat ↔
      y.toNat ≤ b1.toNat ∧ (b.toNat = v.toNat → x.toNat ≤ b1.toNat) := by
  rw [UInt8.le_iff_toNat_le] at hxy
  rw [UInt8.toNat_inj]
  split
  · next hb => simp only [hb, forall_const]; omega
  · next hb => simp only [hb, false_implies, and_true]

theorem le_ite_iff {b v x y b1 : UInt8} (hxy : x ≤ y) :
    b1.toNat ≤ (if b = v then x else y).toNat ↔
      b1.toNat ≤ y.toNat ∧ (b.toNat = v.toNat → b1.toNat ≤ x.toNat) := by
  rw [UInt8.le_iff_toNat_le] at hxy
  rw [UInt8.toNat_inj]
  split
  · next hb => simp only [hb, forall_const]; omega
  · next hb => simp only [hb, false_implies, and_true]

/-! ### Reading a character -/

theorem feed_ascii (pieces : List (Option Char)) {b : UInt8} (h : b.toNat < 0x80) :
    Reader.feed ⟨pieces, none⟩ b = ⟨some (Char.ofNat b.toNat) :: pieces, none⟩ := by
  have h' : b < 0x80 := by rw [UInt8.lt_iff_toNat_lt]; simpa using h
  simp [Reader.feed, Reader.feedFirst, h']

theorem feed_lead (pieces : List (Option Char)) {b : UInt8} {p : Partial}
    (h : Partial.ofLead? b = some p) :
    Reader.feed ⟨pieces, none⟩ b = ⟨pieces, some p⟩ := by
  have hb := range_of_ofLead? h
  have h' : ¬b < 0x80 := by rw [UInt8.lt_iff_toNat_lt]; simp; omega
  simp only [Reader.feed, Reader.feedFirst, if_neg h', h]

theorem feed_last (pieces : List (Option Char)) {p : Partial} {b : UInt8}
    (hlow : p.low.toNat ≤ b.toNat) (hhigh : b.toNat ≤ p.high.toNat) (h : p.missing ≤ 1) :
    Reader.feed ⟨pieces, some p⟩ b =
      ⟨some (Char.ofNat (p.payload * 64 + (b.toNat - 0x80))) :: pieces, none⟩ := by
  simp [Reader.feed, UInt8.le_iff_toNat_le, hlow, hhigh, h]

theorem feed_more (pieces : List (Option Char)) {p : Partial} {b : UInt8}
    (hlow : p.low.toNat ≤ b.toNat) (hhigh : b.toNat ≤ p.high.toNat) (h : 1 < p.missing) :
    Reader.feed ⟨pieces, some p⟩ b =
      ⟨pieces, some ⟨p.payload * 64 + (b.toNat - 0x80), p.missing - 1, 0x80, 0xBF⟩⟩ := by
  have h' : ¬p.missing ≤ 1 := by omega
  simp [Reader.feed, UInt8.le_iff_toNat_le, hlow, hhigh, h']

theorem foldl_feed_two (pieces : List (Option Char)) {b b1 : UInt8} (h : 0xC2 ≤ b.toNat)
    (h' : b.toNat ≤ 0xDF) (h1 : 0x80 ≤ b1.toNat) (h1' : b1.toNat ≤ 0xBF) :
    [b, b1].foldl Reader.feed ⟨pieces, none⟩ =
      ⟨some (Char.ofNat ((b.toNat - 0xC0) * 64 + (b1.toNat - 0x80))) :: pieces, none⟩ := by
  have hlead := feed_lead pieces (ofLead?_two h h')
  have hlast : Reader.feed ⟨pieces, some ⟨b.toNat - 0xC0, 1, 0x80, 0xBF⟩⟩ b1 = _ :=
    feed_last pieces h1 h1' (Nat.le_refl 1)
  rw [List.foldl_cons, hlead, List.foldl_cons, hlast, List.foldl_nil]

theorem foldl_feed_three (pieces : List (Option Char)) {b b1 b2 : UInt8} (h : 0xE0 ≤ b.toNat)
    (h' : b.toNat ≤ 0xEF) (hlow : 0x80 ≤ b1.toNat ∧ (b.toNat = 0xE0 → 0xA0 ≤ b1.toNat))
    (hhigh : b1.toNat ≤ 0xBF ∧ (b.toNat = 0xED → b1.toNat ≤ 0x9F)) (h2 : 0x80 ≤ b2.toNat)
    (h2' : b2.toNat ≤ 0xBF) :
    [b, b1, b2].foldl Reader.feed ⟨pieces, none⟩ =
      ⟨some (Char.ofNat (((b.toNat - 0xE0) * 64 + (b1.toNat - 0x80)) * 64 +
        (b2.toNat - 0x80))) :: pieces, none⟩ := by
  have hlead := feed_lead pieces (ofLead?_three h h')
  have hmore : Reader.feed ⟨pieces, some ⟨b.toNat - 0xE0, 2, if b = 0xE0 then 0xA0 else 0x80,
      if b = 0xED then 0x9F else 0xBF⟩⟩ b1 =
        ⟨pieces, some ⟨(b.toNat - 0xE0) * 64 + (b1.toNat - 0x80), 1, 0x80, 0xBF⟩⟩ :=
    feed_more pieces ((ite_le_iff (by decide)).2 hlow) ((le_ite_iff (by decide)).2 hhigh)
      (Nat.lt_succ_self 1)
  have hlast : Reader.feed ⟨pieces, some ⟨(b.toNat - 0xE0) * 64 + (b1.toNat - 0x80), 1, 0x80,
      0xBF⟩⟩ b2 = _ := feed_last pieces h2 h2' (Nat.le_refl 1)
  rw [List.foldl_cons, hlead, List.foldl_cons, hmore, List.foldl_cons, hlast, List.foldl_nil]

theorem foldl_feed_four (pieces : List (Option Char)) {b b1 b2 b3 : UInt8}
    (h : 0xF0 ≤ b.toNat) (h' : b.toNat ≤ 0xF4)
    (hlow : 0x80 ≤ b1.toNat ∧ (b.toNat = 0xF0 → 0x90 ≤ b1.toNat))
    (hhigh : b1.toNat ≤ 0xBF ∧ (b.toNat = 0xF4 → b1.toNat ≤ 0x8F)) (h2 : 0x80 ≤ b2.toNat)
    (h2' : b2.toNat ≤ 0xBF) (h3 : 0x80 ≤ b3.toNat) (h3' : b3.toNat ≤ 0xBF) :
    [b, b1, b2, b3].foldl Reader.feed ⟨pieces, none⟩ =
      ⟨some (Char.ofNat ((((b.toNat - 0xF0) * 64 + (b1.toNat - 0x80)) * 64 +
        (b2.toNat - 0x80)) * 64 + (b3.toNat - 0x80))) :: pieces, none⟩ := by
  have hlead := feed_lead pieces (ofLead?_four h h')
  have hmore : Reader.feed ⟨pieces, some ⟨b.toNat - 0xF0, 3, if b = 0xF0 then 0x90 else 0x80,
      if b = 0xF4 then 0x8F else 0xBF⟩⟩ b1 =
        ⟨pieces, some ⟨(b.toNat - 0xF0) * 64 + (b1.toNat - 0x80), 2, 0x80, 0xBF⟩⟩ :=
    feed_more pieces ((ite_le_iff (by decide)).2 hlow) ((le_ite_iff (by decide)).2 hhigh)
      (show 1 < 3 by omega)
  have hmore' : Reader.feed ⟨pieces, some ⟨(b.toNat - 0xF0) * 64 + (b1.toNat - 0x80), 2, 0x80,
      0xBF⟩⟩ b2 = ⟨pieces, some ⟨((b.toNat - 0xF0) * 64 + (b1.toNat - 0x80)) * 64 +
        (b2.toNat - 0x80), 1, 0x80, 0xBF⟩⟩ := feed_more pieces h2 h2' (Nat.lt_succ_self 1)
  have hlast : Reader.feed ⟨pieces, some ⟨((b.toNat - 0xF0) * 64 + (b1.toNat - 0x80)) * 64 +
      (b2.toNat - 0x80), 1, 0x80, 0xBF⟩⟩ b3 = _ := feed_last pieces h3 h3' (Nat.le_refl 1)
  rw [List.foldl_cons, hlead, List.foldl_cons, hmore, List.foldl_cons, hmore', List.foldl_cons,
    hlast, List.foldl_nil]

theorem toNat_byte {n : Nat} (h : n < 256) : (UInt8.ofNat n).toNat = n := by
  rw [UInt8.toNat_ofNat', Nat.mod_eq_of_lt h]

/-- The bytes of a character are read as this character. -/
theorem foldl_feed_utf8EncodeChar (pieces : List (Option Char)) (c : Char) :
    (String.utf8EncodeChar c).foldl Reader.feed ⟨pieces, none⟩ = ⟨some c :: pieces, none⟩ := by
  have hlt := toNat_lt c
  have hc := Char.ofNat_toNat c
  rcases Nat.lt_or_ge c.toNat 0x80 with h1 | h1
  · have hb := toNat_byte (show c.toNat < 256 by omega)
    rw [utf8EncodeChar_of_le (by omega), List.foldl_cons, feed_ascii pieces (by omega), hb, hc,
      List.foldl_nil]
  rcases Nat.lt_or_ge c.toNat 0x800 with h2 | h2
  · have hb := toNat_byte (show c.toNat / 64 + 0xC0 < 256 by omega)
    have hb1 := toNat_byte (show c.toNat % 64 + 0x80 < 256 by omega)
    rw [utf8EncodeChar_two h1 (by omega),
      foldl_feed_two pieces (by omega) (by omega) (by omega) (by omega), hb, hb1,
      show (c.toNat / 64 + 0xC0 - 0xC0) * 64 + (c.toNat % 64 + 0x80 - 0x80) = c.toNat by omega,
      hc]
  rcases Nat.lt_or_ge c.toNat 0x10000 with h3 | h3
  · have hb := toNat_byte (show c.toNat / 4096 + 0xE0 < 256 by omega)
    have hb1 := toNat_byte (show c.toNat / 64 % 64 + 0x80 < 256 by omega)
    have hb2 := toNat_byte (show c.toNat % 64 + 0x80 < 256 by omega)
    have hsurrogate := c.valid
    change c.toNat < 0xD800 ∨ 0xDFFF < c.toNat ∧ c.toNat < 0x110000 at hsurrogate
    rw [utf8EncodeChar_three h2 (by omega),
      foldl_feed_three pieces (by omega) (by omega) (by omega) (by omega) (by omega) (by omega),
      hb, hb1, hb2,
      show ((c.toNat / 4096 + 0xE0 - 0xE0) * 64 + (c.toNat / 64 % 64 + 0x80 - 0x80)) * 64 +
        (c.toNat % 64 + 0x80 - 0x80) = c.toNat by omega, hc]
  · have hb := toNat_byte (show c.toNat / 262144 + 0xF0 < 256 by omega)
    have hb1 := toNat_byte (show c.toNat / 4096 % 64 + 0x80 < 256 by omega)
    have hb2 := toNat_byte (show c.toNat / 64 % 64 + 0x80 < 256 by omega)
    have hb3 := toNat_byte (show c.toNat % 64 + 0x80 < 256 by omega)
    rw [utf8EncodeChar_four h3,
      foldl_feed_four pieces (by omega) (by omega) (by omega) (by omega) (by omega) (by omega)
        (by omega) (by omega), hb, hb1, hb2, hb3,
      show (((c.toNat / 262144 + 0xF0 - 0xF0) * 64 + (c.toNat / 4096 % 64 + 0x80 - 0x80)) *
        64 + (c.toNat / 64 % 64 + 0x80 - 0x80)) * 64 + (c.toNat % 64 + 0x80 - 0x80) =
        c.toNat by omega, hc]

theorem foldl_feed_encode (pieces : List (Option Char)) (s : List Char) :
    (encode s).foldl Reader.feed ⟨pieces, none⟩ = ⟨s.reverse.map some ++ pieces, none⟩ := by
  induction s generalizing pieces with
  | nil => rfl
  | cons c s ih =>
    rw [encode_cons, List.foldl_append, foldl_feed_utf8EncodeChar, ih]
    simp

theorem pieces_encode (s : List Char) : pieces (encode s) = s.map some := by
  rw [pieces, Reader.start, foldl_feed_encode]
  simp [Reader.finish]

theorem decode?_encode (s : List Char) : decode? (encode s) = some s := by
  rw [decode?, pieces_encode]
  simp [List.filterMap_map]

/-! ### Nothing else is read -/

/-- Whichever bytes complete what a reader holds inside a character, the bytes
held and these are the bytes of the character that is then seen. -/
def Spells (held : Bytes) (payload : Nat) (low high : UInt8) : (missing : Nat) → Prop
  | 0 | 1 => ∀ b : UInt8, low.toNat ≤ b.toNat → b.toNat ≤ high.toNat →
    String.utf8EncodeChar (Char.ofNat (payload * 64 + (b.toNat - 0x80))) = held ++ [b]
  | missing + 2 => ∀ b : UInt8, low.toNat ≤ b.toNat → b.toNat ≤ high.toNat →
    Spells (held ++ [b]) (payload * 64 + (b.toNat - 0x80)) 0x80 0xBF (missing + 1)

theorem Spells.last {held : Bytes} {payload missing : Nat} {low high : UInt8}
    (h : Spells held payload low high missing) (hmissing : missing ≤ 1) {b : UInt8}
    (hlow : low.toNat ≤ b.toNat) (hhigh : b.toNat ≤ high.toNat) :
    String.utf8EncodeChar (Char.ofNat (payload * 64 + (b.toNat - 0x80))) = held ++ [b] := by
  match missing, hmissing with
  | 0, _ => exact h b hlow hhigh
  | 1, _ => exact h b hlow hhigh

theorem Spells.more {held : Bytes} {payload missing : Nat} {low high : UInt8}
    (h : Spells held payload low high missing) (hmissing : 1 < missing) {b : UInt8}
    (hlow : low.toNat ≤ b.toNat) (hhigh : b.toNat ≤ high.toNat) :
    Spells (held ++ [b]) (payload * 64 + (b.toNat - 0x80)) 0x80 0xBF (missing - 1) := by
  match missing, hmissing with
  | missing + 2, _ => exact h b hlow hhigh

theorem spells_two {b : UInt8} (h : 0xC2 ≤ b.toNat) (h' : b.toNat ≤ 0xDF) :
    Spells [b] (b.toNat - 0xC0) 0x80 0xBF 1 := by
  intro b1 h1 h1'
  simp at h1 h1'
  have hc := toNat_ofNat_of_isValidChar
    (n := (b.toNat - 0xC0) * 64 + (b1.toNat - 0x80)) (.inl (by omega))
  rw [utf8EncodeChar_two (by omega) (by omega), hc]
  simp only [List.cons_append, List.nil_append, List.cons.injEq, and_true]
  constructor
  · rw [ofNat_eq_iff (by omega)]; omega
  · rw [ofNat_eq_iff (by omega)]; omega

theorem spells_three {b : UInt8} (h : 0xE0 ≤ b.toNat) (h' : b.toNat ≤ 0xEF) :
    Spells [b] (b.toNat - 0xE0) (if b = 0xE0 then 0xA0 else 0x80)
      (if b = 0xED then 0x9F else 0xBF) 2 := by
  intro b1 h1 h1' b2 h2 h2'
  have hlow : 0x80 ≤ b1.toNat ∧ (b.toNat = 0xE0 → 0xA0 ≤ b1.toNat) :=
    (ite_le_iff (by decide)).1 h1
  have hhigh : b1.toNat ≤ 0xBF ∧ (b.toNat = 0xED → b1.toNat ≤ 0x9F) :=
    (le_ite_iff (by decide)).1 h1'
  simp at h2 h2'
  have hc := toNat_ofNat_of_isValidChar
    (n := ((b.toNat - 0xE0) * 64 + (b1.toNat - 0x80)) * 64 + (b2.toNat - 0x80)) (by
      -- the bound on the second byte after `ED` keeps the surrogates out
      rcases Nat.lt_or_ge b.toNat 0xEE with hb | hb
      · exact .inl (by omega)
      · exact .inr (by omega))
  rw [utf8EncodeChar_three (by omega) (by omega), hc]
  simp only [List.cons_append, List.nil_append, List.cons.injEq, and_true]
  refine ⟨?_, ?_, ?_⟩
  · rw [ofNat_eq_iff (by omega)]; omega
  · rw [ofNat_eq_iff (by omega)]; omega
  · rw [ofNat_eq_iff (by omega)]; omega

theorem spells_four {b : UInt8} (h : 0xF0 ≤ b.toNat) (h' : b.toNat ≤ 0xF4) :
    Spells [b] (b.toNat - 0xF0) (if b = 0xF0 then 0x90 else 0x80)
      (if b = 0xF4 then 0x8F else 0xBF) 3 := by
  intro b1 h1 h1' b2 h2 h2' b3 h3 h3'
  have hlow : 0x80 ≤ b1.toNat ∧ (b.toNat = 0xF0 → 0x90 ≤ b1.toNat) :=
    (ite_le_iff (by decide)).1 h1
  have hhigh : b1.toNat ≤ 0xBF ∧ (b.toNat = 0xF4 → b1.toNat ≤ 0x8F) :=
    (le_ite_iff (by decide)).1 h1'
  simp at h2 h2' h3 h3'
  have hc := toNat_ofNat_of_isValidChar
    (n := (((b.toNat - 0xF0) * 64 + (b1.toNat - 0x80)) * 64 + (b2.toNat - 0x80)) * 64 +
      (b3.toNat - 0x80)) (.inr (by omega))
  rw [utf8EncodeChar_four (by omega), hc]
  simp only [List.cons_append, List.nil_append, List.cons.injEq, and_true]
  refine ⟨?_, ?_, ?_, ?_⟩
  · rw [ofNat_eq_iff (by omega)]; omega
  · rw [ofNat_eq_iff (by omega)]; omega
  · rw [ofNat_eq_iff (by omega)]; omega
  · rw [ofNat_eq_iff (by omega)]; omega

theorem spells_of_ofLead? {b : UInt8} {p : Partial} (h : Partial.ofLead? b = some p) :
    Spells [b] p.payload p.low p.high p.missing := by
  have hb := range_of_ofLead? h
  rcases Nat.lt_or_ge b.toNat 0xE0 with h2 | h2
  · rw [ofLead?_two (by omega) (by omega)] at h
    rw [← Option.some.inj h]
    exact spells_two (by omega) (by omega)
  rcases Nat.lt_or_ge b.toNat 0xF0 with h3 | h3
  · rw [ofLead?_three (by omega) (by omega)] at h
    rw [← Option.some.inj h]
    exact spells_three (by omega) (by omega)
  · rw [ofLead?_four (by omega) (by omega)] at h
    rw [← Option.some.inj h]
    exact spells_four (by omega) (by omega)

/-- What a reader knows of the bytes it was fed: unless one of its pieces is
broken, they are the encoding of its pieces and then what it holds. -/
def Reader.Agrees (r : Reader) (fed : Bytes) : Prop :=
  none ∈ r.pieces ∨ ∃ s held, r.pieces = (s.map some).reverse ∧ fed = encode s ++ held ∧
    match r.inside with
    | none => held = []
    | some p => Spells held p.payload p.low p.high p.missing

theorem mem_pieces_feed {r : Reader} (b : UInt8) (h : none ∈ r.pieces) :
    none ∈ (r.feed b).pieces := by
  have hfirst (pieces : List (Option Char)) (h : none ∈ pieces) :
      none ∈ (Reader.feedFirst pieces b).pieces := by
    unfold Reader.feedFirst
    split
    · simp [h]
    · split <;> simp [h]
  unfold Reader.feed
  split
  · exact hfirst _ h
  · split
    · split <;> simp [h]
    · exact hfirst _ (by simp)

theorem agrees_feedFirst {pieces : List (Option Char)} {s : List Char} (b : UInt8)
    (h : pieces = (s.map some).reverse) :
    (Reader.feed ⟨pieces, none⟩ b).Agrees (encode s ++ [b]) := by
  rcases Nat.lt_or_ge b.toNat 0x80 with hb | hb
  · have hc := toNat_ofNat_of_isValidChar (n := b.toNat) (.inl (by omega))
    rw [feed_ascii pieces hb]
    refine .inr ⟨s ++ [Char.ofNat b.toNat], [], by simp [h], ?_, rfl⟩
    rw [encode_append, encode_cons, utf8EncodeChar_of_le (by omega), hc, UInt8.ofNat_toNat]
    simp
  · cases hp : Partial.ofLead? b with
    | none =>
      have h' : ¬b < 0x80 := by rw [UInt8.lt_iff_toNat_lt]; simpa using hb
      exact .inl (by simp [Reader.feed, Reader.feedFirst, h', hp])
    | some p =>
      rw [feed_lead pieces hp]
      exact .inr ⟨s, [b], h, rfl, spells_of_ofLead? hp⟩

/-- A byte that the reader can take inside a character: the last of them completes
the character, and any other is held with those before. -/
theorem agrees_feed_inside {pieces : List (Option Char)} {p : Partial} {s : List Char}
    {held : Bytes} {b : UInt8} (hpieces : pieces = (s.map some).reverse)
    (hheld : Spells held p.payload p.low p.high p.missing) (hlow : p.low.toNat ≤ b.toNat)
    (hhigh : b.toNat ≤ p.high.toNat) :
    (Reader.feed ⟨pieces, some p⟩ b).Agrees (encode s ++ (held ++ [b])) := by
  rcases Nat.lt_or_ge 1 p.missing with hmissing | hmissing
  · rw [feed_more pieces hlow hhigh hmissing]
    exact .inr ⟨s, held ++ [b], hpieces, rfl, hheld.more hmissing hlow hhigh⟩
  · rw [feed_last pieces hlow hhigh hmissing]
    refine .inr ⟨s ++ [Char.ofNat (p.payload * 64 + (b.toNat - 0x80))], [], ?_, ?_, rfl⟩
    · rw [List.map_append, List.reverse_append, ← hpieces]
      rfl
    · rw [← hheld.last hmissing hlow hhigh, encode_append, encode_cons, encode_nil,
        List.append_nil, List.append_nil]

theorem agrees_feed {r : Reader} {fed : Bytes} (b : UInt8) (h : r.Agrees fed) :
    (r.feed b).Agrees (fed ++ [b]) := by
  obtain ⟨pieces, inside⟩ := r
  rcases h with h | ⟨s, held, hs, hfed, hheld⟩
  · exact .inl (mem_pieces_feed b h)
  cases inside with
  | none =>
    cases hheld
    simpa [hfed] using agrees_feedFirst b hs
  | some p =>
    by_cases hb : p.low.toNat ≤ b.toNat ∧ b.toNat ≤ p.high.toNat
    · rw [hfed, List.append_assoc]
      exact agrees_feed_inside hs hheld hb.1 hb.2
    · -- the byte breaks the character off, and what is broken stays broken
      have hb' : ¬(p.low ≤ b ∧ b ≤ p.high) := by
        simpa [UInt8.le_iff_toNat_le] using hb
      left
      simp only [Reader.feed, Bool.and_eq_true, decide_eq_true_eq, if_neg hb']
      exact mem_pieces_feed (r := ⟨none :: pieces, none⟩) b (by simp)

theorem agrees_foldl {r : Reader} {fed : Bytes} (bytes : Bytes) (h : r.Agrees fed) :
    (bytes.foldl Reader.feed r).Agrees (fed ++ bytes) := by
  induction bytes generalizing r fed with
  | nil => simpa using h
  | cons b bytes ih => simpa using ih (agrees_feed b h)

theorem pieces_of_decode? {bytes : Bytes} {s : List Char} (h : decode? bytes = some s) :
    pieces bytes = s.map some := by
  unfold decode? at h
  split at h
  · next hall =>
    rw [← Option.some.inj h, List.map_filterMap_some_eq_filter_map_isSome, List.map_id,
      List.filter_eq_self.2 (List.all_eq_true.1 hall)]
  · simp at h

theorem encode_of_decode? {bytes : Bytes} {s : List Char} (h : decode? bytes = some s) :
    encode s = bytes := by
  have hpieces := pieces_of_decode? h
  have hagrees : (bytes.foldl Reader.feed Reader.start).Agrees bytes := by
    simpa using agrees_foldl (r := Reader.start) bytes (.inr ⟨[], [], rfl, rfl, rfl⟩)
  rw [pieces] at hpieces
  generalize bytes.foldl Reader.feed Reader.start = r at hpieces hagrees
  obtain ⟨seen, inside⟩ := r
  cases inside with
  | some p =>
    -- a character that was begun and not completed is a broken piece
    have hmem : none ∈ s.map some := hpieces ▸ by simp [Reader.finish]
    simp at hmem
  | none =>
    have hseen : seen = (s.map some).reverse := by rw [← hpieces]; simp [Reader.finish]
    rcases hagrees with hmem | ⟨t, held, ht, hbytes, hheld⟩
    · simp [hseen] at hmem
    · cases hheld
      have hst : t = s := by
        have := ht.symm.trans hseen
        simpa [List.map_inj_right] using this
      rw [hbytes, hst, List.append_nil]

theorem decode?_eq_some_iff {bytes : Bytes} {s : List Char} :
    decode? bytes = some s ↔ encode s = bytes :=
  ⟨encode_of_decode?, fun h => h ▸ decode?_encode s⟩

/-- Whatever the bytes are, something is shown for them. -/
theorem decodeLossy_eq_nil_iff {bytes : Bytes} : decodeLossy bytes = [] ↔ bytes = [] := by
  constructor
  · intro h
    have hpieces : pieces bytes = [] := List.map_eq_nil_iff.1 h
    have hdecode : decode? bytes = some [] := by
      rw [decode?, hpieces]
      rfl
    exact (decode?_eq_some_iff.1 hdecode).symm
  · rintro rfl
    rfl

end ServiceProbe.Text
