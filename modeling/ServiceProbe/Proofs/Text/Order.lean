import Mathlib
import ServiceProbe.Proofs.Text.Utf8
import ServiceProbe.Text.Sorted

/-!
The order of texts is the order of their bytes. A character that comes later is
written with a greater first byte, or with as many bytes and the same first one
and then a greater number in the others; so UTF-8 keeps the order of characters
whatever follows them, and with it the order of texts.
-/

namespace ServiceProbe.Text

theorem cons_ofNat_lt {m n : Nat} {s t : Bytes} (hn : n < 256) (h : m < n ∨ m = n ∧ s < t) :
    UInt8.ofNat m :: s < UInt8.ofNat n :: t := by
  rw [List.cons_lt_cons_iff]
  rcases h with hlt | ⟨rfl, hrest⟩
  · left
    rw [UInt8.lt_iff_toNat_lt, toNat_byte (by omega), toNat_byte hn]
    exact hlt
  · exact .inr ⟨rfl, hrest⟩

/-- The last `k` bytes of a longer character: six bits each, the highest first. -/
def continuation : (k : Nat) → Nat → Bytes
  | 0, _ => []
  | k + 1, n => UInt8.ofNat (n / 64 ^ k % 64 + 0x80) :: continuation k n

theorem continuation_append_lt {k m n : Nat} (h : m % 64 ^ k < n % 64 ^ k) (s t : Bytes) :
    continuation k m ++ s < continuation k n ++ t := by
  induction k with
  | zero => simp [Nat.mod_one] at h
  | succ k ih =>
    rw [Nat.mod_pow_succ, Nat.mod_pow_succ] at h
    refine cons_ofNat_lt (by omega) ?_
    -- the highest six bits decide, unless they are the same
    rcases Nat.lt_trichotomy (m / 64 ^ k % 64) (n / 64 ^ k % 64) with hlt | heq | hgt
    · exact .inl (by omega)
    · rw [heq] at h ⊢
      exact .inr ⟨rfl, ih (by omega)⟩
    · have hn : n % 64 ^ k < 64 ^ k := Nat.mod_lt _ (Nat.pow_pos (by decide))
      have hle := Nat.mul_le_mul_left (64 ^ k) (Nat.succ_le_of_lt hgt)
      rw [Nat.mul_succ] at hle
      omega

/-- How many bytes follow the first byte of a character, and what the first byte
adds to the bits that are left for it. -/
inductive Layout (n : Nat) : (k lead : Nat) → Prop
  | one (h : n < 0x80) : Layout n 0 0
  | two (h : 0x80 ≤ n) (h' : n < 0x800) : Layout n 1 0xC0
  | three (h : 0x800 ≤ n) (h' : n < 0x10000) : Layout n 2 0xE0
  | four (h : 0x10000 ≤ n) (h' : n < 0x110000) : Layout n 3 0xF0

theorem utf8EncodeChar_eq (c : Char) :
    ∃ k lead, Layout c.toNat k lead ∧ String.utf8EncodeChar c =
      UInt8.ofNat (c.toNat / 64 ^ k + lead) :: continuation k c.toNat := by
  rcases Nat.lt_or_ge c.toNat 0x80 with h1 | h1
  · refine ⟨0, 0, .one h1, ?_⟩
    rw [utf8EncodeChar_of_le (by omega)]
    simp [continuation]
  rcases Nat.lt_or_ge c.toNat 0x800 with h2 | h2
  · refine ⟨1, 0xC0, .two h1 h2, ?_⟩
    rw [utf8EncodeChar_two h1 (by omega)]
    simp [continuation]
  rcases Nat.lt_or_ge c.toNat 0x10000 with h3 | h3
  · refine ⟨2, 0xE0, .three h2 h3, ?_⟩
    rw [utf8EncodeChar_three h2 (by omega)]
    simp [continuation]
  · refine ⟨3, 0xF0, .four h3 (toNat_lt c), ?_⟩
    rw [utf8EncodeChar_four h3]
    simp [continuation]

theorem Layout.first_lt {n k lead : Nat} (h : Layout n k lead) : n / 64 ^ k + lead < 256 := by
  cases h <;> omega

/-- A greater number has a greater first byte, or as many bytes and a greater
number in the others. -/
theorem Layout.lt_or {m n k l lead lead' : Nat} (hm : Layout m k lead) (hn : Layout n l lead')
    (h : m < n) : m / 64 ^ k + lead < n / 64 ^ l + lead' ∨
      m / 64 ^ k + lead = n / 64 ^ l + lead' ∧ k = l ∧ m % 64 ^ k < n % 64 ^ k := by
  cases hm <;> cases hn <;> omega

theorem utf8EncodeChar_append_lt {c d : Char} (h : c.toNat < d.toNat) (s t : Bytes) :
    String.utf8EncodeChar c ++ s < String.utf8EncodeChar d ++ t := by
  obtain ⟨k, lead, hk, hc⟩ := utf8EncodeChar_eq c
  obtain ⟨l, lead', hl, hd⟩ := utf8EncodeChar_eq d
  rw [hc, hd, List.cons_append, List.cons_append]
  refine cons_ofNat_lt hl.first_lt ((hk.lt_or hl h).imp_right ?_)
  rintro ⟨hfirst, rfl, hrest⟩
  exact ⟨hfirst, continuation_append_lt hrest s t⟩

/-- A text that comes first comes first as bytes too. -/
theorem encode_lt_encode {s t : List Char} (h : List.Lex (fun c d => c.toNat < d.toNat) s t) :
    encode s < encode t := by
  induction h with
  | @nil d t =>
    obtain ⟨k, lead, -, hd⟩ := utf8EncodeChar_eq d
    rw [encode_cons, hd]
    exact List.nil_lt_cons _ _
  | rel hlt =>
    rw [encode_cons, encode_cons]
    exact utf8EncodeChar_append_lt hlt _ _
  | cons _ ih =>
    rw [encode_cons, encode_cons]
    exact List.append_left_lt ih

theorem encode_lt_encode_of_lt {s t : String} (h : s < t) :
    encode s.toList < encode t.toList :=
  encode_lt_encode (String.lt_iff.1 h)

/-- Texts come in the order of their bytes. -/
theorem encode_le_encode_iff {s t : String} : encode s.toList ≤ encode t.toList ↔ s ≤ t := by
  constructor
  · intro h
    rw [← String.not_lt]
    exact fun hlt => List.not_lt.2 h (encode_lt_encode_of_lt hlt)
  · intro h
    by_cases hlt : s < t
    · exact List.le_of_lt (encode_lt_encode_of_lt hlt)
    · rw [String.le_antisymm h (String.not_lt.1 hlt)]
      exact List.le_refl _

/-! ### Sorted texts -/

/-- The texts stand in the order of their bytes. -/
def ByteSorted (texts : List String) : Prop :=
  texts.Pairwise fun s t => encode s.toList ≤ encode t.toList

theorem byteSorted_sorted (texts : List String) : ByteSorted (sorted texts) := by
  have hsorted : (sorted texts).Pairwise fun s t => decide (s ≤ t) = true := by
    refine List.pairwise_mergeSort ?_ ?_ texts
    · intro s t u hst htu
      simp only [decide_eq_true_eq] at hst htu ⊢
      exact String.le_trans hst htu
    · intro s t
      simpa using String.le_total s t
  refine hsorted.imp fun {s t} hst => ?_
  rw [encode_le_encode_iff]
  exact of_decide_eq_true hst

/-- Sorting gives the one arrangement in the order of the bytes. -/
theorem eq_sorted_iff {order texts : List String} :
    order = sorted texts ↔ order.Perm texts ∧ ByteSorted order := by
  constructor
  · rintro rfl
    exact ⟨sorted_perm texts, byteSorted_sorted texts⟩
  · rintro ⟨hperm, hsorted⟩
    refine List.Perm.eq_of_pairwise ?_ hsorted (byteSorted_sorted texts)
      (hperm.trans (sorted_perm texts).symm)
    intro s t _ _ hst hts
    rw [encode_le_encode_iff] at hst hts
    exact String.le_antisymm hst hts

end ServiceProbe.Text
