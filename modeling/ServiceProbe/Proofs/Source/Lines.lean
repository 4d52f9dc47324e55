import ServiceProbe.Proofs.Text.Blank
import ServiceProbe.Proofs.Text.Utf8
import ServiceProbe.Source

/-!
Lines of a content, as bytes. No line holds a line feed, and trimmed texts that
hold none are found again as the lines of the text that has one on each line: a
character that is not a line feed has no byte of that value, and a trimmed text
does not end in a carriage return.
-/

namespace ServiceProbe

open Text

/-! ### Line ends as bytes -/

theorem mem_encode {b : UInt8} {c : Char} (hb : b.toNat < 0x80) (hc : c.toNat = b.toNat)
    {s : List Char} : b ∈ encode s ↔ c ∈ s := by
  rw [encode, List.mem_flatMap]
  constructor
  · rintro ⟨d, hd, hmem⟩
    rw [mem_utf8EncodeChar hb, ← hc, Char.toNat_inj] at hmem
    exact hmem ▸ hd
  · intro h
    exact ⟨c, h, (mem_utf8EncodeChar hb).2 hc⟩

theorem lineFeed_mem_encode {s : List Char} : lineFeed ∈ encode s ↔ '\n' ∈ s :=
  mem_encode (by decide) (by decide)

theorem encode_ne_nil {s : List Char} (h : s ≠ []) : encode s ≠ [] := by
  cases s with
  | nil => contradiction
  | cons c s =>
    rw [encode_cons]
    exact List.append_ne_nil_of_left_ne_nil String.utf8EncodeChar_ne_nil _

theorem eq_return_of_getLast?_encode {s : List Char} {c : Char}
    (h : (encode (s ++ [c])).getLast? = some carriageReturn) : c = '\r' := by
  rw [encode_append, encode_cons, encode_nil, List.append_nil, List.getLast?_append,
    List.getLast?_eq_some_getLast String.utf8EncodeChar_ne_nil, Option.some_or] at h
  have hmem : carriageReturn ∈ String.utf8EncodeChar c :=
    Option.some.inj h ▸ List.getLast_mem _
  exact Char.toNat_inj.1 ((mem_utf8EncodeChar (by decide)).1 hmem)

/-- A trimmed text has no carriage return to lose. -/
theorem dropReturn_encode {s : List Char} (h : Trimmed s) : dropReturn (encode s) = encode s := by
  rcases List.eq_nil_or_concat s with rfl | ⟨s, c, rfl⟩
  · rfl
  · have hc : isBlank c = false := h.2 c (by simp)
    rw [dropReturn]
    split
    · next b hb =>
      refine if_neg ?_
      rintro rfl
      rw [List.concat_eq_append] at hb
      rw [eq_return_of_getLast?_encode hb] at hc
      contradiction
    · rfl

/-- A carriage return at the end of a line is one of the text that the line holds. -/
theorem decode?_append_return (line : Bytes) :
    decode? (line ++ [carriageReturn]) = (decode? line).map (· ++ ['\r']) := by
  ext text
  rw [decode?_eq_some_iff, Option.map_eq_some_iff]
  constructor
  · intro h
    rcases List.eq_nil_or_concat text with rfl | ⟨s, c, rfl⟩
    · simp at h
    · rw [List.concat_eq_append] at h
      obtain rfl : c = '\r' := eq_return_of_getLast?_encode (by rw [h, List.getLast?_concat])
      rw [encode_append] at h
      exact ⟨s, decode?_eq_some_iff.2 (List.append_cancel_right h), List.concat_eq_append.symm⟩
  · rintro ⟨s, hs, rfl⟩
    rw [encode_append, decode?_eq_some_iff.1 hs]
    rfl

/-! ### Lines -/

theorem splitLines_nil : splitLines [] = [] := by
  rw [splitLines, if_pos rfl]

theorem splitLines_of_not_mem {line : Bytes} (hne : line ≠ []) (h : lineFeed ∉ line) :
    splitLines line = [line] := by
  have hdrop : line.dropWhile (· != lineFeed) = [] :=
    List.dropWhile_eq_nil_iff.2 (bne_of_not_mem h)
  rw [splitLines, if_neg hne]
  split
  · rfl
  · next heq => simp [hdrop] at heq

theorem splitLines_append {line : Bytes} (h : lineFeed ∉ line) (rest : Bytes) :
    splitLines (line ++ lineFeed :: rest) = dropReturn line :: splitLines rest := by
  have hstops : Stops (· != lineFeed) (lineFeed :: rest) := stops_cons.2 (by simp)
  have hdrop := dropWhile_append_of_stops (bne_of_not_mem h) hstops
  have htake := takeWhile_append_of_stops (bne_of_not_mem h) hstops
  rw [splitLines, if_neg (by simp)]
  split
  · next heq => simp [hdrop] at heq
  · next heq =>
    rw [hdrop] at heq
    cases heq
    rw [htake]

theorem not_mem_dropReturn {line : Bytes} (h : lineFeed ∉ line) :
    lineFeed ∉ dropReturn line := by
  unfold dropReturn
  split
  · split
    · exact fun hmem => h (List.dropLast_subset _ hmem)
    · exact h
  · exact h

/-- No line holds a line feed. -/
theorem not_mem_of_mem_splitLines {content line : Bytes} (h : line ∈ splitLines content) :
    lineFeed ∉ line := by
  fun_induction splitLines content with
  | case1 => simp at h
  | case2 content hne hdrop =>
    rw [List.mem_singleton] at h
    rw [h]
    intro hmem
    simpa using List.dropWhile_eq_nil_iff.1 hdrop _ hmem
  | case3 content hne b rest hdrop ih =>
    rcases List.mem_cons.1 h with rfl | h
    · refine not_mem_dropReturn fun hmem => ?_
      simpa using List.mem_takeWhile_imp hmem
    · exact ih h

/-- Texts that are written one on each line are read as those lines. -/
theorem splitLines_intercalate {texts : List String}
    (h : ∀ s ∈ texts, s.toList ≠ [] ∧ Trimmed s.toList ∧ '\n' ∉ s.toList) :
    splitLines (encode ("\n".intercalate texts).toList) = texts.map (encode ·.toList) := by
  induction texts with
  | nil => exact splitLines_nil
  | cons s texts ih =>
    rw [List.forall_mem_cons] at h
    obtain ⟨⟨hne, htrimmed, hline⟩, hrest⟩ := h
    have hfeed : lineFeed ∉ encode s.toList := fun hmem => hline (lineFeed_mem_encode.1 hmem)
    cases texts with
    | nil =>
      rw [String.intercalate_singleton, splitLines_of_not_mem (encode_ne_nil hne) hfeed]
      rfl
    | cons s' texts =>
      have hencode : encode ("\n".intercalate (s :: s' :: texts)).toList =
          encode s.toList ++ lineFeed :: encode ("\n".intercalate (s' :: texts)).toList := by
        rw [String.intercalate_cons_cons]
        simp [String.toList_append]
        rfl
      rw [hencode, splitLines_append hfeed, dropReturn_encode htrimmed, ih hrest]
      rfl

end ServiceProbe
