import Mathlib.Data.List.TakeWhile
import ServiceProbe.Text.Blank

/-!
Where a run of characters of one class ends. A run is divided from what follows
it in one way only: the run holds the class and the rest does not begin with it.
From this come the facts about words, gaps and trimmed texts: a trimmed text
begins and ends with a character that is not blank, and trimming leaves a text
of that form alone.
-/

namespace ServiceProbe.Text

variable {α : Type}

/-- Nothing of the class stands at the front of a text. -/
def Stops (p : α → Bool) (s : List α) : Prop := ∀ c, s.head? = some c → p c = false

/-- One blank or more. -/
def Gap (w : List Char) : Prop := w ≠ [] ∧ ∀ c ∈ w, isBlank c = true

/-- A text that is not empty and holds no blank. -/
def Word (w : List Char) : Prop := w ≠ [] ∧ ∀ c ∈ w, isBlank c = false

/-! ### Runs -/

theorem stops_nil (p : α → Bool) : Stops p [] := by
  intro c h
  simp at h

theorem stops_cons {p : α → Bool} {c : α} {s : List α} :
    Stops p (c :: s) ↔ p c = false := by
  simp [Stops]

theorem stops_append {p : α → Bool} {w t : List α} (hw : w ≠ []) :
    Stops p (w ++ t) ↔ Stops p w := by
  cases w with
  | nil => contradiction
  | cons c w => rw [List.cons_append, stops_cons, stops_cons]

theorem stops_of_forall {p : α → Bool} {s : List α} (h : ∀ c ∈ s, p c = false) :
    Stops p s :=
  fun c hc => h c (List.mem_of_mem_head? hc)

theorem stops_dropWhile (p : α → Bool) (s : List α) : Stops p (s.dropWhile p) := by
  intro c h
  have := List.head?_dropWhile_not p s
  rw [h] at this
  simpa using this

theorem takeWhile_append_of_stops {p : α → Bool} {w t : List α}
    (hw : ∀ c ∈ w, p c = true) (ht : Stops p t) : (w ++ t).takeWhile p = w := by
  rw [List.takeWhile_append_of_pos hw]
  cases t with
  | nil => simp
  | cons c t => simp [stops_cons.1 ht]

theorem dropWhile_append_of_stops {p : α → Bool} {w t : List α}
    (hw : ∀ c ∈ w, p c = true) (ht : Stops p t) : (w ++ t).dropWhile p = t := by
  rw [List.dropWhile_append_of_pos hw]
  cases t with
  | nil => simp
  | cons c t => simp [stops_cons.1 ht]

/-- A text without a separator is one run of what is none. -/
theorem bne_of_not_mem [BEq α] [LawfulBEq α] {a : α} {s : List α} (h : a ∉ s) :
    ∀ b ∈ s, (b != a) = true := by
  intro b hb
  rw [bne_iff_ne]
  exact ne_of_mem_of_not_mem hb h

/-- A run and what follows it are found in the text in one way. -/
theorem append_inj_of_stops {p : α → Bool} {w w' t t' : List α}
    (hw : ∀ c ∈ w, p c = true) (hw' : ∀ c ∈ w', p c = true) (ht : Stops p t) (ht' : Stops p t')
    (h : w ++ t = w' ++ t') : w = w' ∧ t = t' := by
  constructor
  · rw [← takeWhile_append_of_stops hw ht, h, takeWhile_append_of_stops hw' ht']
  · rw [← dropWhile_append_of_stops hw ht, h, dropWhile_append_of_stops hw' ht']

/-! ### Words and gaps -/

theorem Word.stops {w : List Char} (h : Word w) (t : List Char) : Stops isBlank (w ++ t) :=
  (stops_append h.1).2 (stops_of_forall h.2)

theorem Gap.stops {w : List Char} (h : Gap w) (t : List Char) :
    Stops (fun c => !isBlank c) (w ++ t) := by
  refine (stops_append h.1).2 (stops_of_forall fun c hc => ?_)
  simp [h.2 c hc]

theorem word_firstWord {s : List Char} (h : firstWord s ≠ []) : Word (firstWord s) :=
  ⟨h, fun _ hc => not_isBlank_of_mem_firstWord hc⟩

theorem stops_afterWord (s : List Char) : Stops (fun c => !isBlank c) (afterWord s) :=
  stops_dropWhile _ s

theorem firstWord_append {w t : List Char} (hw : Word w) (ht : Stops (fun c => !isBlank c) t) :
    firstWord (w ++ t) = w :=
  takeWhile_append_of_stops (fun c hc => by simp [hw.2 c hc]) ht

theorem afterWord_append {w t : List Char} (hw : Word w) (ht : Stops (fun c => !isBlank c) t) :
    afterWord (w ++ t) = t :=
  dropWhile_append_of_stops (fun c hc => by simp [hw.2 c hc]) ht

theorem trimStart_append {w t : List Char} (hw : ∀ c ∈ w, isBlank c = true)
    (ht : Stops isBlank t) : trimStart (w ++ t) = t :=
  dropWhile_append_of_stops hw ht

/-! ### Trimming -/

/-- A text that neither begins nor ends with a blank. -/
def Trimmed (s : List Char) : Prop := Stops isBlank s ∧ Stops isBlank s.reverse

theorem trimStart_eq_self {s : List Char} (h : Stops isBlank s) : trimStart s = s :=
  trimStart_append (w := []) (by simp) h

theorem trimEnd_eq (s : List Char) : trimEnd s = (trimStart s.reverse).reverse := rfl

theorem trimmed_trim (s : List Char) : Trimmed (trim s) := by
  constructor
  · have hsuffix := List.dropWhile_suffix isBlank (l := (trimStart s).reverse)
    have hprefix : trim s <+: trimStart s := by
      rw [trim, trimEnd, ← List.reverse_suffix, List.reverse_reverse]
      exact hsuffix
    intro c hc
    obtain ⟨t, ht⟩ := hprefix
    refine stops_dropWhile isBlank s c ?_
    change (trimStart s).head? = some c
    rw [← ht, List.head?_append, hc, Option.some_or]
  · rw [trim, trimEnd, List.reverse_reverse]
    exact stops_dropWhile _ _

theorem trim_eq_self {s : List Char} (h : Trimmed s) : trim s = s := by
  rw [trim, trimStart_eq_self h.1, trimEnd_eq, trimStart_eq_self h.2, List.reverse_reverse]

theorem trim_trim (s : List Char) : trim (trim s) = trim s :=
  trim_eq_self (trimmed_trim s)

/-- What is trimmed away is blank. -/
theorem exists_eq_append_trim (s : List Char) :
    ∃ a b, s = a ++ trim s ++ b ∧ (∀ c ∈ a, isBlank c = true) ∧ ∀ c ∈ b, isBlank c = true := by
  refine ⟨s.takeWhile isBlank, ((trimStart s).reverse.takeWhile isBlank).reverse, ?_,
    fun c hc => List.mem_takeWhile_imp hc,
    fun c hc => List.mem_takeWhile_imp (List.mem_reverse.1 hc)⟩
  have h : trim s ++ ((trimStart s).reverse.takeWhile isBlank).reverse = trimStart s := by
    rw [trim, trimEnd, ← List.reverse_append, List.takeWhile_append_dropWhile,
      List.reverse_reverse]
  rw [List.append_assoc, h]
  exact List.takeWhile_append_dropWhile.symm

/-- A trimmed text is found again between blanks. -/
theorem trim_of_blank_ends {a t b : List Char} (ha : ∀ c ∈ a, isBlank c = true)
    (hb : ∀ c ∈ b, isBlank c = true) (ht : Trimmed t) : trim (a ++ t ++ b) = t := by
  rcases eq_or_ne t [] with rfl | hne
  · rw [trim, trimStart, List.append_nil, List.dropWhile_append_of_pos ha,
      List.dropWhile_eq_nil_iff.2 hb]
    rfl
  · have hstart : trimStart (a ++ t ++ b) = t ++ b := by
      rw [List.append_assoc]
      exact trimStart_append ha ((stops_append hne).2 ht.1)
    have hend : trimStart (b.reverse ++ t.reverse) = t.reverse :=
      trimStart_append (by simpa using hb) ht.2
    rw [trim, hstart, trimEnd_eq, List.reverse_append, hend, List.reverse_reverse]

theorem trim_append_of_blank {b : List Char} (hb : ∀ c ∈ b, isBlank c = true) (s : List Char) :
    trim (s ++ b) = trim s := by
  obtain ⟨a, b', hs, ha, hb'⟩ := exists_eq_append_trim s
  have hblank : ∀ c ∈ b' ++ b, isBlank c = true := List.forall_mem_append.2 ⟨hb', hb⟩
  have hends := trim_of_blank_ends ha hblank (trimmed_trim s)
  rwa [← List.append_assoc, ← hs] at hends

theorem mem_of_mem_trim {c : Char} {s : List Char} (h : c ∈ trim s) : c ∈ s := by
  obtain ⟨a, b, hs, -⟩ := exists_eq_append_trim s
  rw [hs]
  simp [h]

theorem trim_eq_nil_iff {s : List Char} : trim s = [] ↔ ∀ c ∈ s, isBlank c = true := by
  constructor
  · intro h c hc
    obtain ⟨a, b, hs, ha, hb⟩ := exists_eq_append_trim s
    rw [hs, h, List.append_nil, List.mem_append] at hc
    exact hc.elim (ha c) (hb c)
  · intro h
    rw [trim, trimStart, List.dropWhile_eq_nil_iff.2 h]
    rfl

/-- Nothing blank is left at the end of a trimmed text. -/
theorem Trimmed.eq_nil_of_suffix {s t : List Char} (h : Trimmed s) (hst : t <:+ s)
    (ht : ∀ c ∈ t, isBlank c = true) : t = [] := by
  rcases List.eq_nil_or_concat t with rfl | ⟨t, c, rfl⟩
  · rfl
  · obtain ⟨u, rfl⟩ := hst
    have hc : isBlank c = false := h.2 c (by simp)
    rw [ht c (by simp)] at hc
    contradiction

end ServiceProbe.Text
