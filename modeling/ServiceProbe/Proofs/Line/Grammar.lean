import ServiceProbe.Line
import ServiceProbe.Proofs.Text.Blank

/-!
The grammar of test lines, as what can be written and not as how it is read. A
sentence is a header and clauses, each with the blanks that stand in it and with
the way its value is quoted. Each reader of the grammar takes exactly the
written forms of its part from the front of a text, and a sentence can be told
from its text: no text is written in two ways.
-/

namespace ServiceProbe.Line

open Text

/-- How a value is written. -/
inductive Quoting where
  | bare
  | single
  | double
  deriving DecidableEq, Repr

namespace Quoting

/-- The written form of a value. -/
def literal : Quoting → List Char → List Char
  | bare, value => value
  | single, value => '\'' :: (value ++ ['\''])
  | double, value => '"' :: (value ++ ['"'])

/-- The values that can be written so. -/
def Admits : Quoting → List Char → Prop
  | bare, value => Word value ∧ value.head? ≠ some '\'' ∧ value.head? ≠ some '"'
  | single, value => '\'' ∉ value
  | double, value => '"' ∉ value

/-- What can stand after a value: a bare one goes on until the next blank. -/
def Ends : Quoting → List Char → Prop
  | bare, rest => Stops (fun c => !isBlank c) rest
  | _, _ => True

end Quoting

/-- One written clause: ` with <name> <value>`. -/
@[ext]
structure Spelling where
  beforeWord : List Char
  beforeName : List Char
  name : List Char
  beforeValue : List Char
  quoting : Quoting
  value : List Char
  deriving DecidableEq, Repr

namespace Spelling

def text (c : Spelling) : List Char :=
  c.beforeWord ++ ("with".toList ++ (c.beforeName ++ (c.name ++
    (c.beforeValue ++ c.quoting.literal c.value))))

structure WellFormed (c : Spelling) : Prop where
  beforeWord : Gap c.beforeWord
  beforeName : Gap c.beforeName
  name_ne_nil : c.name ≠ []
  name_chars : ∀ ch ∈ c.name, isNameChar ch = true
  beforeValue : Gap c.beforeValue
  value : c.quoting.Admits c.value

def clause (c : Spelling) : Clause := ⟨c.name, c.value⟩

end Spelling

/-- The text of clauses that follow each other. -/
def clausesText (clauses : List Spelling) : List Char := clauses.flatMap Spelling.text

/-- A whole written line. -/
@[ext]
structure Sentence where
  target : List Char
  beforeMust : List Char
  beforeRun : List Char
  beforeProtocol : List Char
  protocol : List Char
  clauses : List Spelling
  deriving DecidableEq, Repr

/-- A written header and what follows it. -/
def headerText (target beforeMust beforeRun beforeProtocol protocol rest : List Char) :
    List Char :=
  target ++ (beforeMust ++ ("must".toList ++ (beforeRun ++ ("run".toList ++
    (beforeProtocol ++ (protocol ++ rest))))))

namespace Sentence

def text (d : Sentence) : List Char :=
  headerText d.target d.beforeMust d.beforeRun d.beforeProtocol d.protocol (clausesText d.clauses)

structure WellFormed (d : Sentence) : Prop where
  target : Word d.target
  beforeMust : Gap d.beforeMust
  beforeRun : Gap d.beforeRun
  beforeProtocol : Gap d.beforeProtocol
  protocol : Word d.protocol
  clauses : ∀ c ∈ d.clauses, c.WellFormed
  /-- The clauses stand on one line. -/
  oneLine : '\n' ∉ clausesText d.clauses

end Sentence

/-! ### Blanks and keywords -/

theorem skipBlanks?_append {w t : List Char} (hw : Gap w) (ht : Stops isBlank t) :
    skipBlanks? (w ++ t) = some t := by
  obtain ⟨hne, hblank⟩ := hw
  cases w with
  | nil => contradiction
  | cons c w =>
    rw [List.cons_append, skipBlanks?, if_pos (hblank c (by simp)),
      trimStart_append (fun d hd => hblank d (by simp [hd])) ht]

theorem skipBlanks?_eq_some_iff {s t : List Char} :
    skipBlanks? s = some t ↔ ∃ w, Gap w ∧ Stops isBlank t ∧ s = w ++ t := by
  constructor
  · intro h
    cases s with
    | nil => simp [skipBlanks?] at h
    | cons c s =>
      rw [skipBlanks?] at h
      split at h
      · next hc =>
        rw [← Option.some.inj h]
        refine ⟨c :: s.takeWhile isBlank, ⟨by simp, ?_⟩, stops_dropWhile _ _, ?_⟩
        · intro d hd
          rcases List.mem_cons.1 hd with rfl | hd
          · exact hc
          · exact List.mem_takeWhile_imp hd
        · rw [List.cons_append, trimStart, List.takeWhile_append_dropWhile]
      · simp at h
  · rintro ⟨w, hw, ht, rfl⟩
    exact skipBlanks?_append hw ht

theorem dropPrefix?_eq_some_iff {word s t : List Char} :
    dropPrefix? word s = some t ↔ s = word ++ t := by
  fun_induction dropPrefix? word s with
  | case1 s => simp [eq_comm]
  | case2 => simp
  | case3 c word s ih => simpa using ih
  | case4 c word d s hne => simp [Ne.symm hne]

theorem keyword?_append {word : String} {w : List Char} (hw : Gap w) (t : List Char)
    (hword : Word word.toList) : keyword? word (w ++ (word.toList ++ t)) = some t := by
  rw [keyword?, skipBlanks?_append hw (hword.stops t), Option.bind_some]
  exact dropPrefix?_eq_some_iff.2 rfl

theorem keyword?_eq_some {word : String} {s t : List Char} (h : keyword? word s = some t) :
    ∃ w, Gap w ∧ s = w ++ (word.toList ++ t) := by
  obtain ⟨u, hu, ht⟩ := Option.bind_eq_some_iff.1 h
  obtain ⟨w, hw, -, rfl⟩ := skipBlanks?_eq_some_iff.1 hu
  rw [dropPrefix?_eq_some_iff] at ht
  exact ⟨w, hw, by rw [ht]⟩

theorem word_of_all {w : List Char} (hne : w ≠ []) (h : w.all (!isBlank ·) = true) : Word w := by
  refine ⟨hne, fun c hc => ?_⟩
  simpa using List.all_eq_true.1 h c hc

theorem word_must : Word "must".toList := word_of_all (by decide) (by decide)

theorem word_run : Word "run".toList := word_of_all (by decide) (by decide)

theorem word_with : Word "with".toList := word_of_all (by decide) (by decide)

theorem guard_of {p : Prop} [Decidable p] (h : p) : (guard p : Option Unit) = some () :=
  if_pos h

theorem of_guard {p : Prop} [Decidable p] {u : Unit} (h : (guard p : Option Unit) = some u) :
    p := by
  by_contra hp
  have hnone : (guard p : Option Unit) = none := if_neg hp
  rw [hnone] at h
  contradiction

/-! ### The header -/

theorem readHeader?_headerText {target w₁ w₂ w₃ protocol rest : List Char} (htarget : Word target)
    (h₁ : Gap w₁) (h₂ : Gap w₂) (h₃ : Gap w₃) (hprotocol : Word protocol)
    (hrest : Stops (fun c => !isBlank c) rest) (hline : '\n' ∉ rest) :
    readHeader? (headerText target w₁ w₂ w₃ protocol rest) = some ⟨target, protocol, rest⟩ := by
  have hstop : Stops (fun c => !isBlank c) (w₁ ++ ("must".toList ++ (w₂ ++ ("run".toList ++
      (w₃ ++ (protocol ++ rest)))))) := h₁.stops _
  rw [readHeader?, headerText, firstWord_append htarget hstop, afterWord_append htarget hstop]
  refine Option.bind_eq_some_iff.2 ⟨(), guard_of htarget.1, ?_⟩
  refine Option.bind_eq_some_iff.2 ⟨_, keyword?_append h₁ _ word_must, ?_⟩
  refine Option.bind_eq_some_iff.2 ⟨_, keyword?_append h₂ _ word_run, ?_⟩
  refine Option.bind_eq_some_iff.2 ⟨_, skipBlanks?_append h₃ (hprotocol.stops rest), ?_⟩
  rw [firstWord_append hprotocol hrest, afterWord_append hprotocol hrest]
  refine Option.bind_eq_some_iff.2 ⟨(), guard_of hprotocol.1, ?_⟩
  exact Option.bind_eq_some_iff.2 ⟨(), guard_of hline, rfl⟩

theorem readHeader?_eq_some_iff {s : List Char} {header : Header} :
    readHeader? s = some header ↔
      Word header.target ∧ Word header.protocol ∧ Stops (fun c => !isBlank c) header.rest ∧
      '\n' ∉ header.rest ∧ ∃ w₁ w₂ w₃, Gap w₁ ∧ Gap w₂ ∧ Gap w₃ ∧
        s = headerText header.target w₁ w₂ w₃ header.protocol header.rest := by
  constructor
  · intro h
    obtain ⟨_, htarget, h⟩ := Option.bind_eq_some_iff.1 h
    obtain ⟨t, ht, h⟩ := Option.bind_eq_some_iff.1 h
    obtain ⟨u, hu, h⟩ := Option.bind_eq_some_iff.1 h
    obtain ⟨v, hv, h⟩ := Option.bind_eq_some_iff.1 h
    obtain ⟨_, hprotocol, h⟩ := Option.bind_eq_some_iff.1 h
    obtain ⟨_, hline, hheader⟩ := Option.bind_eq_some_iff.1 h
    obtain ⟨w₁, h₁, hs⟩ := keyword?_eq_some ht
    obtain ⟨w₂, h₂, rfl⟩ := keyword?_eq_some hu
    obtain ⟨w₃, h₃, -, rfl⟩ := skipBlanks?_eq_some_iff.1 hv
    cases hheader
    refine ⟨word_firstWord (of_guard htarget), word_firstWord (of_guard hprotocol),
      stops_afterWord v, of_guard hline, w₁, w₂, w₃, h₁, h₂, h₃, ?_⟩
    rw [headerText, firstWord_append_afterWord, ← hs, firstWord_append_afterWord]
  · rintro ⟨htarget, hprotocol, hrest, hline, w₁, w₂, w₃, h₁, h₂, h₃, rfl⟩
    exact readHeader?_headerText htarget h₁ h₂ h₃ hprotocol hrest hline

/-! ### A clause -/

theorem untilQuote?_eq_some_iff {quote : Char} {s value rest : List Char} :
    untilQuote? quote s = some (value, rest) ↔ quote ∉ value ∧ s = value ++ quote :: rest := by
  constructor
  · intro h
    have hs := List.takeWhile_append_dropWhile (p := (· != quote)) (l := s)
    have hstop := stops_dropWhile (· != quote) s
    unfold untilQuote? at h
    split at h
    · simp at h
    · next c t heq =>
      cases h
      rw [heq] at hs hstop
      have hc : c = quote := by simpa using stops_cons.1 hstop
      subst hc
      refine ⟨fun hmem => ?_, hs.symm⟩
      simpa using List.mem_takeWhile_imp hmem
  · rintro ⟨hvalue, rfl⟩
    have hclass : ∀ c ∈ value, (c != quote) = true := by
      intro c hc
      rw [bne_iff_ne]
      rintro rfl
      exact hvalue hc
    have hstop : Stops (· != quote) (quote :: rest) := stops_cons.2 (by simp)
    rw [untilQuote?, dropWhile_append_of_stops hclass hstop,
      takeWhile_append_of_stops hclass hstop]

theorem readValue?_single (s : List Char) : readValue? ('\'' :: s) = untilQuote? '\'' s := rfl

theorem readValue?_double (s : List Char) : readValue? ('"' :: s) = untilQuote? '"' s := rfl

theorem readValue?_bare {c : Char} (hsingle : c ≠ '\'') (hdouble : c ≠ '"')
    (hblank : isBlank c = false) (s : List Char) :
    readValue? (c :: s) = some (firstWord (c :: s), afterWord (c :: s)) := by
  unfold readValue?
  split
  · contradiction
  · next h => exact absurd (List.cons.inj h).1 hsingle
  · next h => exact absurd (List.cons.inj h).1 hdouble
  · next h =>
    cases h
    rw [hblank, if_neg (by simp)]

theorem readValue?_literal {q : Quoting} {value rest : List Char} (hvalue : q.Admits value)
    (hrest : q.Ends rest) : readValue? (q.literal value ++ rest) = some (value, rest) := by
  cases q with
  | single =>
    rw [Quoting.literal, List.cons_append, List.append_assoc, readValue?_single]
    exact untilQuote?_eq_some_iff.2 ⟨hvalue, rfl⟩
  | double =>
    rw [Quoting.literal, List.cons_append, List.append_assoc, readValue?_double]
    exact untilQuote?_eq_some_iff.2 ⟨hvalue, rfl⟩
  | bare =>
    obtain ⟨hword, hsingle, hdouble⟩ := hvalue
    have hfirst := firstWord_append hword hrest
    have hafter := afterWord_append hword hrest
    cases value with
    | nil => exact absurd rfl hword.1
    | cons c value =>
      simp only [List.head?_cons, ne_eq, Option.some.injEq] at hsingle hdouble
      rw [List.cons_append] at hfirst hafter
      rw [Quoting.literal, List.cons_append,
        readValue?_bare hsingle hdouble (hword.2 c (by simp)), hfirst, hafter]

theorem readValue?_eq_some_iff {s value rest : List Char} :
    readValue? s = some (value, rest) ↔
      ∃ q : Quoting, q.Admits value ∧ q.Ends rest ∧ s = q.literal value ++ rest := by
  constructor
  · intro h
    unfold readValue? at h
    split at h
    · simp at h
    · obtain ⟨hvalue, rfl⟩ := untilQuote?_eq_some_iff.1 h
      exact ⟨.single, hvalue, trivial, by simp [Quoting.literal]⟩
    · obtain ⟨hvalue, rfl⟩ := untilQuote?_eq_some_iff.1 h
      exact ⟨.double, hvalue, trivial, by simp [Quoting.literal]⟩
    · next c s hsingle hdouble =>
      split at h
      · simp at h
      · next hblank =>
        cases h
        have hfirst : firstWord (c :: s) = c :: firstWord s := by
          simp [firstWord, hblank]
        refine ⟨.bare, ⟨word_firstWord (by simp [hfirst]), ?_, ?_⟩, stops_afterWord _,
          (firstWord_append_afterWord _).symm⟩
        · simpa [hfirst] using hsingle
        · simpa [hfirst] using hdouble
  · rintro ⟨q, hvalue, hrest, rfl⟩
    exact readValue?_literal hvalue hrest

theorem Spelling.text_append (c : Spelling) (rest : List Char) :
    c.text ++ rest = c.beforeWord ++ ("with".toList ++ (c.beforeName ++ (c.name ++
      (c.beforeValue ++ (c.quoting.literal c.value ++ rest))))) := by
  simp only [Spelling.text, List.append_assoc]

theorem not_isBlank_of_isNameChar {c : Char} (h : isNameChar c = true) : isBlank c = false := by
  delta isNameChar Char.isAlphanum Char.isAlpha Char.isUpper Char.isLower Char.isDigit at h
  simp only [Bool.or_eq_true, Bool.and_eq_true, decide_eq_true_eq, beq_iff_eq, ge_iff_le,
    UInt32.le_iff_toNat_le, Char.toNat_val] at h
  simp only [isBlank, Bool.or_eq_false_iff, Bool.and_eq_false_iff, decide_eq_false_iff_not,
    beq_eq_false_iff_ne]
  rcases h with (h | rfl) | rfl
  · simp at h
    omega
  · decide
  · decide

theorem stops_isNameChar_of_gap {w : List Char} (h : Gap w) (t : List Char) :
    Stops isNameChar (w ++ t) := by
  refine (stops_append h.1).2 (stops_of_forall fun c hc => ?_)
  by_contra hname
  have := not_isBlank_of_isNameChar (by simpa using hname)
  rw [h.2 c hc] at this
  contradiction

theorem Quoting.Admits.stops_literal {q : Quoting} {value : List Char} (h : q.Admits value)
    (rest : List Char) : Stops isBlank (q.literal value ++ rest) := by
  cases q with
  | bare => exact h.1.stops rest
  | single => exact stops_cons.2 (by decide)
  | double => exact stops_cons.2 (by decide)

theorem Spelling.WellFormed.stops_name {c : Spelling} (h : c.WellFormed) (t : List Char) :
    Stops isBlank (c.name ++ t) :=
  (stops_append h.name_ne_nil).2
    (stops_of_forall fun ch hch => not_isBlank_of_isNameChar (h.name_chars ch hch))

theorem readClause?_text {c : Spelling} (h : c.WellFormed) {rest : List Char}
    (hrest : c.quoting.Ends rest) : readClause? (c.text ++ rest) = some (c.clause, rest) := by
  have hvalue : Stops isNameChar (c.beforeValue ++ (c.quoting.literal c.value ++ rest)) :=
    stops_isNameChar_of_gap h.beforeValue _
  rw [readClause?, Spelling.text_append]
  refine Option.bind_eq_some_iff.2 ⟨_, keyword?_append h.beforeWord _ word_with, ?_⟩
  refine Option.bind_eq_some_iff.2 ⟨_, skipBlanks?_append h.beforeName (h.stops_name _), ?_⟩
  rw [takeWhile_append_of_stops h.name_chars hvalue, dropWhile_append_of_stops h.name_chars hvalue]
  refine Option.bind_eq_some_iff.2 ⟨(), guard_of h.name_ne_nil, ?_⟩
  refine Option.bind_eq_some_iff.2
    ⟨_, skipBlanks?_append h.beforeValue (h.value.stops_literal rest), ?_⟩
  exact Option.bind_eq_some_iff.2 ⟨_, readValue?_literal h.value hrest, rfl⟩

theorem readClause?_eq_some_iff {s rest : List Char} {clause : Clause} :
    readClause? s = some (clause, rest) ↔
      ∃ c : Spelling, c.WellFormed ∧ c.clause = clause ∧ c.quoting.Ends rest ∧
        s = c.text ++ rest := by
  constructor
  · intro h
    obtain ⟨t, ht, h⟩ := Option.bind_eq_some_iff.1 h
    obtain ⟨u, hu, h⟩ := Option.bind_eq_some_iff.1 h
    obtain ⟨_, hname, h⟩ := Option.bind_eq_some_iff.1 h
    obtain ⟨v, hv, h⟩ := Option.bind_eq_some_iff.1 h
    obtain ⟨⟨value, tail⟩, hvalue, hclause⟩ := Option.bind_eq_some_iff.1 h
    obtain ⟨w₁, h₁, rfl⟩ := keyword?_eq_some ht
    obtain ⟨w₂, h₂, -, rfl⟩ := skipBlanks?_eq_some_iff.1 hu
    obtain ⟨w₃, h₃, -, hrest⟩ := skipBlanks?_eq_some_iff.1 hv
    obtain ⟨q, hq, hends, rfl⟩ := readValue?_eq_some_iff.1 hvalue
    cases hclause
    refine ⟨⟨w₁, w₂, u.takeWhile isNameChar, w₃, q, value⟩,
      ⟨h₁, h₂, of_guard hname, fun ch hch => List.mem_takeWhile_imp hch, h₃, hq⟩, rfl, hends, ?_⟩
    rw [Spelling.text_append, ← hrest, List.takeWhile_append_dropWhile]
  · rintro ⟨c, hc, rfl, hends, rfl⟩
    exact readClause?_text hc hends

/-! ### Clauses that follow each other -/

@[simp] theorem clausesText_nil : clausesText [] = [] := rfl

@[simp] theorem clausesText_cons (c : Spelling) (cs : List Spelling) :
    clausesText (c :: cs) = c.text ++ clausesText cs := by
  simp [clausesText]

/-- Clauses begin with a blank. -/
theorem stops_clausesText {cs : List Spelling} (h : ∀ c ∈ cs, c.WellFormed) :
    Stops (fun c => !isBlank c) (clausesText cs) := by
  cases cs with
  | nil => exact stops_nil _
  | cons c cs =>
    rw [clausesText_cons, Spelling.text_append]
    exact Gap.stops (h c (by simp)).beforeWord _

theorem ends_clausesText (q : Quoting) {cs : List Spelling} (h : ∀ c ∈ cs, c.WellFormed) :
    q.Ends (clausesText cs) := by
  cases q with
  | bare => exact stops_clausesText h
  | single => trivial
  | double => trivial

/-! ### No text is written in two ways -/

theorem literal_append_inj {q q' : Quoting} {value value' rest rest' : List Char}
    (hvalue : q.Admits value) (hvalue' : q'.Admits value') (hrest : q.Ends rest)
    (hrest' : q'.Ends rest') (h : q.literal value ++ rest = q'.literal value' ++ rest') :
    q = q' ∧ value = value' ∧ rest = rest' := by
  have hread := readValue?_literal hvalue hrest
  rw [h, readValue?_literal hvalue' hrest'] at hread
  cases hread
  have hliteral : q.literal value = q'.literal value := List.append_cancel_right h
  refine ⟨?_, rfl, rfl⟩
  have hlength := congrArg List.length hliteral
  -- quotes add two characters, and one kind is not the other
  cases q <;> cases q' <;> simp [Quoting.literal] at hliteral hlength ⊢ <;> omega

theorem Spelling.text_append_inj {c c' : Spelling} (h : c.WellFormed) (h' : c'.WellFormed)
    {rest rest' : List Char} (hrest : c.quoting.Ends rest) (hrest' : c'.quoting.Ends rest')
    (heq : c.text ++ rest = c'.text ++ rest') : c = c' ∧ rest = rest' := by
  rw [Spelling.text_append, Spelling.text_append] at heq
  obtain ⟨hword, heq⟩ := append_inj_of_stops h.beforeWord.2 h'.beforeWord.2
    (word_with.stops _) (word_with.stops _) heq
  obtain ⟨hbefore, heq⟩ := append_inj_of_stops h.beforeName.2 h'.beforeName.2
    (h.stops_name _) (h'.stops_name _) (List.append_cancel_left heq)
  obtain ⟨hnames, heq⟩ := append_inj_of_stops h.name_chars h'.name_chars
    (stops_isNameChar_of_gap h.beforeValue _) (stops_isNameChar_of_gap h'.beforeValue _) heq
  obtain ⟨hgap, heq⟩ := append_inj_of_stops h.beforeValue.2 h'.beforeValue.2
    (h.value.stops_literal rest) (h'.value.stops_literal rest') heq
  obtain ⟨hquoting, hvalue, hrests⟩ := literal_append_inj h.value h'.value hrest hrest' heq
  exact ⟨Spelling.ext hword hbefore hnames hgap hquoting hvalue, hrests⟩

theorem clausesText_inj {cs cs' : List Spelling} (h : ∀ c ∈ cs, c.WellFormed)
    (h' : ∀ c ∈ cs', c.WellFormed) (heq : clausesText cs = clausesText cs') : cs = cs' := by
  induction cs generalizing cs' with
  | nil =>
    cases cs' with
    | nil => rfl
    | cons c' cs' =>
      have hne := (h' c' (by simp)).beforeWord.1
      simp [Spelling.text, hne] at heq
  | cons c cs ih =>
    cases cs' with
    | nil =>
      have hne := (h c (by simp)).beforeWord.1
      simp [Spelling.text, hne] at heq
    | cons c' cs' =>
      have hcs : ∀ d ∈ cs, d.WellFormed := fun d hd => h d (by simp [hd])
      have hcs' : ∀ d ∈ cs', d.WellFormed := fun d hd => h' d (by simp [hd])
      rw [clausesText_cons, clausesText_cons] at heq
      obtain ⟨rfl, hrest⟩ := Spelling.text_append_inj (h c (by simp)) (h' c' (by simp))
        (ends_clausesText _ hcs) (ends_clausesText _ hcs') heq
      rw [ih hcs hcs' hrest]

theorem Sentence.text_inj {d d' : Sentence} (h : d.WellFormed) (h' : d'.WellFormed)
    (heq : d.text = d'.text) : d = d' := by
  have hclass {w : List Char} (hw : Word w) : ∀ c ∈ w, (!isBlank c) = true :=
    fun c hc => by simp [hw.2 c hc]
  rw [Sentence.text, Sentence.text, headerText, headerText] at heq
  obtain ⟨htarget, heq⟩ := append_inj_of_stops (hclass h.target) (hclass h'.target)
    (h.beforeMust.stops _) (h'.beforeMust.stops _) heq
  obtain ⟨hmust, heq⟩ := append_inj_of_stops h.beforeMust.2 h'.beforeMust.2
    (word_must.stops _) (word_must.stops _) heq
  obtain ⟨hrun, heq⟩ := append_inj_of_stops h.beforeRun.2 h'.beforeRun.2
    (word_run.stops _) (word_run.stops _) (List.append_cancel_left heq)
  obtain ⟨hgap, heq⟩ := append_inj_of_stops h.beforeProtocol.2 h'.beforeProtocol.2
    (h.protocol.stops _) (h'.protocol.stops _) (List.append_cancel_left heq)
  obtain ⟨hprotocol, heq⟩ := append_inj_of_stops (hclass h.protocol) (hclass h'.protocol)
    (stops_clausesText h.clauses) (stops_clausesText h'.clauses) heq
  exact Sentence.ext htarget hmust hrun hgap hprotocol (clausesText_inj h.clauses h'.clauses heq)

end ServiceProbe.Line
