import Mathlib
import ServiceProbe.Probe.Sample
import ServiceProbe.Proofs.Line.Grammar
import ServiceProbe.Proofs.Parser.Schema

/-!
The parser accepts the sentences of the grammar and nothing else. The clauses of
a line are read one by one; each has to be declared, to hold a value that its
pattern accepts and to be the first of its name. So a line gives a test exactly
when its trimmed text is a sentence that the registry admits, and the test is
the one the sentence spells.
-/

namespace ServiceProbe

open Line Text

/-- The name and the value of a clause. -/
def Line.Spelling.argument (c : Spelling) : String × String :=
  (String.ofList c.name, String.ofList c.value)

/-- The test that a sentence spells. -/
def Line.Sentence.test (d : Sentence) : Test :=
  ⟨String.ofList d.target, String.ofList d.protocol, String.ofList d.text,
    d.clauses.map Spelling.argument⟩

/-- The clause is declared and its value accepted. -/
def Schema.Fits (schema : Schema) (c : Spelling) : Prop :=
  ∃ rule, schema.lookup c.argument.1 = some rule ∧ rule.accepts c.argument.2 = true

/-- The protocol of a sentence is registered, all patterns of its probe can be
used, and each clause is declared by the probe, has a value that matches the
pattern and a name that no other clause has. -/
def Registry.Admits (registry : Registry) (d : Sentence) : Prop :=
  ∃ probe, registry.lookup (String.ofList d.protocol) = some probe ∧
    Compilable probe.arguments ∧
    (∀ c ∈ d.clauses, ∃ pattern accepts, probe.arguments.lookup c.argument.1 = some pattern ∧
      pattern.matcher = .ok accepts ∧ accepts c.argument.2 = true) ∧
    (d.clauses.map (·.name)).Nodup

/-! ### The clauses of a line -/

theorem readArguments_of_blank (schema : Schema) (protocol : String) {rest : List Char}
    (h : trim rest = []) (arguments : List (String × String)) :
    readArguments schema protocol rest arguments = .ok arguments := by
  rw [readArguments, if_pos h]

theorem trim_text_append_ne_nil {c : Spelling} (rest : List Char) :
    trim (c.text ++ rest) ≠ [] := by
  intro h
  -- the letter of the keyword is no blank
  have hw := trim_eq_nil_iff.1 h 'w' (by simp [Spelling.text])
  exact absurd hw (by decide)

/-- One turn of the reader. -/
theorem readArguments_text {schema : Schema} {c : Spelling} (hc : c.WellFormed)
    (hfits : schema.Fits c) {rest : List Char} (hends : c.quoting.Ends rest)
    {arguments : List (String × String)} (hnew : c.argument.1 ∉ arguments.map (·.1))
    (protocol : String) :
    readArguments schema protocol (c.text ++ rest) arguments =
      readArguments schema protocol rest (arguments ++ [c.argument]) := by
  obtain ⟨rule, hlookup, haccepts⟩ := hfits
  simp only [Spelling.argument] at hlookup haccepts hnew
  have hfresh : (arguments.any fun a => a.1 == String.ofList c.name) = false := by
    rw [List.any_eq_false]
    intro a ha heq
    rw [beq_iff_eq] at heq
    exact hnew (heq ▸ List.mem_map_of_mem ha)
  rw [readArguments, if_neg (trim_text_append_ne_nil rest)]
  split
  · next h => simp [readClause?_text hc hends] at h
  · next h =>
    rw [readClause?_text hc hends] at h
    cases h
    simp only [Spelling.clause, hlookup, haccepts, hfresh]
    simp [Spelling.argument]

theorem readArguments_clausesText {schema : Schema} {clauses : List Spelling}
    (hclauses : ∀ c ∈ clauses, c.WellFormed) (hfits : ∀ c ∈ clauses, schema.Fits c)
    {arguments : List (String × String)}
    (hnodup : ((arguments ++ clauses.map Spelling.argument).map (·.1)).Nodup)
    (protocol : String) :
    readArguments schema protocol (clausesText clauses) arguments =
      .ok (arguments ++ clauses.map Spelling.argument) := by
  induction clauses generalizing arguments with
  | nil =>
    rw [clausesText_nil, readArguments_of_blank schema protocol rfl, List.map_nil,
      List.append_nil]
  | cons c clauses ih =>
    rw [List.forall_mem_cons] at hclauses hfits
    have hnew : c.argument.1 ∉ arguments.map (·.1) := by
      intro hmem
      rw [List.map_append, List.nodup_append] at hnodup
      exact hnodup.2.2 _ hmem _ (by simp) rfl
    rw [List.map_cons, List.append_cons] at hnodup
    rw [clausesText_cons, readArguments_text hclauses.1 hfits.1
      (ends_clausesText _ hclauses.2) hnew, ih hclauses.2 hfits.2 hnodup, List.append_assoc,
      List.map_cons]
    rfl

/-- What was read stood there as clauses, and only blanks are left. -/
theorem readArguments_sound {schema : Schema} {protocol : String} {rest : List Char}
    {arguments result : List (String × String)} (hnodup : (arguments.map (·.1)).Nodup)
    (h : readArguments schema protocol rest arguments = .ok result) :
    ∃ clauses blanks, (∀ c ∈ clauses, c.WellFormed ∧ schema.Fits c) ∧
      (∀ c ∈ blanks, isBlank c = true) ∧ rest = clausesText clauses ++ blanks ∧
      result = arguments ++ clauses.map Spelling.argument ∧ (result.map (·.1)).Nodup := by
  fun_induction readArguments schema protocol rest arguments with
  | case1 rest arguments hblank =>
    cases h
    exact ⟨[], rest, by simp, trim_eq_nil_iff.1 hblank, rfl, by simp, hnodup⟩
  | case2 => simp at h
  | case3 => simp at h
  | case4 => simp at h
  | case5 => simp at h
  | case6 rest arguments hblank clause rest' hclause name value rule hlookup haccepts hnew ih =>
    obtain ⟨c, hc, rfl, hends, rfl⟩ := readClause?_eq_some_iff.1 hclause
    have hnodup' : ((arguments ++ [(name, value)]).map (·.1)).Nodup := by
      rw [List.map_append, List.nodup_append]
      refine ⟨hnodup, by simp, ?_⟩
      rintro a ha b hb rfl
      obtain ⟨entry, hentry, rfl⟩ := List.mem_map.1 ha
      simp only [List.map_cons, List.map_nil, List.mem_singleton] at hb
      exact hnew (List.any_eq_true.2 ⟨entry, hentry, by simp [hb]⟩)
    have haccepts : rule.accepts value = true := by simpa using haccepts
    have hfits : schema.Fits c := ⟨rule, hlookup, haccepts⟩
    obtain ⟨clauses, blanks, hclauses, hblanks, rfl, rfl, hresult⟩ := ih hnodup' h
    refine ⟨c :: clauses, blanks, ?_, hblanks, ?_, ?_, hresult⟩
    · rw [List.forall_mem_cons]
      exact ⟨⟨hc, hfits⟩, hclauses⟩
    · rw [clausesText_cons, List.append_assoc]
    · rw [List.map_cons, List.append_assoc]
      rfl

theorem nodup_map_argument {clauses : List Spelling} :
    ((clauses.map Spelling.argument).map (·.1)).Nodup ↔ (clauses.map (·.name)).Nodup := by
  rw [← List.nodup_map_iff fun _ _ => String.ofList_injective, List.map_map, List.map_map]
  rfl

/-- In a trimmed text the clauses go on to the end. -/
theorem readArguments_eq_ok_iff {schema : Schema} (protocol : String) {rest input : List Char}
    (hinput : Trimmed input) (hsuffix : rest <:+ input) {result : List (String × String)} :
    readArguments schema protocol rest [] = .ok result ↔
      ∃ clauses, (∀ c ∈ clauses, c.WellFormed) ∧ (∀ c ∈ clauses, schema.Fits c) ∧
        (clauses.map (·.name)).Nodup ∧ clausesText clauses = rest ∧
        clauses.map Spelling.argument = result := by
  constructor
  · intro h
    obtain ⟨clauses, blanks, hclauses, hblanks, rfl, rfl, hnodup⟩ :=
      readArguments_sound (by simp) h
    -- blanks at the end of a trimmed text are none
    have hnil : blanks = [] :=
      hinput.eq_nil_of_suffix ((List.suffix_append _ _).trans hsuffix) hblanks
    refine ⟨clauses, fun c hc => (hclauses c hc).1, fun c hc => (hclauses c hc).2,
      nodup_map_argument.1 hnodup, ?_, rfl⟩
    rw [hnil, List.append_nil]
  · rintro ⟨clauses, hclauses, hfits, hnodup, rfl, rfl⟩
    exact readArguments_clausesText hclauses hfits (nodup_map_argument.2 hnodup) protocol

/-! ### A whole line -/

theorem Line.Sentence.WellFormed.readHeader? {d : Sentence} (h : d.WellFormed) :
    readHeader? d.text = some ⟨d.target, d.protocol, clausesText d.clauses⟩ :=
  readHeader?_headerText h.target h.beforeMust h.beforeRun h.beforeProtocol h.protocol
    (stops_clausesText h.clauses) h.oneLine

theorem headerText_suffix (target w₁ w₂ w₃ protocol rest : List Char) :
    rest <:+ headerText target w₁ w₂ w₃ protocol rest := by
  refine ⟨headerText target w₁ w₂ w₃ protocol [], ?_⟩
  simp [headerText]

theorem lineResult_eq_some_iff {schemaOf : String → Except LineFault Schema} {input : List Char}
    (hinput : Trimmed input) {test : Test} :
    lineResult schemaOf input = .ok (some test) ↔
      (input ≠ [] ∧ input.head? ≠ some '#') ∧ ∃ d : Sentence, d.WellFormed ∧ d.text = input ∧
        (∃ schema, schemaOf (String.ofList d.protocol) = .ok schema ∧
          ∀ c ∈ d.clauses, schema.Fits c) ∧
        (d.clauses.map (·.name)).Nodup ∧ d.test = test := by
  rw [lineResult_eq_ok_some_iff]
  refine and_congr_right fun _ => ?_
  constructor
  · rintro ⟨header, schema, arguments, hheader, hschema, hread, rfl⟩
    obtain ⟨htarget, hprotocol, hstops, hnewline, w₁, w₂, w₃, h₁, h₂, h₃, rfl⟩ :=
      readHeader?_eq_some_iff.1 hheader
    obtain ⟨clauses, hclauses, hfits, hnodup, hrest, rfl⟩ :=
      (readArguments_eq_ok_iff _ hinput (headerText_suffix _ _ _ _ _ _)).1 hread
    refine ⟨⟨header.target, w₁, w₂, w₃, header.protocol, clauses⟩,
      ⟨htarget, h₁, h₂, h₃, hprotocol, hclauses, hrest ▸ hnewline⟩, ?_,
      ⟨schema, hschema, hfits⟩, hnodup, ?_⟩
    · rw [Sentence.text, hrest]
    · rw [Sentence.test, Sentence.text, hrest]
  · rintro ⟨d, hd, rfl, ⟨schema, hschema, hfits⟩, hnodup, rfl⟩
    have hread := (readArguments_eq_ok_iff (String.ofList d.protocol) hinput
      (headerText_suffix _ _ _ _ _ _)).2 ⟨d.clauses, hd.clauses, hfits, hnodup, rfl, rfl⟩
    exact ⟨_, schema, _, hd.readHeader?, hschema, hread, rfl⟩

/-! ### The registry's part -/

theorem Parser.fresh_schema_eq_ok_iff {registry : Registry} {protocol : String}
    {schema : Schema} :
    (fresh.schema registry protocol).1 = .ok schema ↔
      ∃ probe, registry.lookup protocol = some probe ∧
        Schema.compile protocol probe.arguments = .ok schema := by
  simp only [Parser.schema, fresh, List.lookup_nil]
  cases registry.lookup protocol with
  | none => simp
  | some probe => cases hc : Schema.compile protocol probe.arguments <;> simp [hc]

theorem Schema.fits_iff_of_compile {protocol : String} {arguments : List (String × Pattern)}
    {schema : Schema} (h : compile protocol arguments = .ok schema) (c : Spelling) :
    schema.Fits c ↔ ∃ pattern accepts, arguments.lookup c.argument.1 = some pattern ∧
      pattern.matcher = .ok accepts ∧ accepts c.argument.2 = true := by
  rw [Fits, lookup_of_compile h]
  cases arguments.lookup c.argument.1 with
  | none => simp
  | some pattern =>
    cases hm : pattern.matcher with
    | error problem => simp [hm, Except.toOption]
    | ok accepts => simp [hm, Except.toOption]

theorem Registry.admits_iff {registry : Registry} {d : Sentence} :
    registry.Admits d ↔
      (∃ schema, (Parser.fresh.schema registry (String.ofList d.protocol)).1 = .ok schema ∧
        ∀ c ∈ d.clauses, schema.Fits c) ∧ (d.clauses.map (·.name)).Nodup := by
  constructor
  · rintro ⟨probe, hprobe, hcompilable, hclauses, hnodup⟩
    obtain ⟨schema, hschema⟩ :=
      (Schema.compile_isOk_iff (String.ofList d.protocol)).2 hcompilable
    refine ⟨⟨schema, Parser.fresh_schema_eq_ok_iff.2 ⟨probe, hprobe, hschema⟩, ?_⟩, hnodup⟩
    intro c hc
    exact (Schema.fits_iff_of_compile hschema c).2 (hclauses c hc)
  · rintro ⟨⟨schema, hschema, hfits⟩, hnodup⟩
    obtain ⟨probe, hprobe, hcompile⟩ := Parser.fresh_schema_eq_ok_iff.1 hschema
    refine ⟨probe, hprobe, (Schema.compile_isOk_iff _).1 ⟨schema, hcompile⟩, ?_, hnodup⟩
    intro c hc
    exact (Schema.fits_iff_of_compile hcompile c).1 (hfits c hc)

/-- A fresh parser takes the sentences that the registry admits and nothing else,
and skips blank lines and comments and nothing else. -/
theorem Parser.parseLine_grammar (registry : Registry) (line : String) (number : Nat) :
    let result := (fresh.parseLine registry line number).1
    let input := trim line.toList
    (∀ test, result = .ok (some test) ↔
      input ≠ [] ∧ input.head? ≠ some '#' ∧
        ∃ d : Sentence, d.WellFormed ∧ d.text = input ∧ registry.Admits d ∧ d.test = test) ∧
    (∀ d d' : Sentence, d.WellFormed → d'.WellFormed → d.text = input → d'.text = input →
      d = d') ∧
    (result = .ok none ↔ input = [] ∨ input.head? = some '#') := by
  refine ⟨fun test => ?_, fun d d' hd hd' ht ht' => Sentence.text_inj hd hd' (ht.trans ht'.symm),
    ?_⟩
  · rw [parseLine_fst_eq_ok_iff, lineResult_eq_some_iff (trimmed_trim _)]
    simp only [Registry.admits_iff, and_assoc]
  · rw [parseLine_fst_eq_ok_iff, lineResult_eq_ok_none_iff]

/-- A no-break space is a blank, and nothing may be glued to a closing quote. -/
example :
    let registry := Registry.empty.register "counting" .counting
    ((Parser.fresh.parseLine registry "a\u00a0must run counting with expect \"7\"" 1).1 =
      .ok (some ⟨"a", "counting", "a\u00a0must run counting with expect \"7\"",
        [("expect", "7")]⟩)) ∧
    (Parser.fresh.parseLine registry "a must run counting with expect '7'b" 1).1 =
      .error (.inLine 1 (.malformedArguments "b")) := by
  cbv

end ServiceProbe
