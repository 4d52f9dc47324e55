import ServiceProbe.Parser
import ServiceProbe.Proofs.Text.Blank

/-!
What a parser keeps does not show. A parser is current with a registry when each
schema that it keeps is the one the registry gives; reading a line keeps it so,
and a parser that is current gives the answers of a fresh one. What a line gives
depends on its trimmed text and on the schema of its protocol alone.
-/

namespace ServiceProbe

open Line Text

/-! ### Compiling -/

/-- All patterns of a probe's arguments can be used. -/
def Compilable (arguments : List (String × Pattern)) : Prop :=
  ∀ entry ∈ arguments, ∃ accepts, entry.2.matcher = .ok accepts

namespace Schema

theorem compile_cons_eq_ok {protocol name : String} {pattern : Pattern}
    {others : List (String × Pattern)} {schema : Schema}
    (h : compile protocol ((name, pattern) :: others) = .ok schema) :
    ∃ accepts rest, pattern.matcher = .ok accepts ∧ compile protocol others = .ok rest ∧
      schema = (name, ⟨pattern.source, accepts⟩) :: rest := by
  simp only [compile] at h
  cases hm : pattern.matcher with
  | error problem => simp [hm] at h
  | ok accepts =>
    cases hc : compile protocol others with
    | error fault => simp [hm, hc, Except.map] at h
    | ok rest =>
      simp only [hm, hc, Except.map, Except.ok.injEq] at h
      exact ⟨accepts, rest, rfl, rfl, h.symm⟩

theorem compile_isOk_iff (protocol : String) {arguments : List (String × Pattern)} :
    (∃ schema, compile protocol arguments = .ok schema) ↔ Compilable arguments := by
  induction arguments with
  | nil => simp [compile, Compilable]
  | cons entry others ih =>
    obtain ⟨name, pattern⟩ := entry
    rw [Compilable, List.forall_mem_cons, ← Compilable, ← ih]
    constructor
    · rintro ⟨schema, h⟩
      obtain ⟨accepts, rest, hm, hc, -⟩ := compile_cons_eq_ok h
      exact ⟨⟨accepts, hm⟩, rest, hc⟩
    · rintro ⟨⟨accepts, hm⟩, rest, hc⟩
      refine ⟨(name, ⟨pattern.source, accepts⟩) :: rest, ?_⟩
      simp only at hm
      simp only [compile, hm, hc, Except.map]

/-- A schema holds the rules of the declared patterns. -/
theorem lookup_of_compile {protocol : String} {arguments : List (String × Pattern)}
    {schema : Schema} (h : compile protocol arguments = .ok schema) (name : String) :
    schema.lookup name = (arguments.lookup name).bind fun pattern =>
      pattern.matcher.toOption.map fun accepts => ⟨pattern.source, accepts⟩ := by
  induction arguments generalizing schema with
  | nil =>
    cases h
    rfl
  | cons entry others ih =>
    obtain ⟨known, pattern⟩ := entry
    obtain ⟨accepts, rest, hm, hc, rfl⟩ := compile_cons_eq_ok h
    rw [List.lookup_cons, List.lookup_cons, ih hc]
    cases name == known
    · rfl
    · simp [hm, Except.toOption]

end Schema

/-! ### What a line gives -/

/-- What a line of the given trimmed text gives when protocols have the given
schemas. -/
def lineResult (schemaOf : String → Except LineFault Schema) (input : List Char) :
    Except LineFault (Option Test) :=
  if input = [] ∨ input.head? = some '#' then .ok none
  else
    match readHeader? input with
    | none => .error (.malformedHeader (String.ofList input))
    | some header =>
      let protocol := String.ofList header.protocol
      match schemaOf protocol with
      | .error fault => .error fault
      | .ok schema =>
        (readArguments schema protocol header.rest []).map fun arguments =>
          some ⟨String.ofList header.target, protocol, String.ofList input, arguments⟩

/-- What a line that gives a test was found to hold. -/
theorem lineResult_eq_ok_some_iff {schemaOf : String → Except LineFault Schema}
    {input : List Char} {test : Test} :
    lineResult schemaOf input = .ok (some test) ↔
      (input ≠ [] ∧ input.head? ≠ some '#') ∧ ∃ header schema arguments,
        readHeader? input = some header ∧ schemaOf (String.ofList header.protocol) = .ok schema ∧
        readArguments schema (String.ofList header.protocol) header.rest [] = .ok arguments ∧
        test = ⟨String.ofList header.target, String.ofList header.protocol, String.ofList input,
          arguments⟩ := by
  unfold lineResult
  by_cases hskip : input = [] ∨ input.head? = some '#'
  · rw [if_pos hskip, ← not_or]
    simp [hskip]
  · rw [if_neg hskip, ← not_or]
    cases readHeader? input with
    | none => simp
    | some header =>
      cases hschema : schemaOf (String.ofList header.protocol) with
      | error fault => simp [hschema]
      | ok schema =>
        cases hread : readArguments schema (String.ofList header.protocol) header.rest [] <;>
          simp [hskip, hschema, hread, Except.map, eq_comm]

theorem input_of_lineResult {schemaOf : String → Except LineFault Schema} {input : List Char}
    {test : Test} (h : lineResult schemaOf input = .ok (some test)) :
    test.input = String.ofList input := by
  obtain ⟨-, header, schema, arguments, -, -, -, rfl⟩ := lineResult_eq_ok_some_iff.1 h
  rfl

theorem lineResult_eq_ok_none_iff {schemaOf : String → Except LineFault Schema}
    {input : List Char} :
    lineResult schemaOf input = .ok none ↔ input = [] ∨ input.head? = some '#' := by
  unfold lineResult
  by_cases hskip : input = [] ∨ input.head? = some '#'
  · rw [if_pos hskip]
    simp [hskip]
  · rw [if_neg hskip]
    refine iff_of_false ?_ hskip
    cases readHeader? input with
    | none => simp
    | some header =>
      cases hschema : schemaOf (String.ofList header.protocol) with
      | error fault => simp [hschema]
      | ok schema =>
        cases hread : readArguments schema (String.ofList header.protocol) header.rest [] <;>
          simp [hschema, hread, Except.map]

/-- Of all schemas only that of the protocol in the header matters. -/
theorem lineResult_congr {schemaOf schemaOf' : String → Except LineFault Schema}
    {input : List Char} (h : ∀ header, readHeader? input = some header →
      schemaOf (String.ofList header.protocol) = schemaOf' (String.ofList header.protocol)) :
    lineResult schemaOf input = lineResult schemaOf' input := by
  unfold lineResult
  cases hheader : readHeader? input with
  | none => rfl
  | some header => simp only [h header hheader]

namespace Parser

theorem readLine_fst (parser : Parser) (registry : Registry) (line : List Char) :
    (parser.readLine registry line).1 =
      lineResult (fun protocol => (parser.schema registry protocol).1) (trim line) := by
  unfold readLine lineResult
  dsimp only
  split
  · rfl
  · cases readHeader? (trim line) with
    | none => rfl
    | some header =>
      dsimp only
      rcases parser.schema registry (String.ofList header.protocol) with ⟨_ | _, _⟩ <;> rfl

theorem parseLine_fst (parser : Parser) (registry : Registry) (line : String) (number : Nat) :
    (parser.parseLine registry line number).1 =
      (lineResult (fun protocol => (parser.schema registry protocol).1)
        (trim line.toList)).mapError (.inLine number) := by
  rw [← readLine_fst]
  rfl

theorem parseLine_fst_eq_ok_iff {parser : Parser} {registry : Registry} {line : String}
    {number : Nat} {result : Option Test} :
    (parser.parseLine registry line number).1 = .ok result ↔
      lineResult (fun protocol => (parser.schema registry protocol).1) (trim line.toList) =
        .ok result := by
  rw [← readLine_fst]
  simp only [parseLine]
  cases (parser.readLine registry line.toList).1 <;> simp [Except.mapError]

theorem parseLine_snd (parser : Parser) (registry : Registry) (line : String) (number : Nat) :
    (parser.parseLine registry line number).2 = (parser.readLine registry line.toList).2 := rfl

theorem readLine_snd_of_header {parser : Parser} {registry : Registry} {line : List Char}
    {header : Header} (hskip : trim line ≠ [] ∧ (trim line).head? ≠ some '#')
    (hheader : readHeader? (trim line) = some header) :
    (parser.readLine registry line).2 =
      (parser.schema registry (String.ofList header.protocol)).2 := by
  unfold readLine
  dsimp only
  rw [if_neg (not_or.2 hskip), hheader]
  dsimp only
  rcases parser.schema registry (String.ofList header.protocol) with ⟨_ | _, _⟩ <;> rfl

theorem readLine_snd (parser : Parser) (registry : Registry) (line : List Char) :
    (parser.readLine registry line).2 = parser ∨
      ∃ protocol, (parser.readLine registry line).2 = (parser.schema registry protocol).2 := by
  by_cases hskip : trim line = [] ∨ (trim line).head? = some '#'
  · left
    rw [readLine, if_pos hskip]
  · cases hheader : readHeader? (trim line) with
    | none =>
      left
      rw [readLine, if_neg hskip, hheader]
    | some header => exact .inr ⟨_, readLine_snd_of_header (not_or.1 hskip) hheader⟩

/-! ### What a parser keeps -/

/-- The parser keeps only schemas that the registry gives. -/
def Current (parser : Parser) (registry : Registry) : Prop :=
  ∀ protocol schema, parser.schemas.lookup protocol = some schema →
    ∃ probe, registry.lookup protocol = some probe ∧
      Schema.compile protocol probe.arguments = .ok schema

theorem current_fresh (registry : Registry) : fresh.Current registry := by
  intro protocol schema h
  simp [fresh] at h

theorem schema_fst_of_current {parser : Parser} {registry : Registry}
    (h : parser.Current registry) (protocol : String) :
    (parser.schema registry protocol).1 = (fresh.schema registry protocol).1 := by
  cases hkept : parser.schemas.lookup protocol with
  | some kept =>
    obtain ⟨probe, hprobe, hcompile⟩ := h protocol kept hkept
    simp [Parser.schema, hkept, fresh, hprobe, hcompile]
  | none =>
    simp only [Parser.schema, hkept, fresh, List.lookup_nil]
    cases registry.lookup protocol with
    | none => rfl
    | some probe =>
      dsimp only
      cases Schema.compile protocol probe.arguments <;> rfl

/-- Looking a schema up keeps what is kept, and adds at most the one looked up. -/
theorem lookup_schema_snd (parser : Parser) (registry : Registry) (protocol name : String) :
    (parser.schema registry protocol).2.schemas.lookup name =
      (parser.schemas.lookup name).or
        (if name = protocol then (fresh.schema registry protocol).1.toOption else none) := by
  cases hkept : parser.schemas.lookup protocol with
  | some kept =>
    have hschema : (parser.schema registry protocol).2 = parser := by simp [schema, hkept]
    rw [hschema]
    split
    · next hname =>
      rw [hname, hkept]
      rfl
    · exact Option.or_none.symm
  | none =>
    simp only [schema, hkept, fresh, List.lookup_nil]
    cases registry.lookup protocol with
    | none => simp [Except.toOption]
    | some probe =>
      dsimp only
      cases Schema.compile protocol probe.arguments with
      | error fault => simp [Except.toOption]
      | ok compiled =>
        dsimp only [Except.toOption]
        rw [List.lookup_cons]
        by_cases hname : name = protocol
        · rw [if_pos hname, beq_iff_eq.2 hname, hname, hkept]
          rfl
        · rw [if_neg hname, beq_eq_false_iff_ne.2 hname, Option.or_none]

/-- A schema that was found is kept, whatever else the parser keeps. -/
theorem schema_fst_schema_snd {parser : Parser} {registry : Registry} {protocol : String}
    {schema : Schema} (h : (parser.schema registry protocol).1 = .ok schema) :
    ((parser.schema registry protocol).2.schema registry protocol).1 = .ok schema := by
  cases hkept : parser.schemas.lookup protocol with
  | some kept => simpa [Parser.schema, hkept] using h
  | none =>
    cases hprobe : registry.lookup protocol with
    | none => simp [Parser.schema, hkept, hprobe] at h
    | some probe =>
      cases hcompile : Schema.compile protocol probe.arguments with
      | error fault => simp [Parser.schema, hkept, hprobe, hcompile] at h
      | ok compiled => simpa [Parser.schema, hkept, hprobe, hcompile] using h

theorem current_schema {parser : Parser} {registry : Registry} (h : parser.Current registry)
    (protocol : String) : (parser.schema registry protocol).2.Current registry := by
  unfold schema
  split
  · exact h
  · split
    · exact h
    · next probe hprobe =>
      split
      · exact h
      · next schema hcompile =>
        intro name kept hkept
        rw [List.lookup_cons] at hkept
        cases hname : name == protocol with
        | true =>
          rw [hname] at hkept
          cases hkept
          rw [beq_iff_eq.1 hname]
          exact ⟨probe, hprobe, hcompile⟩
        | false =>
          rw [hname] at hkept
          exact h name kept hkept

theorem current_readLine {parser : Parser} {registry : Registry} (h : parser.Current registry)
    (line : List Char) : (parser.readLine registry line).2.Current registry := by
  rcases readLine_snd parser registry line with heq | ⟨protocol, heq⟩
  · rw [heq]; exact h
  · rw [heq]; exact current_schema h protocol

/-- The parser after it has read lines. -/
def after (parser : Parser) (registry : Registry) (lines : List String) : Parser :=
  lines.foldl (fun parser line => (parser.readLine registry line.toList).2) parser

theorem current_after {parser : Parser} {registry : Registry} (h : parser.Current registry)
    (lines : List String) : (parser.after registry lines).Current registry := by
  induction lines generalizing parser with
  | nil => exact h
  | cons line lines ih => exact ih (current_readLine h line.toList)

theorem current_fresh_after (registry : Registry) (lines : List String) :
    (fresh.after registry lines).Current registry :=
  current_after (current_fresh registry) lines

theorem readLine_of_current {parser : Parser} {registry : Registry}
    (h : parser.Current registry) (line : List Char) :
    (parser.readLine registry line).1 = (fresh.readLine registry line).1 := by
  rw [readLine_fst, readLine_fst]
  simp only [schema_fst_of_current h]

theorem parseLine_fst_of_current {parser : Parser} {registry : Registry}
    (h : parser.Current registry) (line : String) (number : Nat) :
    (parser.parseLine registry line number).1 = (fresh.parseLine registry line number).1 := by
  simp only [parseLine, readLine_of_current h]

end Parser

end ServiceProbe
