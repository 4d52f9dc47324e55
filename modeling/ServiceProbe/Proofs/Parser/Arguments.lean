import ServiceProbe.Proofs.Parser.Sentences

/-!
What a line says about the arguments of its test. Whatever the parser has read
before and whatever is registered, a line that gives a test is a sentence, and
the test has the arguments that the clauses of the sentence write and no others.
Line feeds may stand before the protocol, but the clauses stand on one line, so
no value holds one.
-/

namespace ServiceProbe

open Line Text

/-- No name occurs twice, so an entry is found under its name. -/
theorem lookup_eq_some_iff_mem {α : Type} {entries : List (String × α)}
    (h : (entries.map (·.1)).Nodup) {name : String} {value : α} :
    entries.lookup name = some value ↔ (name, value) ∈ entries := by
  rw [List.lookup_eq_some_iff]
  constructor
  · rintro ⟨front, back, rfl, -⟩
    simp
  · intro hmem
    obtain ⟨front, back, rfl⟩ := List.append_of_mem hmem
    refine ⟨front, back, rfl, fun entry hentry => ?_⟩
    rw [List.map_append, List.map_cons, List.nodup_append] at h
    rw [bne_iff_ne]
    exact (h.2.2 _ (List.mem_map_of_mem hentry) _ (by simp)).symm

namespace Line.Sentence

variable {d : Sentence}

/-- The arguments of the test are what the clauses write. -/
theorem argument?_eq_some_iff (h : (d.clauses.map (·.name)).Nodup) {name value : String} :
    d.test.argument? name = some value ↔
      ∃ c ∈ d.clauses, c.name = name.toList ∧ c.value = value.toList := by
  have hentries : (d.test.arguments.map (·.1)).Nodup := nodup_map_argument.2 h
  rw [Test.argument?, lookup_eq_some_iff_mem hentries]
  simp only [test, List.mem_map, Spelling.argument, Prod.mk.injEq, String.ofList_eq]

/-- A value that is not the empty one has to be written. -/
theorem argument_eq_iff (h : (d.clauses.map (·.name)).Nodup) {name value : String}
    (hvalue : value ≠ "") :
    d.test.argument name = value ↔
      ∃ c ∈ d.clauses, c.name = name.toList ∧ c.value = value.toList := by
  rw [← argument?_eq_some_iff h, Test.argument]
  cases d.test.argument? name with
  | none => simpa using hvalue.symm
  | some given => simp

/-- The line feeds of a line stand before its clauses. -/
theorem WellFormed.newline_not_mem_value (h : d.WellFormed) {c : Spelling}
    (hc : c ∈ d.clauses) : '\n' ∉ c.value := by
  intro hmem
  refine h.oneLine (List.mem_flatMap.2 ⟨c, hc, ?_⟩)
  have hliteral : '\n' ∈ c.quoting.literal c.value := by
    cases c.quoting <;> simp [Quoting.literal, hmem]
  simp [Spelling.text, hliteral]

theorem WellFormed.newline_not_mem_argument (h : d.WellFormed)
    (hnames : (d.clauses.map (·.name)).Nodup) (name : String) :
    '\n' ∉ (d.test.argument name).toList := by
  by_cases hvalue : d.test.argument name = ""
  · simp [hvalue]
  · obtain ⟨c, hc, -, hwritten⟩ := (argument_eq_iff hnames hvalue).1 rfl
    rw [← hwritten]
    exact h.newline_not_mem_value hc

end Line.Sentence

/-- A line that gives a test is a sentence that spells the test. -/
theorem Parser.sentence_of_parseLine {parser : Parser} {registry : Registry} {line : String}
    {number : Nat} {test : Test}
    (h : (parser.parseLine registry line number).1 = .ok (some test)) :
    ∃ d : Sentence, d.WellFormed ∧ d.text = trim line.toList ∧
      (d.clauses.map (·.name)).Nodup ∧ d.test = test := by
  rw [parseLine_fst_eq_ok_iff, lineResult_eq_some_iff (trimmed_trim _)] at h
  obtain ⟨-, d, hd, htext, -, hnames, htest⟩ := h
  exact ⟨d, hd, htext, hnames, htest⟩

end ServiceProbe
