import ServiceProbe.Probe.Builtin
import ServiceProbe.Proofs.Parser.Sentences

/-!
What a rejected line is rejected for. The header comes first, then the protocol,
and then the clauses from the left: behind as many clauses as are all right stands
the one thing that the error is about. There is only one such place, so of several
faults of a line the leftmost is reported, and of several faults of one clause the
first in a fixed order.
-/

namespace ServiceProbe

open Line Text

namespace Line

/-! ### Where a line is at fault -/

/-- The text begins with a header; what follows stands on one line. -/
structure Headed (s target protocol rest : List Char) : Prop where
  word_target : Word target
  word_protocol : Word protocol
  oneLine : '\n' ∉ rest
  written : ∃ w₁ w₂ w₃, Gap w₁ ∧ Gap w₂ ∧ Gap w₃ ∧
    s = headerText target w₁ w₂ w₃ protocol rest

/-- The text begins with these clauses. A bare value goes on until the next blank. -/
inductive Opens : (clauses : List Spelling) → (s rest : List Char) → Prop
  | nil (s : List Char) : Opens [] s s
  | cons {c : Spelling} {clauses : List Spelling} {s rest : List Char} (hc : c.WellFormed)
      (hends : c.quoting.Ends s) (h : Opens clauses s rest) :
      Opens (c :: clauses) (c.text ++ s) rest

variable {s rest : List Char}

/-- A word that is cut off can be completed. -/
theorem Headed.exists_stops {target protocol : List Char} (h : Headed s target protocol rest) :
    ∃ protocol' rest', Headed s target protocol' rest' ∧ Stops (fun c => !isBlank c) rest' := by
  obtain ⟨w₁, w₂, w₃, h₁, h₂, h₃, htext⟩ := h.written
  refine ⟨protocol ++ firstWord rest, afterWord rest, ?_, stops_afterWord rest⟩
  constructor
  · exact h.word_target
  · constructor
    · simp [h.word_protocol.1]
    · rw [List.forall_mem_append]
      exact ⟨h.word_protocol.2, fun c hc => not_isBlank_of_mem_firstWord hc⟩
  · exact fun hmem => h.oneLine ((List.dropWhile_suffix _).mem hmem)
  · refine ⟨w₁, w₂, w₃, h₁, h₂, h₃, ?_⟩
    rw [htext, headerText, headerText, List.append_assoc, firstWord_append_afterWord]

theorem readHeader?_of_headed {target protocol : List Char} (h : Headed s target protocol rest)
    (hrest : Stops (fun c => !isBlank c) rest) :
    readHeader? s = some ⟨target, protocol, rest⟩ :=
  readHeader?_eq_some_iff.2 ⟨h.word_target, h.word_protocol, hrest, h.oneLine, h.written⟩

theorem readHeader?_eq_none_iff :
    readHeader? s = none ↔ ¬ ∃ target protocol rest, Headed s target protocol rest := by
  constructor
  · rintro hnone ⟨target, protocol, rest, h⟩
    obtain ⟨protocol', rest', h', hstops⟩ := h.exists_stops
    rw [readHeader?_of_headed h' hstops] at hnone
    contradiction
  · intro h
    cases hread : readHeader? s with
    | none => rfl
    | some header =>
      obtain ⟨htarget, hprotocol, -, hline, hwritten⟩ := readHeader?_eq_some_iff.1 hread
      exact absurd ⟨_, _, _, htarget, hprotocol, hline, hwritten⟩ h

theorem Spelling.WellFormed.exists_ends {c : Spelling} (h : c.WellFormed) (rest : List Char) :
    ∃ c' : Spelling, ∃ rest', c'.WellFormed ∧ c'.quoting.Ends rest' ∧
      c.text ++ rest = c'.text ++ rest' := by
  obtain ⟨beforeWord, beforeName, name, beforeValue, quoting, value⟩ := c
  cases quoting with
  | single => exact ⟨_, rest, h, trivial, rfl⟩
  | double => exact ⟨_, rest, h, trivial, rfl⟩
  | bare =>
    refine ⟨⟨beforeWord, beforeName, name, beforeValue, .bare, value ++ firstWord rest⟩,
      afterWord rest, ?_, stops_afterWord rest, ?_⟩
    · obtain ⟨hword, hsingle, hdouble⟩ := h.value
      have hhead : (value ++ firstWord rest).head? = value.head? :=
        List.head?_append_of_ne_nil _ hword.1
      refine { h with value := ⟨⟨?_, ?_⟩, ?_, ?_⟩ }
      · simp [hword.1]
      · rw [List.forall_mem_append]
        exact ⟨hword.2, fun c hc => not_isBlank_of_mem_firstWord hc⟩
      · rw [hhead]
        exact hsingle
      · rw [hhead]
        exact hdouble
    · simp only [Spelling.text_append, Quoting.literal, List.append_assoc,
        firstWord_append_afterWord]

theorem readClause?_eq_none_iff :
    readClause? s = none ↔ ∀ c : Spelling, c.WellFormed → ¬ c.text <+: s := by
  constructor
  · rintro hnone c hc ⟨rest, rfl⟩
    obtain ⟨c', rest', hc', hends, heq⟩ := hc.exists_ends rest
    rw [heq, readClause?_text hc' hends] at hnone
    contradiction
  · intro h
    cases hread : readClause? s with
    | none => rfl
    | some found =>
      obtain ⟨c, hc, -, -, rfl⟩ := readClause?_eq_some_iff.1 hread
      exact absurd (List.prefix_append _ _) (h c hc)

end Line

/-- The clause is declared, and its value matches the declared pattern. -/
def Allows (declared : List (String × Pattern)) (c : Spelling) : Prop :=
  ∃ pattern accepts, declared.lookup c.argument.1 = some pattern ∧
    pattern.matcher = .ok accepts ∧ accepts c.argument.2 = true

/-- What is wrong right at the front of a text that follows clauses with the given
names. It is the first of four things that applies. -/
inductive FaultAt (declared : List (String × Pattern)) (protocol : String)
    (names : List String) : (s : List Char) → LineFault → Prop
  /-- Something is there, and it is no clause. -/
  | malformed {s : List Char} (hs : trim s ≠ [])
      (h : ∀ c : Spelling, c.WellFormed → ¬ c.text <+: s) :
      FaultAt declared protocol names s (.malformedArguments (String.ofList (trim s)))
  | undeclared {c : Spelling} {rest : List Char} (hc : c.WellFormed)
      (hends : c.quoting.Ends rest) (h : declared.lookup c.argument.1 = none) :
      FaultAt declared protocol names (c.text ++ rest) (.unknownArgument protocol c.argument.1)
  | mismatch {c : Spelling} {rest : List Char} {pattern : Pattern} {accepts : String → Bool}
      (hc : c.WellFormed) (hends : c.quoting.Ends rest)
      (h : declared.lookup c.argument.1 = some pattern) (hmatcher : pattern.matcher = .ok accepts)
      (haccepts : accepts c.argument.2 = false) :
      FaultAt declared protocol names (c.text ++ rest)
        (.invalidValue c.argument.1 c.argument.2 pattern.source)
  | repeated {c : Spelling} {rest : List Char} (hc : c.WellFormed)
      (hends : c.quoting.Ends rest) (hallows : Allows declared c) (h : c.argument.1 ∈ names) :
      FaultAt declared protocol names (c.text ++ rest) (.repeatedArgument c.argument.1)

/-- The first clauses, as many as given, are allowed and have different names, and the
fault is right behind them. -/
def FaultBehind (declared : List (String × Pattern)) (protocol : String) (s : List Char)
    (count : Nat) (fault : LineFault) : Prop :=
  ∃ clauses rest, clauses.length = count ∧ Opens clauses s rest ∧
    (∀ c ∈ clauses, Allows declared c) ∧ (clauses.map (·.argument.1)).Nodup ∧
    FaultAt declared protocol (clauses.map (·.argument.1)) rest fault

section

variable {declared : List (String × Pattern)} {protocol : String} {schema : Schema}
  {s rest : List Char} {fault : LineFault} {names : List String}

/-! ### There is one place -/

/-- A clause that is all right is at fault only if its name was given before. -/
theorem FaultAt.mem_names {c : Spelling} (h : FaultAt declared protocol names s fault)
    (hs : s = c.text ++ rest) (hc : c.WellFormed) (hends : c.quoting.Ends rest)
    (hallows : Allows declared c) : c.argument.1 ∈ names := by
  obtain ⟨pattern, accepts, hlookup, hmatcher, haccepts⟩ := hallows
  cases h with
  | malformed _ hno =>
    apply absurd _ (hno c hc)
    exact ⟨rest, hs.symm⟩
  | undeclared hc' hends' hnone =>
    obtain ⟨rfl, -⟩ := Spelling.text_append_inj hc' hc hends' hends hs
    rw [hnone] at hlookup
    contradiction
  | mismatch hc' hends' hlookup' hmatcher' hrefuses =>
    obtain ⟨rfl, -⟩ := Spelling.text_append_inj hc' hc hends' hends hs
    rw [hlookup'] at hlookup
    cases hlookup
    rw [hmatcher'] at hmatcher
    cases hmatcher
    rw [hrefuses] at haccepts
    contradiction
  | repeated hc' hends' _ hmem =>
    obtain ⟨rfl, -⟩ := Spelling.text_append_inj hc' hc hends' hends hs
    exact hmem

/-- Clauses that are all right end where the fault is, so there are not more of them
and not fewer. -/
theorem Line.Opens.length_eq {clauses clauses' : List Spelling} {rest' : List Char}
    {fault' : LineFault} (h : Opens clauses s rest) (h' : Opens clauses' s rest')
    (names : List String) (hallows : ∀ c ∈ clauses, Allows declared c)
    (hallows' : ∀ c ∈ clauses', Allows declared c)
    (hnodup : (names ++ clauses.map (·.argument.1)).Nodup)
    (hnodup' : (names ++ clauses'.map (·.argument.1)).Nodup)
    (hfault : FaultAt declared protocol (names ++ clauses.map (·.argument.1)) rest fault)
    (hfault' : FaultAt declared protocol (names ++ clauses'.map (·.argument.1)) rest' fault') :
    clauses.length = clauses'.length := by
  induction h generalizing names clauses' with
  | nil s =>
    cases h' with
    | nil => rfl
    | @cons c clauses' s' _ hc hends h' =>
      rw [List.map_nil, List.append_nil] at hfault
      have hmem := hfault.mem_names rfl hc hends (hallows' c List.mem_cons_self)
      exact absurd rfl ((List.nodup_append.1 hnodup').2.2 _ hmem _ (by simp))
  | @cons c clauses s rest hc hends h ih =>
    generalize htext : c.text ++ s = text at h'
    cases h' with
    | nil =>
      rw [List.map_nil, List.append_nil] at hfault'
      have hmem := hfault'.mem_names htext.symm hc hends (hallows c List.mem_cons_self)
      exact absurd rfl ((List.nodup_append.1 hnodup).2.2 _ hmem _ (by simp))
    | @cons c' clauses' s' _ hc' hends' h' =>
      obtain ⟨rfl, rfl⟩ := Spelling.text_append_inj hc hc' hends hends' htext
      rw [List.forall_mem_cons] at hallows hallows'
      rw [List.map_cons, List.append_cons] at hnodup hnodup' hfault hfault'
      rw [List.length_cons, List.length_cons,
        ih h' _ hallows.2 hallows'.2 hnodup hnodup' hfault hfault']

/-! ### Reading up to the fault -/

/-- One turn of the reader at a clause. -/
theorem readArguments_clause {c : Spelling} (hc : c.WellFormed) (hends : c.quoting.Ends rest)
    (schema : Schema) (protocol : String) (given : List (String × String)) :
    readArguments schema protocol (c.text ++ rest) given =
      match schema.lookup c.argument.1 with
      | none => .error (.unknownArgument protocol c.argument.1)
      | some rule =>
        if !rule.accepts c.argument.2 then
          .error (.invalidValue c.argument.1 c.argument.2 rule.source)
        else if given.any (·.1 == c.argument.1) then .error (.repeatedArgument c.argument.1)
        else readArguments schema protocol rest (given ++ [c.argument]) := by
  rw [readArguments, if_neg (trim_text_append_ne_nil rest)]
  split
  · next h => simp [readClause?_text hc hends] at h
  · next h =>
    rw [readClause?_text hc hends] at h
    cases h
    rfl

/-- What has no rule is not declared. -/
theorem lookup_rule_iff (h : Schema.compile protocol declared = .ok schema) {name : String} :
    schema.lookup name = none ↔ declared.lookup name = none := by
  rw [Schema.lookup_of_compile h]
  cases hlookup : declared.lookup name with
  | none => simp
  | some pattern =>
    have hcompilable := (Schema.compile_isOk_iff protocol).1 ⟨schema, h⟩
    obtain ⟨front, back, rfl, -⟩ := List.lookup_eq_some_iff.1 hlookup
    obtain ⟨accepts, hmatcher⟩ := hcompilable (name, pattern) (by simp)
    dsimp only at hmatcher
    simp [hmatcher, Except.toOption]

/-- A rule is that of a declared pattern. -/
theorem exists_pattern (h : Schema.compile protocol declared = .ok schema) {name : String}
    {rule : Rule} (hlookup : schema.lookup name = some rule) :
    ∃ pattern, declared.lookup name = some pattern ∧ pattern.matcher = .ok rule.accepts ∧
      rule.source = pattern.source := by
  rw [Schema.lookup_of_compile h] at hlookup
  obtain ⟨pattern, hdeclared, hrule⟩ := Option.bind_eq_some_iff.1 hlookup
  obtain ⟨accepts, haccepts, rfl⟩ := Option.map_eq_some_iff.1 hrule
  refine ⟨pattern, hdeclared, ?_, rfl⟩
  cases hmatcher : pattern.matcher with
  | error problem => simp [hmatcher, Except.toOption] at haccepts
  | ok accepts' => simpa [hmatcher, Except.toOption] using haccepts

theorem lookup_rule (h : Schema.compile protocol declared = .ok schema) {name : String}
    {pattern : Pattern} {accepts : String → Bool} (hlookup : declared.lookup name = some pattern)
    (hmatcher : pattern.matcher = .ok accepts) :
    schema.lookup name = some ⟨pattern.source, accepts⟩ := by
  rw [Schema.lookup_of_compile h, hlookup, Option.bind_some, hmatcher]
  rfl

/-- What is at fault is reported. -/
theorem FaultAt.readArguments {given : List (String × String)}
    (h : FaultAt declared protocol (given.map (·.1)) s fault)
    (hcompile : Schema.compile protocol declared = .ok schema) :
    readArguments schema protocol s given = .error fault := by
  cases h with
  | malformed hs hno =>
    rw [ServiceProbe.readArguments, if_neg hs]
    split
    · rfl
    · next hclause =>
      rw [readClause?_eq_none_iff.2 hno] at hclause
      contradiction
  | @undeclared c rest hc hends hnone =>
    rw [readArguments_clause hc hends, (lookup_rule_iff hcompile).2 hnone]
  | mismatch hc hends hlookup hmatcher haccepts =>
    rw [readArguments_clause hc hends, lookup_rule hcompile hlookup hmatcher]
    simp [haccepts]
  | @repeated c rest hc hends hallows hmem =>
    obtain ⟨pattern, accepts, hlookup, hmatcher, haccepts⟩ := hallows
    rw [readArguments_clause hc hends, lookup_rule hcompile hlookup hmatcher]
    have hgiven : given.any (·.1 == c.argument.1) = true := by
      obtain ⟨entry, hentry, heq⟩ := List.mem_map.1 hmem
      exact List.any_eq_true.2 ⟨entry, hentry, beq_iff_eq.2 heq⟩
    simp [haccepts, hgiven]

/-- What is reported is at fault behind clauses that are all right. -/
theorem exists_faultAt_of_readArguments (hcompile : Schema.compile protocol declared = .ok schema)
    (given : List (String × String)) (hnodup : (given.map (·.1)).Nodup)
    (h : readArguments schema protocol s given = .error fault) :
    ∃ clauses rest, Opens clauses s rest ∧ (∀ c ∈ clauses, Allows declared c) ∧
      (given.map (·.1) ++ clauses.map (·.argument.1)).Nodup ∧
      FaultAt declared protocol (given.map (·.1) ++ clauses.map (·.argument.1)) rest fault := by
  -- a fault right here is one behind no clauses
  have here {s : List Char} {given : List (String × String)} (hnodup : (given.map (·.1)).Nodup)
      (hfault : FaultAt declared protocol (given.map (·.1)) s fault) :
      ∃ clauses rest, Opens clauses s rest ∧ (∀ c ∈ clauses, Allows declared c) ∧
        (given.map (·.1) ++ clauses.map (·.argument.1)).Nodup ∧
        FaultAt declared protocol (given.map (·.1) ++ clauses.map (·.argument.1)) rest fault :=
    ⟨[], s, .nil s, by simp, by simpa using hnodup, by simpa using hfault⟩
  fun_induction readArguments schema protocol s given with
  | case1 => contradiction
  | case2 s given hs hclause =>
    cases h
    apply here hnodup
    exact .malformed hs (readClause?_eq_none_iff.1 hclause)
  | case3 s given hs clause rest hclause name hlookup =>
    cases h
    obtain ⟨c, hc, rfl, hends, rfl⟩ := readClause?_eq_some_iff.1 hclause
    apply here hnodup
    apply FaultAt.undeclared hc hends
    exact (lookup_rule_iff hcompile).1 hlookup
  | case4 s given hs clause rest hclause name value rule hlookup hrefuses =>
    cases h
    obtain ⟨c, hc, rfl, hends, rfl⟩ := readClause?_eq_some_iff.1 hclause
    obtain ⟨pattern, hdeclared, hmatcher, hsource⟩ := exists_pattern hcompile hlookup
    have hrefuses : rule.accepts value = false := by simpa using hrefuses
    apply here hnodup
    rw [hsource]
    exact .mismatch hc hends hdeclared hmatcher hrefuses
  | case5 s given hs clause rest hclause name value rule hlookup haccepts hmem =>
    cases h
    obtain ⟨c, hc, rfl, hends, rfl⟩ := readClause?_eq_some_iff.1 hclause
    obtain ⟨entry, hentry, hname⟩ := List.any_eq_true.1 hmem
    have haccepts : rule.accepts value = true := by simpa using haccepts
    apply here hnodup
    apply FaultAt.repeated hc hends
    · exact (Schema.fits_iff_of_compile hcompile c).1 ⟨rule, hlookup, haccepts⟩
    · exact List.mem_map.2 ⟨entry, hentry, beq_iff_eq.1 hname⟩
  | case6 s given hs clause rest hclause name value rule hlookup haccepts hnew ih =>
    obtain ⟨c, hc, rfl, hends, rfl⟩ := readClause?_eq_some_iff.1 hclause
    have haccepts : rule.accepts value = true := by simpa using haccepts
    have hallows : Allows declared c :=
      (Schema.fits_iff_of_compile hcompile c).1 ⟨rule, hlookup, haccepts⟩
    have hnames : (given ++ [(name, value)]).map (·.1) = given.map (·.1) ++ [c.argument.1] :=
      List.map_append
    have hnodup' : ((given ++ [(name, value)]).map (·.1)).Nodup := by
      rw [hnames]
      apply hnodup.append (List.nodup_singleton _)
      rw [List.disjoint_singleton]
      intro hmem
      obtain ⟨entry, hentry, heq⟩ := List.mem_map.1 hmem
      exact hnew (List.any_eq_true.2 ⟨entry, hentry, beq_iff_eq.2 heq⟩)
    obtain ⟨clauses, rest', hopens, hclauses, hall, hfault⟩ := ih hnodup' h
    rw [hnames, ← List.append_cons] at hall hfault
    refine ⟨c :: clauses, rest', .cons hc hends hopens, ?_, hall, hfault⟩
    rw [List.forall_mem_cons]
    exact ⟨hallows, hclauses⟩

/-- Clauses that are all right are read, and what follows them decides. -/
theorem readArguments_of_opens (hcompile : Schema.compile protocol declared = .ok schema)
    {clauses : List Spelling} (h : Opens clauses s rest)
    (hallows : ∀ c ∈ clauses, Allows declared c) (given : List (String × String))
    (hnodup : (given.map (·.1) ++ clauses.map (·.argument.1)).Nodup) :
    readArguments schema protocol s given =
      readArguments schema protocol rest (given ++ clauses.map Spelling.argument) := by
  induction h generalizing given with
  | nil s => rw [List.map_nil, List.append_nil]
  | @cons c clauses s rest hc hends h ih =>
    rw [List.forall_mem_cons] at hallows
    have hfits := (Schema.fits_iff_of_compile hcompile c).2 hallows.1
    have hnew : c.argument.1 ∉ given.map (·.1) := by
      intro hmem
      exact (List.nodup_append.1 hnodup).2.2 _ hmem _ List.mem_cons_self rfl
    rw [List.map_cons, List.append_cons] at hnodup
    rw [readArguments_text hc hfits hends hnew, ih hallows.2 _ (by simpa using hnodup),
      List.map_cons, List.append_assoc]
    rfl

theorem readArguments_eq_error_iff (hcompile : Schema.compile protocol declared = .ok schema) :
    readArguments schema protocol s [] = .error fault ↔
      ∃ count, FaultBehind declared protocol s count fault := by
  constructor
  · intro h
    obtain ⟨clauses, rest, hopens, hallows, hnodup, hfault⟩ :=
      exists_faultAt_of_readArguments hcompile [] List.nodup_nil h
    exact ⟨clauses.length, clauses, rest, rfl, hopens, hallows, hnodup, hfault⟩
  · rintro ⟨_, clauses, rest, -, hopens, hallows, hnodup, hfault⟩
    rw [readArguments_of_opens hcompile hopens hallows [] hnodup]
    apply FaultAt.readArguments _ hcompile
    rw [List.nil_append, List.map_map]
    exact hfault

theorem FaultBehind.unique {count count' : Nat} {fault' : LineFault}
    (h : FaultBehind declared protocol s count fault)
    (h' : FaultBehind declared protocol s count' fault')
    (hcompile : Schema.compile protocol declared = .ok schema) :
    count' = count ∧ fault' = fault := by
  constructor
  · obtain ⟨clauses, rest, rfl, hopens, hallows, hnodup, hfault⟩ := h
    obtain ⟨clauses', rest', rfl, hopens', hallows', hnodup', hfault'⟩ := h'
    exact hopens'.length_eq hopens [] hallows' hallows hnodup' hnodup hfault' hfault
  · have hread := (readArguments_eq_error_iff hcompile).2 ⟨count, h⟩
    rw [(readArguments_eq_error_iff hcompile).2 ⟨count', h'⟩] at hread
    exact Except.error.inj hread

end

/-! ### A whole line -/

theorem lineResult_eq_error_iff {schemaOf : String → Except LineFault Schema}
    {input : List Char} {fault : LineFault} :
    lineResult schemaOf input = .error fault ↔
      (input ≠ [] ∧ input.head? ≠ some '#') ∧
        ((readHeader? input = none ∧ fault = .malformedHeader (String.ofList input)) ∨
          ∃ header, readHeader? input = some header ∧
            (schemaOf (String.ofList header.protocol) = .error fault ∨
              ∃ schema, schemaOf (String.ofList header.protocol) = .ok schema ∧
                readArguments schema (String.ofList header.protocol) header.rest [] =
                  .error fault)) := by
  unfold lineResult
  by_cases hskip : input = [] ∨ input.head? = some '#'
  · rw [if_pos hskip, ← not_or]
    simp [hskip]
  · rw [if_neg hskip, ← not_or]
    cases readHeader? input with
    | none => simp [hskip, eq_comm]
    | some header =>
      cases hschema : schemaOf (String.ofList header.protocol) with
      | error fault' => simp [hskip, hschema]
      | ok schema =>
        cases hread : readArguments schema (String.ofList header.protocol) header.rest [] <;>
          simp [hskip, hschema, hread, Except.map]

theorem Schema.exists_badPattern {protocol : String} {declared : List (String × Pattern)}
    {fault : LineFault} (h : compile protocol declared = .error fault) :
    ∃ name problem, fault = .badPattern protocol name problem := by
  induction declared with
  | nil => contradiction
  | cons entry others ih =>
    obtain ⟨name, pattern⟩ := entry
    rw [compile] at h
    cases hmatcher : pattern.matcher with
    | error problem =>
      rw [hmatcher] at h
      cases h
      exact ⟨name, problem, rfl⟩
    | ok accepts =>
      rw [hmatcher] at h
      cases hothers : compile protocol others with
      | error fault' =>
        rw [hothers] at h
        cases h
        exact ih hothers
      | ok schema =>
        rw [hothers] at h
        contradiction

theorem Parser.fresh_schema_eq_error_iff {registry : Registry} {protocol : String}
    {fault : LineFault} :
    (fresh.schema registry protocol).1 = .error fault ↔
      (registry.lookup protocol = none ∧ fault = .unknownProtocol protocol registry.names) ∨
        ∃ probe, registry.lookup protocol = some probe ∧
          Schema.compile protocol probe.arguments = .error fault := by
  simp only [Parser.schema, fresh, List.lookup_nil]
  cases registry.lookup protocol with
  | none => simp [eq_comm]
  | some probe => cases hcompile : Schema.compile protocol probe.arguments <;> simp [hcompile]

/-- What a line with a header can be rejected for. -/
theorem Registry.fault_cases {registry : Registry} {input : List Char} {header : Header}
    {fault : LineFault} (hheader : readHeader? input = some header)
    (h : lineResult (fun protocol => (Parser.fresh.schema registry protocol).1) input =
      .error fault) :
    let protocol := String.ofList header.protocol
    (registry.lookup protocol = none ∧ fault = .unknownProtocol protocol registry.names) ∨
      ∃ probe, registry.lookup protocol = some probe ∧
        ((¬ Compilable probe.arguments ∧
            ∃ name problem, fault = .badPattern protocol name problem) ∨
          ∃ schema count, Schema.compile protocol probe.arguments = .ok schema ∧
            FaultBehind probe.arguments protocol header.rest count fault) := by
  intro protocol
  obtain ⟨-, ⟨hnone, -⟩ | ⟨header', hheader', hfault⟩⟩ := lineResult_eq_error_iff.1 h
  · rw [hheader] at hnone
    contradiction
  · rw [hheader] at hheader'
    cases hheader'
    rcases hfault with hschema | ⟨schema, hschema, hread⟩
    · rcases Parser.fresh_schema_eq_error_iff.1 hschema with hunknown | ⟨probe, hprobe, hbad⟩
      · exact .inl hunknown
      · refine .inr ⟨probe, hprobe, .inl ⟨?_, Schema.exists_badPattern hbad⟩⟩
        rw [← Schema.compile_isOk_iff protocol, hbad]
        rintro ⟨schema, hok⟩
        contradiction
    · obtain ⟨probe, hprobe, hcompile⟩ := Parser.fresh_schema_eq_ok_iff.1 hschema
      obtain ⟨count, hbehind⟩ := (readArguments_eq_error_iff hcompile).1 hread
      exact .inr ⟨probe, hprobe, .inr ⟨schema, count, hcompile, hbehind⟩⟩

section

variable {registry : Registry} {input : List Char} {fault : LineFault}
  (h : lineResult (fun protocol => (Parser.fresh.schema registry protocol).1) input =
    .error fault)
include h

theorem eq_malformedHeader_iff (found : String) :
    fault = .malformedHeader found ↔
      found = String.ofList input ∧
        ¬ ∃ target protocol rest, Headed input target protocol rest := by
  rw [← readHeader?_eq_none_iff]
  cases hheader : readHeader? input with
  | none =>
    obtain ⟨-, ⟨-, rfl⟩ | ⟨header, hsome, -⟩⟩ := lineResult_eq_error_iff.1 h
    · simp [eq_comm]
    · rw [hheader] at hsome
      contradiction
  | some header =>
    apply iff_of_false
    · rintro rfl
      rcases Registry.fault_cases hheader h with
        ⟨-, heq⟩ | ⟨probe, -, ⟨-, name, problem, heq⟩ | ⟨schema, count, -, _, _, -, -, -, -, hat⟩⟩
      · contradiction
      · contradiction
      · contradiction
    · simp

variable {target protocol rest : List Char} (hheaded : Headed input target protocol rest)
  (hstops : Stops (fun c => !isBlank c) rest)
include hheaded hstops

theorem eq_unknownProtocol_iff (name : String) (known : List String) :
    fault = .unknownProtocol name known ↔
      name = String.ofList protocol ∧ known = registry.names ∧
        registry.lookup (String.ofList protocol) = none := by
  rcases Registry.fault_cases (readHeader?_of_headed hheaded hstops) h with
    ⟨hnone, rfl⟩ | ⟨probe, hprobe, hfault⟩
  · rw [LineFault.unknownProtocol.injEq, and_iff_left hnone, eq_comm, @eq_comm _ known]
  · apply iff_of_false
    · rintro rfl
      rcases hfault with ⟨-, _, problem, heq⟩ | ⟨schema, count, -, _, _, -, -, -, -, hat⟩
      · contradiction
      · contradiction
    · rintro ⟨-, -, hnone⟩
      rw [hprobe] at hnone
      contradiction

theorem exists_faultBehind {probe : Probe}
    (hprobe : registry.lookup (String.ofList protocol) = some probe)
    (hcompilable : Compilable probe.arguments) :
    ∃ count, FaultBehind probe.arguments (String.ofList protocol) rest count fault ∧
      ∀ count' fault', FaultBehind probe.arguments (String.ofList protocol) rest count' fault' →
        count' = count ∧ fault' = fault := by
  rcases Registry.fault_cases (readHeader?_of_headed hheaded hstops) h with
    ⟨hnone, -⟩ | ⟨found, hfound, hfault⟩
  · rw [hprobe] at hnone
    contradiction
  · rw [hprobe] at hfound
    cases hfound
    rcases hfault with ⟨hbad, -⟩ | ⟨schema, count, hcompile, hbehind⟩
    · exact absurd hcompilable hbad
    · exact ⟨count, hbehind, fun count' fault' h' => hbehind.unique h' hcompile⟩

end

/-- A rejected line reports its leftmost fault: the want of a header; or else, the protocol
being a whole word, that it is not registered, whatever the clauses are; or else what
stands right behind as many clauses as are all right. There is one such place and one
fault at it. -/
theorem Parser.parseLine_leftmost_fault (registry : Registry) (earlier : List String)
    (line : String) (number : Nat) {e : ParseError}
    (h : ((fresh.after registry earlier).parseLine registry line number).1 = .error e) :
    let input := trim line.toList
    ∃ fault, e = .inLine number fault ∧
      (∀ found, fault = .malformedHeader found ↔
        found = String.ofList input ∧
          ¬ ∃ target protocol rest, Headed input target protocol rest) ∧
      ((∃ target protocol rest, Headed input target protocol rest) →
        ∃ target protocol rest, Headed input target protocol rest ∧
          Stops (fun c => !isBlank c) rest) ∧
      ∀ target protocol rest, Headed input target protocol rest →
        Stops (fun c => !isBlank c) rest →
        (∀ name known, fault = .unknownProtocol name known ↔
          name = String.ofList protocol ∧ known = registry.names ∧
            registry.lookup (String.ofList protocol) = none) ∧
        ∀ probe, registry.lookup (String.ofList protocol) = some probe →
          Compilable probe.arguments →
          ∃ count, FaultBehind probe.arguments (String.ofList protocol) rest count fault ∧
            ∀ count' fault',
              FaultBehind probe.arguments (String.ofList protocol) rest count' fault' →
                count' = count ∧ fault' = fault := by
  intro input
  rw [parseLine_fst_of_current (current_fresh_after registry earlier), parseLine_fst] at h
  cases hresult : lineResult (fun protocol => (fresh.schema registry protocol).1) input with
  | ok result =>
    rw [hresult] at h
    contradiction
  | error fault =>
    rw [hresult] at h
    refine ⟨fault, (Except.error.inj h).symm, eq_malformedHeader_iff hresult, ?_, ?_⟩
    · rintro ⟨target, protocol, rest, hheaded⟩
      exact ⟨target, hheaded.exists_stops⟩
    · intro target protocol rest hheaded hstops
      refine ⟨eq_unknownProtocol_iff hresult hheaded hstops, ?_⟩
      intro probe hprobe hcompilable
      exact exists_faultBehind hresult hheaded hstops hprobe hcompilable

/-- A name given twice is reported although its value matches, since it comes before the
clause that is not declared and before the one that cannot be read. -/
theorem Parser.parseLine_leftmost_fault_repeated :
    let line := "ns must run dns with type A with lookup 'a b' with type TXT with port 1 with x"
    let rest := " with type A with lookup 'a b' with type TXT with port 1 with x".toList
    let fault : LineFault := .repeatedArgument "type"
    (fresh.parseLine Registry.builtin line 3).1 = .error (.inLine 3 fault) ∧
      ∃ count, FaultBehind Dns.probe.arguments "dns" rest count fault ∧
        ∀ count' fault', FaultBehind Dns.probe.arguments "dns" rest count' fault' →
          count' = count ∧ fault' = fault := by
  intro line rest fault
  have hfails : (fresh.parseLine Registry.builtin line 3).1 = .error (.inLine 3 fault) := by
    decide +kernel
  have hheader : readHeader? (trim line.toList) = some ⟨"ns".toList, "dns".toList, rest⟩ := by
    decide +kernel
  have hcompilable : Compilable Dns.probe.arguments :=
    (Schema.compile_isOk_iff "dns").1 ⟨_, rfl⟩
  obtain ⟨htarget, hprotocol, hstops, hline, hwritten⟩ := readHeader?_eq_some_iff.1 hheader
  obtain ⟨_, ⟨⟩, -, -, hclauses⟩ := parseLine_leftmost_fault Registry.builtin [] line 3 hfails
  refine ⟨hfails, ?_⟩
  exact (hclauses _ _ rest ⟨htarget, hprotocol, hline, hwritten⟩ hstops).2 Dns.probe rfl
    hcompilable

end ServiceProbe
