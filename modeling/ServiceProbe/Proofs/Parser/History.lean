import ServiceProbe.Probe.Sample
import ServiceProbe.Proofs.Parser.Sentences
import ServiceProbe.Proofs.Registry

/-!
A parser whose registry changes under it. Names are registered and lines are read
in any order. A schema is kept from the first line on its protocol at a time when
the registry offers one, and from then on every line on the protocol is read by
it; up to then such a line is read by what the registry has at the time. So what
was read before shows only where a name is registered again.
-/

namespace ServiceProbe

open Line Text

/-- The protocol that the header of a line names. Blank lines, comments and lines
with a malformed header name none. -/
def headerProtocol? (line : String) : Option String :=
  let input := trim line.toList
  if input = [] ∨ input.head? = some '#' then none
  else (readHeader? input).map fun header => String.ofList header.protocol

/-- What a line gives to a parser that has kept nothing. -/
def Registry.uncached (registry : Registry) (line : String) (number : Nat) :
    Except ParseError (Option Test) :=
  (Parser.fresh.parseLine registry line number).1

/-- The protocol is registered, and all patterns of its probe can be used. -/
def Registry.Offers (registry : Registry) (protocol : String) : Prop :=
  ∃ probe, registry.lookup protocol = some probe ∧ Compilable probe.arguments

/-- What can happen to a registry and to a parser that uses it. -/
inductive Event where
  | register (name : String) (probe : Probe)
  | read (line : String) (number : Nat)

/-- A registry and a parser at some time. -/
structure Stage where
  registry : Registry
  parser : Parser

namespace Stage

def step (stage : Stage) : Event → Stage
  | .register name probe => { stage with registry := stage.registry.register name probe }
  | .read line number =>
    { stage with parser := (stage.parser.parseLine stage.registry line number).2 }

def run (stage : Stage) (events : List Event) : Stage := events.foldl step stage

/-- What a line would give next. -/
def result (stage : Stage) (line : String) (number : Nat) : Except ParseError (Option Test) :=
  (stage.parser.parseLine stage.registry line number).1

/-- The schema that is kept of a protocol. -/
def kept (stage : Stage) (protocol : String) : Option Schema :=
  stage.parser.schemas.lookup protocol

/-- The event is a line on the protocol, and the registry offers the protocol. -/
def Uses (stage : Stage) (protocol : String) : Event → Prop
  | .register _ _ => False
  | .read line _ => headerProtocol? line = some protocol ∧ stage.registry.Offers protocol

/-- No event is a line on the protocol while the registry offers it. -/
def Unused (start : Stage) (protocol : String) (events : List Event) : Prop :=
  ∀ earlier event later, events = earlier ++ event :: later →
    ¬ (start.run earlier).Uses protocol event

/-- No name is registered that is registered already. -/
def NoneReplaced (start : Stage) (events : List Event) : Prop :=
  ∀ earlier name probe later, events = earlier ++ .register name probe :: later →
    (start.run earlier).registry.lookup name = none

/-! ### Headers -/

theorem headerProtocol?_eq_some_iff {line protocol : String} :
    headerProtocol? line = some protocol ↔
      (trim line.toList ≠ [] ∧ (trim line.toList).head? ≠ some '#') ∧
        ∃ header, readHeader? (trim line.toList) = some header ∧
          String.ofList header.protocol = protocol := by
  unfold headerProtocol?
  dsimp only
  by_cases hskip : trim line.toList = [] ∨ (trim line.toList).head? = some '#'
  · rw [if_pos hskip, ← not_or]
    simp [hskip]
  · rw [if_neg hskip, ← not_or, Option.map_eq_some_iff]
    exact (and_iff_right hskip).symm

theorem exists_schema_iff {registry : Registry} {protocol : String} :
    (∃ schema, (Parser.fresh.schema registry protocol).1 = .ok schema) ↔
      registry.Offers protocol := by
  simp only [Parser.fresh_schema_eq_ok_iff, Registry.Offers, ← Schema.compile_isOk_iff protocol]
  constructor
  · rintro ⟨schema, probe, hprobe, hcompile⟩
    exact ⟨probe, hprobe, schema, hcompile⟩
  · rintro ⟨probe, hprobe, schema, hcompile⟩
    exact ⟨schema, probe, hprobe, hcompile⟩

/-- A line on a protocol gives the same to two parsers that find the same schema. -/
theorem result_congr {stage : Stage} (other : Stage) {line protocol : String}
    (hline : headerProtocol? line = some protocol)
    (h : (stage.parser.schema stage.registry protocol).1 =
      (other.parser.schema other.registry protocol).1) (number : Nat) :
    stage.result line number = other.result line number := by
  obtain ⟨-, header, hheader, rfl⟩ := headerProtocol?_eq_some_iff.1 hline
  unfold result
  rw [Parser.parseLine_fst, Parser.parseLine_fst]
  congr 1
  apply lineResult_congr
  intro header' hheader'
  rw [hheader] at hheader'
  cases hheader'
  exact h

/-! ### One event -/

theorem parser_step_read {stage : Stage} {line protocol : String}
    (h : headerProtocol? line = some protocol) (number : Nat) :
    (stage.step (.read line number)).parser =
      (stage.parser.schema stage.registry protocol).2 := by
  obtain ⟨hskip, header, hheader, rfl⟩ := headerProtocol?_eq_some_iff.1 h
  change (stage.parser.parseLine stage.registry line number).2 = _
  rw [Parser.parseLine_snd, Parser.readLine_snd_of_header hskip hheader]

theorem parser_step_read_of_none {stage : Stage} {line : String}
    (h : headerProtocol? line = none) (number : Nat) :
    (stage.step (.read line number)).parser = stage.parser := by
  change (stage.parser.readLine stage.registry line.toList).2 = _
  unfold headerProtocol? at h
  unfold Parser.readLine
  dsimp only at h ⊢
  by_cases hskip : trim line.toList = [] ∨ (trim line.toList).head? = some '#'
  · rw [if_pos hskip]
  · rw [if_neg hskip, Option.map_eq_none_iff] at h
    rw [if_neg hskip, h]

/-- A line keeps the schema of its protocol if the registry offers one and none is
kept yet. It keeps nothing else. -/
theorem kept_step_read (stage : Stage) (line : String) (number : Nat) (protocol : String) :
    (stage.step (.read line number)).kept protocol =
      (stage.kept protocol).or (if headerProtocol? line = some protocol then
        (Parser.fresh.schema stage.registry protocol).1.toOption else none) := by
  cases hline : headerProtocol? line with
  | none =>
    rw [kept, parser_step_read_of_none hline, if_neg (by simp), Option.or_none]
    rfl
  | some name =>
    rw [kept, parser_step_read hline, Parser.lookup_schema_snd, kept]
    by_cases hname : protocol = name
    · subst hname
      rw [if_pos rfl, if_pos rfl]
    · rw [if_neg hname, if_neg fun h => hname (Option.some.inj h).symm]

theorem kept_step {stage : Stage} {protocol : String} {schema : Schema}
    (h : stage.kept protocol = some schema) (event : Event) :
    (stage.step event).kept protocol = some schema := by
  cases event with
  | register name probe => exact h
  | read line number => rw [kept_step_read, h, Option.some_or]

theorem kept_step_of_not_uses {stage : Stage} {protocol : String} {event : Event}
    (h : ¬ stage.Uses protocol event) (hnone : stage.kept protocol = none) :
    (stage.step event).kept protocol = none := by
  cases event with
  | register name probe => exact hnone
  | read line number =>
    rw [kept_step_read, hnone, Option.none_or]
    split
    · next hline =>
      cases hschema : (Parser.fresh.schema stage.registry protocol).1 with
      | error fault => rfl
      | ok schema => exact absurd ⟨hline, exists_schema_iff.1 ⟨schema, hschema⟩⟩ h
    · rfl

/-- Only what is registered is kept. -/
def KeepsRegistered (stage : Stage) : Prop :=
  ∀ protocol schema, stage.kept protocol = some schema →
    ∃ probe, stage.registry.lookup protocol = some probe

theorem KeepsRegistered.step {stage : Stage} (h : stage.KeepsRegistered) (event : Event) :
    (stage.step event).KeepsRegistered := by
  intro protocol schema hkept
  cases event with
  | register name probe =>
    obtain ⟨known, hknown⟩ := h protocol schema hkept
    change ∃ found, (stage.registry.register name probe).lookup protocol = some found
    rw [Registry.lookup_register]
    split
    · exact ⟨probe, rfl⟩
    · exact ⟨known, hknown⟩
  | read line number =>
    change ∃ found, stage.registry.lookup protocol = some found
    rw [kept_step_read, Option.or_eq_some_iff] at hkept
    rcases hkept with hkept | ⟨-, hnew⟩
    · exact h protocol schema hkept
    · split at hnew
      · cases hschema : (Parser.fresh.schema stage.registry protocol).1 with
        | error fault => simp [hschema, Except.toOption] at hnew
        | ok compiled =>
          obtain ⟨probe, hprobe, -⟩ := Parser.fresh_schema_eq_ok_iff.1 hschema
          exact ⟨probe, hprobe⟩
      · contradiction

/-- A new name brings no schema that is kept out of date. -/
theorem current_step {stage : Stage} (h : stage.parser.Current stage.registry) {event : Event}
    (hnew : ∀ name probe, event = .register name probe → stage.registry.lookup name = none) :
    (stage.step event).parser.Current (stage.step event).registry := by
  cases event with
  | read line number => exact Parser.current_readLine h line.toList
  | register name probe =>
    intro protocol schema hkept
    obtain ⟨known, hknown, hcompile⟩ := h protocol schema hkept
    refine ⟨known, ?_, hcompile⟩
    have hne : protocol ≠ name := by
      rintro rfl
      rw [hnew protocol probe rfl] at hknown
      contradiction
    exact (Registry.lookup_register_of_ne stage.registry hne probe).trans hknown

/-! ### Many events -/

/-- What holds at the start and is kept by each event holds at the end. -/
theorem run_induction {P : Stage → Prop} {start : Stage} {events : List Event} (h : P start)
    (hstep : ∀ earlier event later, events = earlier ++ event :: later →
      P (start.run earlier) → P ((start.run earlier).step event)) : P (start.run events) := by
  induction events generalizing start with
  | nil => exact h
  | cons event events ih =>
    apply ih (hstep [] event events rfl h)
    intro earlier next later hsplit
    exact hstep (event :: earlier) next later (congrArg (event :: ·) hsplit)

theorem run_append (start : Stage) (earlier later : List Event) :
    start.run (earlier ++ later) = (start.run earlier).run later :=
  List.foldl_append

theorem kept_run {start : Stage} {protocol : String} {schema : Schema}
    (h : start.kept protocol = some schema) (events : List Event) :
    (start.run events).kept protocol = some schema := by
  apply run_induction (P := fun stage => stage.kept protocol = some schema) h
  intro _ event _ _ hkept
  exact kept_step hkept event

theorem kept_run_of_unused {start : Stage} {protocol : String} {events : List Event}
    (h : start.kept protocol = none) (hunused : start.Unused protocol events) :
    (start.run events).kept protocol = none := by
  apply run_induction (P := fun stage => stage.kept protocol = none) h
  intro earlier event later hsplit hkept
  exact kept_step_of_not_uses (hunused earlier event later hsplit) hkept

theorem keepsRegistered_run {start : Stage} (h : start.KeepsRegistered) (events : List Event) :
    (start.run events).KeepsRegistered := by
  apply run_induction h
  intro _ event _ _ hkeeps
  exact hkeeps.step event

theorem current_run {start : Stage} {events : List Event}
    (h : start.parser.Current start.registry) (hnew : start.NoneReplaced events) :
    (start.run events).parser.Current (start.run events).registry := by
  apply run_induction (P := fun stage => stage.parser.Current stage.registry) h
  intro earlier event later hsplit hcurrent
  apply current_step hcurrent
  rintro name probe rfl
  exact hnew earlier name probe later hsplit

/-! ### What a line gives -/

theorem result_of_not_kept {stage : Stage} {line protocol : String}
    (hline : headerProtocol? line = some protocol) (h : stage.kept protocol = none)
    (number : Nat) : stage.result line number = stage.registry.uncached line number := by
  unfold kept at h
  apply result_congr ⟨stage.registry, .fresh⟩ hline
  simp only [Parser.schema, h, Parser.fresh, List.lookup_nil]
  cases stage.registry.lookup protocol with
  | none => rfl
  | some probe =>
    dsimp only
    cases Schema.compile protocol probe.arguments <;> rfl

theorem result_of_kept {stage : Stage} {registry : Registry} {line protocol : String}
    {schema : Schema} (hline : headerProtocol? line = some protocol)
    (h : stage.kept protocol = some schema)
    (hschema : (Parser.fresh.schema registry protocol).1 = .ok schema) (number : Nat) :
    stage.result line number = registry.uncached line number := by
  apply result_congr ⟨registry, .fresh⟩ hline
  rw [hschema]
  simp only [Parser.schema, show stage.parser.schemas.lookup protocol = some schema from h]

/-- What a parser has read shows only where a name is registered again. It keeps
nothing but schemas of registered protocols. A line on an unknown protocol leaves
no mark: once the protocol is registered, its lines are read by what it was
registered with. From the first line on a protocol that the registry offers at
the time, the lines on it give what they would have given then to a parser that
keeps nothing, whatever is registered and read later. And as long as no name is
registered twice, every line gives what it gives to such a parser now. -/
theorem schemas_settled_at_first_use (registry : Registry) (events : List Event) :
    let start : Stage := ⟨registry, .fresh⟩
    let now := start.run events
    (∀ protocol schema, (protocol, schema) ∈ now.parser.schemas →
      ∃ probe, now.registry.lookup protocol = some probe) ∧
    (∀ line number protocol, headerProtocol? line = some protocol →
      now.registry.lookup protocol = none →
        (now.step (.read line number)).parser = now.parser ∧
        ∀ probe line' number', headerProtocol? line' = some protocol →
          ((now.step (.read line number)).step (.register protocol probe)).result line' number' =
            (now.registry.register protocol probe).uncached line' number') ∧
    (∀ before line number after protocol, events = before ++ .read line number :: after →
      (start.run before).Uses protocol (.read line number) → start.Unused protocol before →
        let first := (start.run before).registry
        (start.run before).result line number = first.uncached line number ∧
        ∀ line' number', headerProtocol? line' = some protocol →
          now.result line' number' = first.uncached line' number') ∧
    (start.NoneReplaced events →
      ∀ line number, now.result line number = now.registry.uncached line number) := by
  intro start now
  have hnothing : ∀ protocol, start.kept protocol = none := fun _ => rfl
  have hkeeps : now.KeepsRegistered := by
    apply keepsRegistered_run
    intro protocol schema hkept
    rw [hnothing] at hkept
    contradiction
  refine ⟨?_, ?_, ?_, ?_⟩
  · intro protocol schema hmem
    have hsome : (now.kept protocol).isSome = true :=
      List.lookup_isSome_iff.2 ⟨_, hmem, beq_self_eq_true protocol⟩
    obtain ⟨found, hfound⟩ := Option.isSome_iff_exists.1 hsome
    exact hkeeps protocol found hfound
  · intro line number protocol hline hunknown
    have hnone : now.kept protocol = none := by
      cases hkept : now.kept protocol with
      | none => rfl
      | some schema =>
        obtain ⟨probe, hprobe⟩ := hkeeps protocol schema hkept
        rw [hunknown] at hprobe
        contradiction
    have hparser : (now.step (.read line number)).parser = now.parser := by
      rw [parser_step_read hline]
      simp only [Parser.schema, show now.parser.schemas.lookup protocol = none from hnone,
        hunknown]
    refine ⟨hparser, ?_⟩
    intro probe line' number' hline'
    refine result_of_not_kept hline' ?_ number'
    change (now.step (.read line number)).parser.schemas.lookup protocol = none
    rw [hparser]
    exact hnone
  · intro before line number after protocol hevents huses hunused first
    have hnone : (start.run before).kept protocol = none :=
      kept_run_of_unused (hnothing protocol) hunused
    refine ⟨result_of_not_kept huses.1 hnone number, ?_⟩
    intro line' number' hline'
    obtain ⟨schema, hschema⟩ := exists_schema_iff.2 huses.2
    have hfirst : ((start.run before).step (.read line number)).kept protocol = some schema := by
      rw [kept_step_read, hnone, Option.none_or, if_pos huses.1, hschema]
      rfl
    have hnow : now.kept protocol = some schema := by
      change (start.run events).kept protocol = some schema
      rw [hevents, run_append]
      exact kept_run hfirst after
    exact result_of_kept hline' hnow hschema number'
  · intro hnew line number
    have hcurrent := current_run (Parser.current_fresh registry) hnew
    exact Parser.parseLine_fst_of_current hcurrent line number

/-- A line with a bad value settles the schema like any other. The probe that takes
the name later takes no arguments, and yet one is read. -/
theorem schemas_settled_by_rejected_line :
    let before : List Event :=
      [.read "host must run counting" 1, .register "counting" .counting]
    let first : Event := .read "host must run counting with expect often" 2
    let replaced : Event := .register "counting" .refusing
    let start : Stage := ⟨.empty, .fresh⟩
    let test : Test := ⟨"host", "counting", "host must run counting with expect 7",
      [("expect", "7")]⟩
    ((start.run before).Uses "counting" first ∧ start.Unused "counting" before) ∧
    (start.run (before ++ [first, replaced])).result "host must run counting with expect 7" 3 =
      .ok (some test) := by
  intro before first replaced start test
  have hregistry : (start.run before).registry = Registry.empty.register "counting" .counting :=
    rfl
  have huses : (start.run before).Uses "counting" first := by
    refine ⟨by decide +kernel, .counting, ?_, ?_⟩
    · rw [hregistry, Registry.lookup_register_self]
    · simp [Compilable, Probe.counting, Pattern.digits]
  have hunused : start.Unused "counting" before := by
    intro earlier event later hsplit hused
    simp only [before] at hsplit
    rcases earlier with _ | ⟨_, _ | ⟨_, earlier⟩⟩
    · cases hsplit
      obtain ⟨-, probe, hprobe, -⟩ := hused
      contradiction
    · cases hsplit
      exact hused
    · simp at hsplit
  have hsettled := (schemas_settled_at_first_use .empty (before ++ [first, replaced])).2.2.1
    before _ 2 [replaced] "counting" rfl huses hunused
  refine ⟨⟨huses, hunused⟩, ?_⟩
  rw [hsettled.2 _ 3 (by decide +kernel)]
  change (Registry.empty.register "counting" .counting).uncached
    "host must run counting with expect 7" 3 = .ok (some test)
  cbv

end Stage

end ServiceProbe
