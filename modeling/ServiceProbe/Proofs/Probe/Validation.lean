import ServiceProbe.Proofs.Dns.Verdict
import ServiceProbe.Proofs.Probe.Traces
import ServiceProbe.Proofs.Text.Numeral

/-!
Arguments are looked at twice: by the parser, which knows the patterns of a probe,
and by a run, which takes the values apart. The patterns are the weaker check. What
they let through and a run refuses is a record type with something around it and a
port that is too large; a run refuses it before it turns to the network.
-/

namespace ServiceProbe

open Line Text

theorem Pattern.contains_eq_true_iff {part s : List Char} :
    contains part s = true ↔ part <:+: s := by
  induction s with
  | nil => simp [contains]
  | cons c s ih => simp [contains, ih, List.infix_cons_iff]

/-! ### What the parser asks -/

/-- The pattern can be used and matches the value. -/
def Pattern.Takes (pattern : Pattern) (value : String) : Prop :=
  ∃ accepts, pattern.matcher = .ok accepts ∧ accepts value = true

namespace Pattern

variable {value : String}

theorem takes_anything : anything.Takes value := ⟨_, rfl, rfl⟩

theorem takes_digits_iff :
    digits.Takes value ↔ value ≠ "" ∧ ∀ c ∈ value.toList, c.isDigit = true := by
  simp [Takes, digits, isSome_digit?]

theorem takes_anyOf_iff {words : List String} :
    (anyOf words).Takes value ↔ ∃ word ∈ words, word.toList <:+: value.toList := by
  simp [Takes, anyOf, contains_eq_true_iff]

end Pattern

/-- The probe declares the argument, and the value matches its pattern. -/
def Probe.Takes (probe : Probe) (name value : String) : Prop :=
  ∃ pattern, (name, pattern) ∈ probe.arguments ∧ pattern.Takes value

theorem Dns.probe_takes_iff {name value : String} :
    Dns.probe.Takes name value ↔
      name = "type" ∧ (∃ token ∈ ["A", "AAAA", "MX", "NS", "TXT"],
        token.toList <:+: value.toList) ∨ name = "lookup" ∨ name = "result" := by
  simp only [Probe.Takes, Dns.probe, List.mem_cons, Prod.mk.injEq, List.not_mem_nil, or_false,
    or_and_right, exists_or, and_assoc, exists_and_left, exists_eq_left, Pattern.takes_anyOf_iff,
    Pattern.takes_anything, and_true]

theorem Dns.nodup_arguments : (Dns.probe.arguments.map (·.1)).Nodup := by decide

theorem Dns.compilable_arguments : Compilable Dns.probe.arguments := by
  simp [Compilable, probe, Pattern.anyOf, Pattern.anything]

theorem Imap.probe_takes_iff {name value : String} :
    Imap.probe.Takes name value ↔
      name = "port" ∧ (value ≠ "" ∧ ∀ c ∈ value.toList, c.isDigit = true) ∨
        name = "tls" ∧ "insecure".toList <:+: value.toList ∨
        name = "username" ∨ name = "password" := by
  simp only [Probe.Takes, Imap.probe, List.mem_cons, Prod.mk.injEq, List.not_mem_nil, or_false,
    or_and_right, exists_or, and_assoc, exists_and_left, exists_eq_left, Pattern.takes_digits_iff,
    Pattern.takes_anyOf_iff, Pattern.takes_anything, and_true]

theorem Imap.nodup_arguments : (Imap.probe.arguments.map (·.1)).Nodup := by decide

theorem Imap.compilable_arguments : Compilable Imap.probe.arguments := by
  simp [Compilable, probe, Pattern.digits, Pattern.anyOf, Pattern.anything]

theorem Parser.schema_fst_eq_ok_iff {parser : Parser} {registry : Registry}
    (h : parser.Current registry) {protocol : String} {schema : Schema} :
    (parser.schema registry protocol).1 = .ok schema ↔
      ∃ probe, registry.lookup protocol = some probe ∧
        Schema.compile protocol probe.arguments = .ok schema := by
  rw [schema_fst_of_current h, fresh_schema_eq_ok_iff]

/-- A sentence gives its test if the probe takes every argument. -/
theorem Parser.parseLine_sentence_eq_ok_iff {parser : Parser} {registry : Registry}
    (hcurrent : parser.Current registry) {line : String} {number : Nat} {d : Sentence}
    (hd : d.WellFormed) (htext : d.text = trim line.toList) {probe : Probe}
    (hprobe : registry.lookup (String.ofList d.protocol) = some probe)
    (hnodup : (probe.arguments.map (·.1)).Nodup) (hcompilable : Compilable probe.arguments)
    {test : Test} :
    (parser.parseLine registry line number).1 = .ok (some test) ↔
      d.text.head? ≠ some '#' ∧ (d.clauses.map (·.name)).Nodup ∧
        (∀ a ∈ d.test.arguments, probe.Takes a.1 a.2) ∧ d.test = test := by
  obtain ⟨schema, hcompile⟩ :=
    (Schema.compile_isOk_iff (String.ofList d.protocol)).2 hcompilable
  have htakes : (∀ a ∈ d.test.arguments, probe.Takes a.1 a.2) ↔
      ∀ c ∈ d.clauses, schema.Fits c := by
    simp only [Sentence.test, List.forall_mem_map, Schema.fits_iff_of_compile hcompile,
      lookup_eq_some_iff_mem hnodup, exists_and_left]
    rfl
  rw [parseLine_fst_eq_ok_iff, lineResult_eq_some_iff (trimmed_trim _), htakes, ← htext]
  constructor
  · rintro ⟨⟨-, hcomment⟩, d', hd', htext', ⟨schema', hschema', hfits⟩, hnames, rfl⟩
    obtain rfl := Sentence.text_inj hd' hd htext'
    obtain ⟨probe', hprobe', hcompile'⟩ := (schema_fst_eq_ok_iff hcurrent).1 hschema'
    rw [hprobe] at hprobe'
    cases hprobe'
    rw [hcompile] at hcompile'
    cases hcompile'
    exact ⟨hcomment, hnames, hfits, rfl⟩
  · rintro ⟨hcomment, hnames, hfits, rfl⟩
    have hne : d.text ≠ [] := by simp [Sentence.text, headerText]
    refine ⟨⟨hne, hcomment⟩, d, hd, rfl, ⟨schema, ?_, hfits⟩, hnames, rfl⟩
    exact (schema_fst_eq_ok_iff hcurrent).2 ⟨probe, hprobe, hcompile⟩

theorem Parser.takes_of_parseLine {parser : Parser} {registry : Registry}
    (hcurrent : parser.Current registry) {line : String} {number : Nat} {test : Test}
    (h : (parser.parseLine registry line number).1 = .ok (some test)) {probe : Probe}
    (hprobe : registry.lookup test.protocol = some probe)
    (hnodup : (probe.arguments.map (·.1)).Nodup) (hcompilable : Compilable probe.arguments) :
    ∀ a ∈ test.arguments, probe.Takes a.1 a.2 := by
  obtain ⟨d, hd, htext, -, rfl⟩ := sentence_of_parseLine h
  exact ((parseLine_sentence_eq_ok_iff hcurrent hd htext hprobe hnodup hcompilable).1 h).2.2.1

/-! ### What a run asks -/

/-- The run ends in an argument error. -/
def Refused (outcome : Except Crash Report) : Prop :=
  ∃ report e, outcome = .ok report ∧ report.result = .error e ∧ e.isArgumentError = true

theorem refused_failure {e : ProbeError} (h : e.isArgumentError = true) :
    Refused (.ok (.failure e)) :=
  ⟨_, e, rfl, rfl, h⟩

namespace Test

theorem argument_eq_empty_iff {test : Test} {name : String} :
    test.argument name = "" ↔ test.argument? name = none ∨ test.argument? name = some "" := by
  rw [argument]
  cases test.argument? name <;> simp

theorem argument_eq_iff {test : Test} {name value : String} (hvalue : value ≠ "") :
    test.argument name = value ↔ test.argument? name = some value := by
  rw [argument]
  cases test.argument? name <;> simp [hvalue.symm]

end Test

namespace Dns

theorem refused_iff (earlier : Nat) (run : Invocation) :
    Refused (probe.run earlier run) ↔ LacksQuestion run.test := by
  constructor
  · rintro ⟨report, e, ⟨⟩, hresult, h⟩
    by_contra hlacks
    rw [blameless_runProbe hlacks e hresult] at h
    contradiction
  · intro hlacks
    change Refused (.ok (runProbe run))
    rw [runProbe_of_lacksQuestion hlacks]
    exact refused_failure (isArgumentError_questionFault run.test)

theorem lacksQuestion_iff {test : Test} :
    LacksQuestion test ↔ (test.argument? "lookup" = none ∨ test.argument? "lookup" = some "") ∨
      ∀ token ∈ ["A", "AAAA", "MX", "NS", "TXT"], test.argument? "type" ≠ some token := by
  have htoken {token : String} (hne : token ≠ "") :
      token ≠ test.argument "type" ↔ test.argument? "type" ≠ some token := by
    rw [ne_comm, Ne, Test.argument_eq_iff hne]
  rw [LacksQuestion, Test.argument_eq_empty_iff]
  refine or_congr_right ⟨fun h => ?_, fun h type => ?_⟩
  · simp only [List.forall_mem_cons, List.not_mem_nil, false_imp_iff, implies_true, and_true]
    exact ⟨(htoken (by decide)).1 (h .a), (htoken (by decide)).1 (h .aaaa),
      (htoken (by decide)).1 (h .mx), (htoken (by decide)).1 (h .ns),
      (htoken (by decide)).1 (h .txt)⟩
  · cases type <;> exact (htoken (by decide)).2 (h _ (by simp [RecordType.token]))

end Dns

namespace Imap

variable {test : Test}

/-- The number that a port names. -/
def portValue (port : String) : Nat := Nat.ofDigitChars 10 port.toList 0

theorem portOf_of_absent (h : test.argument? "port" = none) : portOf test = .ok defaultPort := by
  unfold portOf
  rw [Test.argument_eq_empty_iff.2 (.inl h)]
  rfl

theorem portOf_of_digits {port : String} (h : test.argument? "port" = some port)
    (hne : port ≠ "") (hdigits : ∀ c ∈ port.toList, c.isDigit = true) :
    portOf test =
      if portValue port ≤ 65535 then .ok (portValue port).toUInt16 else
        .error (.invalidArgument s!"invalid port '{port}': {NumeralError.tooLarge.message}") := by
  have hgiven : test.argument "port" = port := (Test.argument_eq_iff hne).2 h
  have hlist : port.toList ≠ [] := fun hnil => hne (String.toList_eq_nil_iff.1 hnil)
  unfold portOf
  rw [hgiven]
  split
  · contradiction
  · rw [readPort, readNat_of_isDigit 65535 hlist hdigits, ← portValue]
    split <;> rfl

theorem not_refused {run : Invocation} {port : UInt16} (hport : portOf run.test = .ok port)
    (hname : ¬ Tls.LacksName run.test) (earlier : Nat) :
    ¬ Refused (probe.run earlier run) := by
  rintro ⟨report, e, hrun, hresult, h⟩
  exact hname (lacksName_of_argumentError hport hrun hresult h).1

/-- The test names a port that there is none of. -/
def PortTooLarge (test : Test) : Prop :=
  ∃ port, test.argument? "port" = some port ∧ 65535 < portValue port

/-- A port that the pattern lets through is a number, and only its size can be wrong. -/
theorem portOf_of_takes (hnames : (test.arguments.map (·.1)).Nodup)
    (h : ∀ a ∈ test.arguments, probe.Takes a.1 a.2) :
    (PortTooLarge test → ∃ e, e.isArgumentError = true ∧ portOf test = .error e) ∧
      (¬ PortTooLarge test → ∃ port, portOf test = .ok port ∧
        port.toNat = (test.argument? "port").elim 993 portValue) := by
  cases hport : test.argument? "port" with
  | none =>
    refine ⟨fun ⟨port, hgiven, _⟩ => ?_, fun _ => ⟨_, portOf_of_absent hport, rfl⟩⟩
    rw [hport] at hgiven
    contradiction
  | some port =>
    have htakes := h _ ((lookup_eq_some_iff_mem hnames).1 hport)
    rw [probe_takes_iff] at htakes
    obtain ⟨hne, hdigits⟩ : port ≠ "" ∧ ∀ c ∈ port.toList, c.isDigit = true := by
      simpa using htakes
    have hread := portOf_of_digits hport hne hdigits
    constructor
    · rintro ⟨port', hport', hlarge⟩
      rw [hport] at hport'
      cases hport'
      rw [if_neg (Nat.not_le.2 hlarge)] at hread
      exact ⟨_, rfl, hread⟩
    · intro hsmall
      have hle : portValue port ≤ 65535 := Nat.not_lt.1 fun hlarge => hsmall ⟨port, hport, hlarge⟩
      rw [if_pos hle] at hread
      refine ⟨_, hread, ?_⟩
      rw [Nat.toUInt16_eq, UInt16.toNat_ofNat_of_lt' (Nat.lt_succ_of_le hle), Option.elim_some]

theorem refused_iff {run : Invocation} (hnames : (run.test.arguments.map (·.1)).Nodup)
    (htakes : ∀ a ∈ run.test.arguments, probe.Takes a.1 a.2)
    (hnamed : ¬ Tls.LacksName run.test) (earlier : Nat) :
    Refused (probe.run earlier run) ↔ PortTooLarge run.test := by
  constructor
  · intro hrefused
    by_contra hsmall
    obtain ⟨port, hport, -⟩ := (portOf_of_takes hnames htakes).2 hsmall
    exact not_refused hport hnamed earlier hrefused
  · intro hlarge
    obtain ⟨e, he, hport⟩ := (portOf_of_takes hnames htakes).1 hlarge
    change Refused (runProbe run)
    rw [runProbe_of_portOf_error hport]
    exact refused_failure he

end Imap

/-! ### Both together -/

/-- A parser that knows the two probes asks for arguments that they declare and for
values that match, so that the type of a lookup need only have one of five words in
it. A run of a test that it gives is refused if the name is missing or the type is
none of these words, or if the port is over 65535; that is found before the network
is used, and no other argument is ever at fault. -/
theorem Parser.refusals_of_parseLine {parser : Parser} {registry : Registry}
    (hcurrent : parser.Current registry) (hdns : registry.lookup Dns.protocol = some Dns.probe)
    (himaps : registry.lookup Imap.protocol = some Imap.probe) (line : String) (number : Nat) :
    let result := (parser.parseLine registry line number).1
    let types := ["A", "AAAA", "MX", "NS", "TXT"]
    (∀ d : Sentence, d.WellFormed → d.text = trim line.toList →
      d.protocol = Dns.protocol.toList → ∀ test, result = .ok (some test) ↔
        d.text.head? ≠ some '#' ∧ (d.clauses.map (·.name)).Nodup ∧
          (∀ a ∈ d.test.arguments,
            a.1 = "type" ∧ (∃ type ∈ types, type.toList <:+: a.2.toList) ∨
              a.1 = "lookup" ∨ a.1 = "result") ∧
          d.test = test) ∧
    ∀ test, result = .ok (some test) → ∀ (earlier : Nat) (run : Invocation), run.test = test →
      (test.protocol = Dns.protocol →
        (Refused (Dns.probe.run earlier run) ↔
          (test.argument? "lookup" = none ∨ test.argument? "lookup" = some "") ∨
            ∀ type ∈ types, test.argument? "type" ≠ some type)) ∧
      (test.protocol = Imap.protocol →
        (Refused (Imap.probe.run earlier run) ↔ Imap.PortTooLarge test) ∧
        (¬ Imap.PortTooLarge test → ∃ port, Imap.portOf test = .ok port ∧
          port.toNat = (test.argument? "port").elim 993 Imap.portValue)) ∧
      ∀ probe, registry.lookup test.protocol = some probe →
        test.protocol ∈ [Dns.protocol, Imap.protocol] → Refused (probe.run earlier run) →
        ∃ e, ∀ network, probe.run earlier { run with network := network } = .ok (.failure e) := by
  intro result types
  refine ⟨fun d hd htext hprotocol test => ?_, fun test htest earlier run hrun => ?_⟩
  · have hprobe : registry.lookup (String.ofList d.protocol) = some Dns.probe := by
      rwa [hprotocol, String.ofList_toList]
    refine (parseLine_sentence_eq_ok_iff hcurrent hd htext hprobe Dns.nodup_arguments
      Dns.compilable_arguments).trans ?_
    simp only [Dns.probe_takes_iff]
    rfl
  · subst hrun
    obtain ⟨d, hd, -, hnames, hspelled⟩ := sentence_of_parseLine htest
    have hnames : (run.test.arguments.map (·.1)).Nodup := by
      rw [← hspelled]
      exact nodup_map_argument.2 hnames
    have hnamed : ¬ Tls.LacksName run.test := fun hlacks => by
      have hhost := hd.inputHost?
      rw [hspelled, hlacks.2] at hhost
      contradiction
    have htakes (hprotocol : run.test.protocol = Imap.protocol) :
        ∀ a ∈ run.test.arguments, Imap.probe.Takes a.1 a.2 :=
      takes_of_parseLine hcurrent htest (hprotocol ▸ himaps) Imap.nodup_arguments
        Imap.compilable_arguments
    refine ⟨fun _ => ?_, fun hprotocol => ⟨?_, ?_⟩, fun probe hprobe hprotocol hrefused => ?_⟩
    · rw [Dns.refused_iff, Dns.lacksQuestion_iff]
    · exact Imap.refused_iff hnames (htakes hprotocol) hnamed earlier
    · exact (Imap.portOf_of_takes hnames (htakes hprotocol)).2
    · simp only [List.mem_cons, List.not_mem_nil, or_false] at hprotocol
      rcases hprotocol with hprotocol | hprotocol
      · rw [hprotocol, hdns] at hprobe
        cases hprobe
        have hlacks := (Dns.refused_iff earlier run).1 hrefused
        exact ⟨Dns.questionFault run.test, fun network => congrArg Except.ok
          (@Dns.runProbe_of_lacksQuestion { run with network := network } hlacks)⟩
      · have htakes := htakes hprotocol
        rw [hprotocol, himaps] at hprobe
        cases hprobe
        have hlarge := (Imap.refused_iff hnames htakes hnamed earlier).1 hrefused
        obtain ⟨e, -, hport⟩ := (Imap.portOf_of_takes hnames htakes).1 hlarge
        exact ⟨e, fun network =>
          @Imap.runProbe_of_portOf_error { run with network := network } e hport⟩

/-- A type with a letter too many and a port with zeros in front pass the parser; the
one is refused later, the other is a port. -/
theorem Parser.refusals_of_parseLine_inexact :
    let lookup := "ns must run dns with lookup a with type MXX"
    let session := "mail must run imaps with port 000143"
    (∃ test, (fresh.parseLine Registry.builtin lookup 1).1 = .ok (some test) ∧
      ∀ run : Invocation, run.test = test → Refused (Dns.probe.run 0 run)) ∧
    ∃ test port, (fresh.parseLine Registry.builtin session 1).1 = .ok (some test) ∧
      Imap.portOf test = .ok port ∧ port.toNat = 143 := by
  intro lookup session
  have hlookup : (fresh.parseLine Registry.builtin lookup 1).1 =
      .ok (some ⟨"ns", "dns", lookup, [("lookup", "a"), ("type", "MXX")]⟩) := by decide +kernel
  have hsession : (fresh.parseLine Registry.builtin session 1).1 =
      .ok (some ⟨"mail", "imaps", session, [("port", "000143")]⟩) := by decide +kernel
  have hlater := refusals_of_parseLine (current_fresh Registry.builtin) rfl rfl
  constructor
  · refine ⟨_, hlookup, fun run hrun => ?_⟩
    exact (((hlater lookup 1).2 _ hlookup 0 run hrun).1 rfl).2 (.inr (by decide))
  · have hvalue : Imap.portValue "000143" = 143 := by decide
    obtain ⟨port, hport, hport143⟩ :=
      (((hlater session 1).2 _ hsession 0 ⟨_, "", ⟨1⟩, .unreachable, ⟨0⟩, 0⟩ rfl).2.1 rfl).2
        (by rintro ⟨port, hgiven, hlarge⟩; cases hgiven; rw [hvalue] at hlarge; contradiction)
    exact ⟨_, port, hsession, hport, hport143.trans hvalue⟩

end ServiceProbe
