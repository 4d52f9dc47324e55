import ServiceProbe.Proofs.Settings.RoundTrip
import ServiceProbe.Proofs.Text.Utf8

/-!
The layers that settings come in. A file that is an object whose fields stand for
values is a layer of these values; above it is what the command line gives and
below it are the defaults. A file that is refused, for whatever reason and however
much of it had been read, leaves no layer at all.
-/

namespace ServiceProbe.Settings

open Text Json Number

variable {files : Files} {path : String} {text : List Char}

theorem ofFile_encode (hfind : files.find path = .ok (.file (encode text))) :
    ofFile files path = (ofJson text).mapError (.parse path) := by
  rw [ofFile, hfind]
  simp only [decode?_encode]

theorem load_of_ok {settings : Settings} (hpath : path ≠ "")
    (h : ofFile files path = .ok settings) : load files (some path) = (settings, none) := by
  have hsome : (some path).filter (· ≠ "") = some path := by simp [hpath]
  rw [load, hsome]
  simp only [h]

theorem load_of_error {problem : ConfigError} (hpath : path ≠ "")
    (h : ofFile files path = .error problem) :
    load files (some path) = (defaults, some problem) := by
  have hsome : (some path).filter (· ≠ "") = some path := by simp [hpath]
  rw [load, hsome]
  simp only [h]

/-- Each field comes from the command line, else from the file, else from the
defaults. The file has no say if it is refused. -/
theorem load_layers (files : Files) (path : String) (hpath : path ≠ "") (overrides : Overrides) :
    (∀ d : Document, d.WellFormed →
      (∀ m ∈ d.members, ∀ field : Field, m.name = field.name →
        ∃ value, field.Denotes m.value value) →
      files.find path = .ok (.file (encode d.text)) →
      (load files (some path)).2 = none ∧
      ∃ file : Overrides,
        (∀ m ∈ d.members, ∀ field : Field, m.name = field.name →
          ∃ value, file.get field = some value ∧ field.Denotes m.value value) ∧
        (∀ field : Field, (∀ m ∈ d.members, m.name ≠ field.name) → file.get field = none) ∧
        ∀ field : Field, ((load files (some path)).1.apply overrides).get field =
          (overrides.get field).getD ((file.get field).getD (defaults.get field))) ∧
    ∀ problem, ofFile files path = .error problem →
      (load files (some path)).2 = some problem ∧
      ∀ field : Field, ((load files (some path)).1.apply overrides).get field =
        (overrides.get field).getD (defaults.get field) := by
  constructor
  · intro d hd hvalues hfind
    obtain ⟨file, hread, hpresent, habsent⟩ :=
      Document.layerOfJson_text hd (P := Field.Denotes) fun m hm field hname => by
        obtain ⟨value, hvalue⟩ := hvalues m hm field hname
        exact field.reads hvalue
    have hload : load files (some path) = (defaults.apply file, none) := by
      refine load_of_ok hpath ((ofFile_encode hfind).trans ?_)
      rw [ofJson, hread]
      rfl
    rw [hload]
    exact ⟨rfl, file, hpresent, habsent, fun field => by rw [get_apply, get_apply]⟩
  · intro problem h
    rw [load_of_error hpath h]
    exact ⟨rfl, fun field => get_apply _ _ _⟩

/-- A tree of one file. -/
def oneFile (text : List Char) : Files := ⟨[("/c.json", .file (encode text))], []⟩

theorem find_oneFile (text : List Char) :
    (oneFile text).find "/c.json" = .ok (.file (encode text)) := by
  have houtside : Files.leadsOut "/c.json" = true := by simp [Files.leadsOut]
  rw [Files.find, if_neg (by decide), if_neg (by decide), if_neg (by decide), if_pos houtside]
  rfl

/-- A file that gives one field, with white space, beside a member of another name. -/
def sparse : Document where
  before := [' ']
  members := [⟨['\n'], ['v', '6'], "v6", [], [' '], "false".toList, []⟩,
    ⟨[' '], ['I', 'P', 'v', '4'], "IPv4", ['\t'], [], "false".toList, []⟩]
  inner := ['\r']
  after := []

theorem sparse_wellFormed : sparse.WellFormed where
  before := by simp [sparse, Spaces, isSpace]
  inner := by simp [sparse, Spaces, isSpace]
  after := spaces_nil
  members m hm := by
    simp only [sparse, List.mem_cons, List.not_mem_nil, or_false] at hm
    rcases hm with rfl | rfl
    · exact ⟨by simp [Spaces, isSpace], .of_plain (by simp [isPlain]), spaces_nil,
        by simp [Spaces, isSpace], fun _ => .word (by simp [words]), spaces_nil⟩
    · exact ⟨by simp [Spaces, isSpace], .of_plain (by simp [isPlain]), by simp [Spaces, isSpace],
        spaces_nil, fun _ => .word (by simp [words]), spaces_nil⟩
  once := by simp [sparse, Once]

theorem denotes_sparse : ∀ m ∈ sparse.members, ∀ field : Field, m.name = field.name →
    ∃ value, field.Denotes m.value value := by
  intro m hm field hname
  simp only [sparse, List.mem_cons, List.not_mem_nil, or_false] at hm
  rcases hm with rfl | rfl
  · exact absurd hname (by cases field <;> decide)
  · obtain rfl : Field.ipv4 = field := Field.name_injective hname
    exact ⟨false, rfl⟩

/-- The command line, such a file and the defaults; and without a file that is broken. -/
theorem load_layers_sparse :
    let overrides : Overrides := { Overrides.none with redisDb := some 3 }
    ((load (oneFile sparse.text) (some "/c.json")).2 = none ∧
      let settings := (load (oneFile sparse.text) (some "/c.json")).1.apply overrides
      settings.ipv4 = false ∧ settings.ipv6 = true ∧ settings.redisDb = 3) ∧
    (load (oneFile ['[']) (some "/c.json")).2 ≠ none ∧
      ((load (oneFile ['[']) (some "/c.json")).1.apply overrides).redisDb = 3 := by
  intro overrides
  constructor
  · obtain ⟨hnone, file, hpresent, habsent, hfield⟩ :=
      (load_layers (oneFile sparse.text) "/c.json" (by decide) overrides).1 sparse sparse_wellFormed
        denotes_sparse (find_oneFile _)
    have hipv4 : file.get .ipv4 = some false := by
      obtain ⟨value, hvalue, hdenotes⟩ := hpresent _ (List.mem_cons_of_mem _
        (List.mem_singleton_self _)) .ipv4 rfl
      cases value with
      | false => exact hvalue
      | true => exact absurd hdenotes (by decide : "false".toList ≠ "true".toList)
    have hipv6 : file.get .ipv6 = none := by
      refine habsent .ipv6 fun m hm => ?_
      simp only [sparse, List.mem_cons, List.not_mem_nil, or_false] at hm
      rcases hm with rfl | rfl <;> decide
    exact ⟨hnone, (hfield .ipv4).trans (by rw [hipv4]; rfl),
      (hfield .ipv6).trans (by rw [hipv6]; rfl), hfield .redisDb⟩
  · obtain ⟨problem, hread⟩ : ∃ problem, ofJson ['['] = .error problem := ⟨_, rfl⟩
    have herror : ofFile (oneFile ['[']) "/c.json" = .error (.parse "/c.json" problem) := by
      rw [ofFile_encode (find_oneFile _), hread]
      rfl
    obtain ⟨hsome, hfield⟩ :=
      (load_layers (oneFile ['[']) "/c.json" (by decide) overrides).2 _ herror
    exact ⟨by rw [hsome]; simp, hfield .redisDb⟩

/-! ### Objects that are refused -/

theorem load_oneFile_error {problem : String} (h : ofJson text = .error problem) :
    load (oneFile text) (some "/c.json") = (defaults, some (.parse "/c.json" problem)) := by
  refine load_of_error (by decide) ((ofFile_encode (find_oneFile text)).trans ?_)
  rw [h]
  rfl

/-- The number one, written with `zeros` places more than it needs. -/
def longOne (zeros : Nat) : Literal where
  isNegative := false
  whole := ['0']
  fraction := List.replicate zeros '0' ++ ['1']
  exponent := some ⟨'e', .none, Nat.toDigits 10 (zeros + 1)⟩

theorem natOf_longOne (zeros : Nat) :
    natOf ((longOne zeros).whole ++ (longOne zeros).fraction) = 1 := by
  rw [longOne, natOf_append, natOf_append, natOf_replicate]
  simp [natOf, Nat.ofDigitChars]

theorem longOne_wellFormed (zeros : Nat) : (longOne zeros).WellFormed where
  whole := by simp [longOne]
  leading := .inl rfl
  fraction c hc := by
    rcases List.mem_append.1 hc with hc | hc
    · rw [List.eq_of_mem_replicate hc]
      rfl
    · rw [List.mem_singleton.1 hc]
      rfl
  exponent e he := by
    cases he
    exact ⟨.inl rfl, fun c => isDigit_toDigits, Nat.toDigits_ne_nil⟩

theorem value_longOne (zeros : Nat) : (longOne zeros).value = 1 := by
  have hten : (10 : ℚ) ≠ 0 := by norm_num
  have hlength : (longOne zeros).fraction.length = zeros + 1 := by simp [longOne]
  have hpower : (longOne zeros).power = zeros + 1 := by
    simp [longOne, Literal.power, Exponent.power, natOf_toDigits]
  rw [Literal.value, if_neg (by simp [longOne]), Literal.size, Literal.mantissa, natOf_longOne,
    hlength, hpower, Nat.cast_one, one_mul, ← zpow_add₀ hten]
  simp

theorem refuses_longOne {zeros : Nat} (h : maxExponentDigits ≤ zeros) :
    Field.timeout.Refuses (longOne zeros).text := by
  intro w layer rest hw hrest
  have hl := longOne_wellFormed zeros
  obtain ⟨fault, hread⟩ := readNumeral_error (longOne zeros).isNegative hl
    (by rw [natOf_longOne]; decide) rfl (by rw [natOf_toDigits]; omega) (by simp) hrest
  have hfractional :
      readFractional (w ++ ((longOne zeros).text ++ rest)) = .error fault := by
    unfold readFractional
    simp only [skipSpace_literal hl hw, isNumeralStart_literal hl, readSigned_literal hl, hread]
    rfl
  exact ⟨.placed fault, by rw [readField, readTime_error hfractional]; rfl⟩

/-- A number of seconds may be written so that it is out of range. -/
theorem ofJson_longOne {zeros : Nat} (h : maxExponentDigits ≤ zeros) :
    ∃ problem, ofJson (Document.tight [fieldMember .timeout (longOne zeros).text]).text =
      .error problem := by
  have hrefuses := refuses_longOne h
  have hmember := List.mem_singleton_self (fieldMember .timeout (longOne zeros).text)
  have hd : (Document.tight [fieldMember .timeout (longOne zeros).text]).WellFormed :=
    Document.tight_wellFormed (by simpa using fieldMember_wellFormed _ _)
      (List.pairwise_singleton _ _)
  obtain ⟨fault, hfault⟩ := Document.layerOfJson_error hd
    (fun m hm field hname => by
      obtain rfl := List.mem_singleton.1 hm
      obtain rfl : Field.timeout = field := Field.name_injective hname
      exact .inr hrefuses)
    ⟨_, hmember, .timeout, rfl, hrefuses⟩
  exact ⟨_, by rw [ofJson, hfault]⟩

/-- Objects of one field are valid texts whenever the value is. -/
theorem valid_single {field : Field} {value : List Char} (h : Valid .value value) :
    Valid .value (Document.tight [fieldMember field value]).text := by
  have hobject := Valid.object (Valid.member spaces_nil (spells_writeChars field.name.toList).loose
    spaces_nil spaces_nil h spaces_nil)
  simpa [Document.text, Document.tight, fieldMember, Member.tight, Member.text, Member.fromColon]
    using hobject

def negativeZero : Literal := ⟨true, ['0'], [], none⟩

/-- There are JSON objects that are refused although each member is another name or
a field with a number in its range: a name may be no text, zero may have a sign, and
one may be written with an exponent beyond the limit. -/
theorem load_refuses_objects :
    (Valid .value "\x7b\"\\ud800\": 1\x7d".toList ∧
      (load (oneFile "\x7b\"\\ud800\": 1\x7d".toList) (some "/c.json")).2 =
        some (.parse "/c.json" "unexpected end of hex escape at line 1 column 9")) ∧
    (Valid .value (Document.tight [fieldMember .redisDb negativeZero.text]).text ∧
      negativeZero.value = 0 ∧
      (load (oneFile (Document.tight [fieldMember .redisDb negativeZero.text]).text)
        (some "/c.json")).2 =
          some (.parse "/c.json"
            "invalid type: floating point `-0.0`, expected i64 at line 1 column 13")) ∧
    (Valid .value (Document.tight [fieldMember .timeout (longOne maxExponentDigits).text]).text ∧
      (longOne maxExponentDigits).value = 1 ∧
      (load (oneFile (Document.tight [fieldMember .timeout (longOne maxExponentDigits).text]).text)
        (some "/c.json")).2 ≠ none) := by
  refine ⟨⟨?_, ?_⟩, ⟨?_, ?_, ?_⟩, ?_, value_longOne _, ?_⟩
  · have hcode : Hex4 ['d', '8', '0', '0'] 0xD800 :=
      Hex4.mk (w := 13) (x := 8) (y := 0) (z := 0) rfl rfl rfl rfl
    have hone : Literal.WellFormed ⟨false, ['1'], [], none⟩ :=
      ⟨by simp, .inr ⟨by simp, by simp⟩, by simp, by simp⟩
    have hspace : Spaces [' '] := by simp [Spaces, isSpace]
    exact .object
      (.member spaces_nil (.code hcode .nil) spaces_nil hspace (.number hone) spaces_nil)
  · have hread : ofJson "\x7b\"\\ud800\": 1\x7d".toList =
        .error "unexpected end of hex escape at line 1 column 9" := by decide +kernel
    rw [load_oneFile_error hread]
  · exact valid_single (.number ⟨by simp [negativeZero], .inl rfl, by simp [negativeZero],
      by simp [negativeZero]⟩)
  · simp [negativeZero, Literal.value, Literal.size, Literal.mantissa, natOf, Nat.ofDigitChars]
  · have hread : ofJson (Document.tight [fieldMember .redisDb negativeZero.text]).text = .error
        "invalid type: floating point `-0.0`, expected i64 at line 1 column 13" := by
      decide +kernel
    rw [load_oneFile_error hread]
  · exact valid_single (.number (longOne_wellFormed _))
  · obtain ⟨problem, hread⟩ := ofJson_longOne (le_refl maxExponentDigits)
    rw [load_oneFile_error hread]
    simp

end ServiceProbe.Settings
