import ServiceProbe.Proofs.Duration.Seconds
import ServiceProbe.Proofs.Json.Decimals
import ServiceProbe.Proofs.Json.Scaling
import ServiceProbe.Proofs.Json.Values
import ServiceProbe.Settings.Printer

/-!
Fields one at a time: what a field holds, which texts stand for it, and that a
text is read as what it stands for. Texts, flags and indices are read exactly. A
time is read as the nanosecond nearest to the number, or its neighbour where the
number is about half way between the two.
-/

namespace ServiceProbe

open Text Json Number Binary64

seal Binary64.scale

namespace Settings

/-! ### Access by field -/

def Field.Value : Field → Type
  | .redisHost | .redisSocket | .redisPassword => String
  | .redisDb => Int
  | .redisTimeout | .timeout => Duration
  | .ipv4 | .ipv6 => Bool

def get (settings : Settings) : (field : Field) → field.Value
  | .redisHost => settings.redisHost
  | .redisSocket => settings.redisSocket
  | .redisPassword => settings.redisPassword
  | .redisDb => settings.redisDb
  | .redisTimeout => settings.redisTimeout
  | .timeout => settings.timeout
  | .ipv4 => settings.ipv4
  | .ipv6 => settings.ipv6

end Settings

namespace Overrides

open Settings

def get (layer : Overrides) : (field : Field) → Option field.Value
  | .redisHost => layer.redisHost
  | .redisSocket => layer.redisSocket
  | .redisPassword => layer.redisPassword
  | .redisDb => layer.redisDb
  | .redisTimeout => layer.redisTimeout
  | .timeout => layer.timeout
  | .ipv4 => layer.ipv4
  | .ipv6 => layer.ipv6

def set (layer : Overrides) : (field : Field) → field.Value → Overrides
  | .redisHost, value => { layer with redisHost := some value }
  | .redisSocket, value => { layer with redisSocket := some value }
  | .redisPassword, value => { layer with redisPassword := some value }
  | .redisDb, value => { layer with redisDb := some value }
  | .redisTimeout, value => { layer with redisTimeout := some value }
  | .timeout, value => { layer with timeout := some value }
  | .ipv4, value => { layer with ipv4 := some value }
  | .ipv6, value => { layer with ipv6 := some value }

@[simp] theorem get_none (field : Field) : Overrides.none.get field = .none := by
  cases field <;> rfl

@[simp] theorem get_set_self (layer : Overrides) (field : Field) (value : field.Value) :
    (layer.set field value).get field = some value := by
  cases field <;> rfl

theorem get_set_of_ne (layer : Overrides) {field other : Field} (h : other ≠ field)
    (value : field.Value) : (layer.set field value).get other = layer.get other := by
  cases field <;> cases other <;> first | rfl | exact absurd rfl h

end Overrides

namespace Settings

@[simp] theorem get_apply (settings : Settings) (layer : Overrides) (field : Field) :
    (settings.apply layer).get field = (layer.get field).getD (settings.get field) := by
  cases field <;> rfl

theorem ext_get {s t : Settings} (h : ∀ field, s.get field = t.get field) : s = t := by
  cases s
  cases t
  simp only [mk.injEq]
  exact ⟨h .redisHost, h .redisSocket, h .redisPassword, h .redisDb, h .redisTimeout, h .timeout,
    h .ipv4, h .ipv6⟩

/-! ### What stands for a value -/

/-- A text in quotes. -/
def TextOf (v : List Char) (s : String) : Prop := ∃ body, v = quotedText body ∧ Spells body s.toList

def FlagOf (v : List Char) (b : Bool) : Prop := v = if b then "true".toList else "false".toList

/-- A whole number of 64 bits with its sign. The negative of zero is none. -/
def IndexOf (v : List Char) (i : Int) : Prop :=
  ∃ l : Literal, l.WellFormed ∧ l.IsWhole ∧ v = l.text ∧ l.value = i ∧
    (l.isNegative = true → i ≠ 0) ∧ -(maxDb : Int) - 1 ≤ i ∧ i ≤ maxDb

/-- A number of seconds from zero to a day. -/
def Seconds (v : List Char) (seconds : ℚ) : Prop :=
  ∃ l : Literal, l.WellFormed ∧ l.Moderate ∧ v = l.text ∧ l.value = seconds ∧
    0 ≤ seconds ∧ seconds ≤ maxSeconds

/-- The nanoseconds that such a number is read as. Half a nanosecond is what
rounding to whole ones needs, the rest is for the roundings before it. -/
def TimeOf (v : List Char) (d : Duration) : Prop :=
  ∃ seconds, Seconds v seconds ∧ |d.nanos - seconds * 10 ^ 9| ≤ 9 / 16

/-- The texts that stand for a value of a field. -/
def Field.Denotes : (field : Field) → List Char → field.Value → Prop
  | .redisHost | .redisSocket | .redisPassword => TextOf
  | .redisDb => IndexOf
  | .redisTimeout | .timeout => TimeOf
  | .ipv4 | .ipv6 => FlagOf

/-- A text is read into a field, whatever stands around it. -/
def Field.Reads (field : Field) (v : List Char) (P : field.Value → Prop) : Prop :=
  ∀ w layer rest, Spaces w → Stops continues rest →
    ∃ value, P value ∧ readField field layer (w ++ (v ++ rest)) = .ok (layer.set field value, rest)

theorem Field.Reads.mono {field : Field} {v : List Char} {P Q : field.Value → Prop}
    (h : field.Reads v P) (hPQ : ∀ value, P value → Q value) : field.Reads v Q := by
  intro w layer rest hw hrest
  obtain ⟨value, hvalue, hread⟩ := h w layer rest hw hrest
  exact ⟨value, hPQ value hvalue, hread⟩

/-- A text is refused by a field, whatever stands around it. -/
def Field.Refuses (field : Field) (v : List Char) : Prop :=
  ∀ w layer rest, Spaces w → Stops continues rest →
    ∃ refusal, readField field layer (w ++ (v ++ rest)) = .error refusal

/-! ### Texts and flags -/

section Reading

variable {v w rest : List Char}

theorem readText_append {s : String} (hv : TextOf v s) (hw : Spaces w) :
    readText (w ++ (v ++ rest)) = .ok (s, rest) := by
  obtain ⟨body, rfl, hspells⟩ := hv
  have hspace : skipSpace (w ++ (quotedText body ++ rest)) = '"' :: (body ++ '"' :: rest) := by
    rw [quotedText, List.cons_append, List.append_assoc, List.singleton_append]
    exact skipSpace_append_cons hw (by decide) _
  rw [readText, hspace]
  simp only [readString_append hspells, Except.map, List.reverse_nil, List.nil_append,
    String.ofList_toList]

theorem readFlag_append {b : Bool} (hv : FlagOf v b) (hw : Spaces w) :
    readFlag (w ++ (v ++ rest)) = .ok (b, rest) := by
  subst hv
  cases b with
  | true =>
    have hspace : skipSpace (w ++ ("true".toList ++ rest)) = 't' :: ("rue".toList ++ rest) :=
      skipSpace_append_cons hw (by decide) _
    simp only [if_true, readFlag, hspace, readWord_append, Except.map]
  | false =>
    have hspace : skipSpace (w ++ ("false".toList ++ rest)) = 'f' :: ("alse".toList ++ rest) :=
      skipSpace_append_cons hw (by decide) _
    simp only [Bool.false_eq_true, if_false, readFlag, hspace, readWord_append, Except.map]

/-! ### Numbers -/

theorem skipSpace_literal {l : Literal} (hl : l.WellFormed) (hw : Spaces w) :
    skipSpace (w ++ (l.text ++ rest)) = l.text ++ rest := by
  obtain ⟨c, t, heq, hc⟩ := (Valid.number hl).head
  rw [heq]
  exact skipSpace_append_cons hw (isSpace_of_startsValue hc) _

theorem isNumeralStart_literal {l : Literal} (hl : l.WellFormed) :
    isNumeralStart (l.text ++ rest) = true := by
  obtain ⟨c, t, heq, hc⟩ := hl.text_eq_cons
  rw [heq, isNumeralStart]
  rcases hc with ⟨rfl, -⟩ | ⟨hc, -⟩
  · rfl
  · simp [isDigit_eq, hc]

theorem readSigned_literal {l : Literal} (hl : l.WellFormed) :
    readSigned (l.text ++ rest) = readNumeral l.isNegative (l.unsigned ++ rest) := by
  obtain ⟨c, t, heq, ⟨rfl, hsign, rfl⟩ | ⟨hc, hsign, hunsigned⟩⟩ := hl.text_eq_cons
  · rw [heq, hsign]
    rfl
  · rw [heq, hsign, ← hunsigned]
    unfold readSigned
    split
    · next heq' =>
      rw [(List.cons.inj heq').1] at hc
      simp at hc
    · rfl

theorem size_whole {l : Literal} (h : l.IsWhole) : l.size = natOf l.whole := by
  rw [Literal.size, Literal.mantissa, Literal.power, h.1, h.2]
  simp

theorem readIndex_append {i : Int} (hv : IndexOf v i) (hw : Spaces w)
    (hrest : Stops continues rest) : readIndex (w ++ (v ++ rest)) = .ok (i, rest) := by
  obtain ⟨l, hl, hwhole, rfl, hvalue, hzero, hlow, hhigh⟩ := hv
  have hmax : maxDb = 9223372036854775807 := rfl
  have hlimit : maxSignificand = 18446744073709551615 := rfl
  rw [Literal.value, size_whole hwhole] at hvalue
  unfold readIndex
  simp only [skipSpace_literal hl hw, isNumeralStart_literal hl, readSigned_literal hl]
  cases hsign : l.isNegative with
  | false =>
    rw [hsign, if_neg (by decide)] at hvalue
    have hnat : (natOf l.whole : Int) = i := by exact_mod_cast hvalue
    rw [(readNumeral_unsigned _ hl hrest).1 ⟨hwhole, by omega⟩]
    simp only [wholeNumeral, Bool.not_false, if_true, Bool.not_true, Bool.false_eq_true, if_false]
    rw [if_pos (by omega), hnat]
  | true =>
    rw [hsign, if_pos rfl] at hvalue
    have hnat : -(natOf l.whole : Int) = i := by exact_mod_cast hvalue
    have hne := hzero hsign
    rw [(readNumeral_unsigned _ hl hrest).1 ⟨hwhole, by omega⟩]
    simp only [wholeNumeral, Bool.not_true, Bool.false_eq_true, if_false]
    rw [if_pos (by omega)]
    simp only [hnat]

/-- Whole numbers become fractions too where a fraction is wanted. -/
theorem readFractional_literal {l : Literal} (hl : l.WellFormed) (hmoderate : l.Moderate)
    (hw : Spaces w) (hrest : Stops continues rest) :
    (∃ x, readFractional (w ++ (l.text ++ rest)) = .ok ((l.isNegative, x), rest) ∧
        Json.Reads x l.size) ∨
      (∃ fault, readFractional (w ++ (l.text ++ rest)) = .error fault) ∧ 86400 < l.size := by
  unfold readFractional
  simp only [skipSpace_literal hl hw, isNumeralStart_literal hl, readSigned_literal hl]
  rw [if_neg (by decide)]
  by_cases hwhole : l.IsWhole ∧ natOf l.whole ≤ maxSignificand
  · obtain ⟨x, hx⟩ := exists_ofNat (n := natOf l.whole)
      (hwhole.2.trans (by norm_num [maxSignificand]))
    refine .inl ⟨x, ?_, size_whole hwhole.1 ▸ reads_ofNat hx⟩
    rw [(readNumeral_unsigned _ hl hrest).1 hwhole, Except.map, wholeNumeral]
    cases l.isNegative with
    | false => simp only [Bool.not_false, if_true, hx, Option.getD_some]
    | true =>
      simp only [Bool.not_true, Bool.false_eq_true, if_false]
      by_cases hrange : 0 < natOf l.whole ∧ natOf l.whole ≤ 0x8000000000000000
      · simp only [if_pos hrange, hx, Option.getD_some]
      · simp only [if_neg hrange, hx, Option.getD_some]
  · rcases readNumeral_moderate l.isNegative hl hmoderate hrest hwhole with
      ⟨n, e, hn, hstands, hread⟩ | ⟨hsmall, hread⟩ | ⟨hlarge, fault, hread⟩ <;> rw [hread]
    · rcases finishFraction_cases hn hstands l.isNegative rest with
        ⟨x, hx, hreads⟩ | ⟨⟨fault, hfault⟩, hlarge⟩
      · rw [hx]
        exact .inl ⟨x, rfl, hreads⟩
      · rw [hfault]
        exact .inr ⟨⟨fault, rfl⟩, hlarge⟩
    · exact .inl ⟨.zero, rfl, reads_zero l.size_nonneg hsmall⟩
    · refine .inr ⟨⟨fault, rfl⟩, lt_of_lt_of_le ?_ hlarge⟩
      norm_num

/-- Values of at most a day are times. -/
theorem exists_timeOf {x : Binary64} (hx : x.value ≤ 86400) {isNegative : Bool}
    (hzero : isNegative = true → x.value = 0) :
    ∃ d, timeOf isNegative x = .ok d ∧ Duration.ofSeconds? x = some d := by
  have hday : x.value ≤ maxSeconds := by exact_mod_cast hx
  obtain ⟨d, hd, -⟩ := Duration.exists_ofSeconds? hday (by decide)
  refine ⟨d, ?_, hd⟩
  have hunits := value_le_natCast_iff.1 hday
  have hnegative : ¬ (isNegative = true ∧ x.units ≠ 0) := fun ⟨hsign, hne⟩ =>
    hne (value_eq_zero_iff.1 (hzero hsign))
  rw [timeOf, if_neg (fun h => absurd h.2 (not_lt.2 hunits)), if_neg hnegative, hd]
  rfl

theorem timeOf_error {x : Binary64} (hx : 86400 < x.value) :
    ∃ cause, timeOf false x = .error cause := by
  have hday : ¬ x.value ≤ maxSeconds := not_le.2 (by exact_mod_cast hx)
  exact ⟨_, if_pos ⟨rfl, not_le.1 (value_le_natCast_iff.not.1 hday)⟩⟩

theorem readTime_eq {x : Binary64} {isNegative : Bool} {s : List Char}
    (h : readFractional s = .ok ((isNegative, x), rest)) :
    readTime s =
      match timeOf isNegative x with
      | .ok d => .ok (d, rest)
      | .error cause => .error (.unplaced cause rest) := by
  rw [readTime, h]
  rfl

theorem readTime_error {s : List Char} {fault : Fault} (h : readFractional s = .error fault) :
    readTime s = .error (.placed fault) := by
  rw [readTime, h]
  rfl

theorem readTime_append {seconds : ℚ} (hv : Seconds v seconds) (hw : Spaces w)
    (hrest : Stops continues rest) :
    ∃ d, readTime (w ++ (v ++ rest)) = .ok (d, rest) ∧
      |d.nanos - seconds * 10 ^ 9| ≤ 9 / 16 := by
  obtain ⟨l, hl, hmoderate, rfl, hvalue, hnonneg, hday⟩ := hv
  have hday' : seconds ≤ 86400 := by exact_mod_cast hday
  have hsize_nonneg := l.size_nonneg
  have hsize : l.size = seconds ∧ (l.isNegative = true → seconds = 0) := by
    unfold Literal.value at hvalue
    split at hvalue
    · constructor
      · linarith
      · intro
        linarith
    · next hsign => exact ⟨hvalue, fun h => absurd h hsign⟩
  rcases readFractional_literal hl hmoderate hw hrest with ⟨x, hx, hreads⟩ | ⟨-, hlarge⟩
  · rw [hsize.1] at hreads
    have hzero : l.isNegative = true → x.value = 0 := fun hsign =>
      (hsize.2 hsign ▸ hreads.near).eq_zero
    obtain ⟨d, htime, hd⟩ := exists_timeOf (hreads.le_day hday') hzero
    refine ⟨d, by rw [readTime_eq hx, htime], ?_⟩
    have hround := Duration.abs_ofSeconds?_sub_le hd
    have hnear := hreads.near.abs_sub_le hday'
    calc |(d.nanos : ℚ) - seconds * 10 ^ 9|
        ≤ |d.nanos - x.value * 10 ^ 9| + |x.value * 10 ^ 9 - seconds * 10 ^ 9| := abs_sub_le _ _ _
      _ ≤ 1 / 2 + 1 / 16 := add_le_add hround hnear
      _ = 9 / 16 := by norm_num
  · rw [hsize.1] at hlarge
    exact absurd hday' (not_le.2 hlarge)

/-! ### Fields -/

/-- Every text that stands for a value of a field is read as one. -/
theorem Field.reads (field : Field) {v : List Char} {value : field.Value}
    (h : field.Denotes v value) : field.Reads v (field.Denotes v) := by
  intro w layer rest hw hrest
  cases field with
  | redisHost | redisSocket | redisPassword =>
    exact ⟨value, h, by rw [readField, readText_append h hw]; rfl⟩
  | redisDb => exact ⟨value, h, by rw [readField, readIndex_append h hw hrest]; rfl⟩
  | redisTimeout | timeout =>
    obtain ⟨seconds, hseconds, -⟩ := h
    obtain ⟨d, hd, hnear⟩ := readTime_append hseconds hw hrest
    exact ⟨d, ⟨seconds, hseconds, hnear⟩, by rw [readField, hd]; rfl⟩
  | ipv4 | ipv6 => exact ⟨value, h, by rw [readField, readFlag_append h hw]; rfl⟩

end Reading

end Settings

end ServiceProbe
