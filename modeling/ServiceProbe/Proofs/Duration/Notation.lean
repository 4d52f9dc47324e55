import ServiceProbe.Duration.Notation
import ServiceProbe.Proofs.Duration.Seconds
import ServiceProbe.Proofs.Text.Blank
import ServiceProbe.Proofs.Text.Numeral

/-!
The notation of durations, against the numbers that it writes. A quantity is a
decimal and a unit. Its number is rounded once when it is read and once more when
it is converted into seconds, so that up to a million seconds less than half a
nanosecond is lost: a quantity of whole nanoseconds is found again. The same bound
at the other end of the range says which quantities are too long.
-/

namespace ServiceProbe.Duration

open Number Binary64 Text

-- their powers of two are too large to be evaluated
seal Binary64.scale Binary64.ofRatio

/-! ### Quantities -/

/-- A number as it is written: digits, with a point among them if there is a
fraction, be it one without digits. -/
structure Decimal where
  whole : List Char
  fraction : Option (List Char)
  deriving DecidableEq, Repr

namespace Decimal

def digits (d : Decimal) : List Char := d.whole ++ d.fraction.getD []

/-- How many of the digits stand behind the point. -/
def places (d : Decimal) : Nat := (d.fraction.getD []).length

def text (d : Decimal) : List Char :=
  match d.fraction with
  | none => d.whole
  | some fraction => d.whole ++ '.' :: fraction

/-- The number that is written. -/
def value (d : Decimal) : ℚ := Nat.ofDigitChars 10 d.digits 0 / 10 ^ d.places

structure WellFormed (d : Decimal) : Prop where
  digits : ∀ c ∈ d.digits, c.isDigit = true
  some_digit : d.digits ≠ []

end Decimal

/-- How many seconds a unit has. -/
def TimeUnit.length : TimeUnit → ℚ
  | seconds => 1
  | milliseconds => 1 / 1000
  | minutes => 60
  | hours => 3600

/-- How the units are written. -/
def unitTexts : List (String × TimeUnit) :=
  [("", .seconds), ("s", .seconds), ("ms", .milliseconds), ("m", .minutes), ("h", .hours)]

/-- A duration as it is written. -/
structure Quantity where
  number : Decimal
  unitText : String
  unit : TimeUnit
  deriving DecidableEq, Repr

namespace Quantity

structure WellFormed (q : Quantity) : Prop where
  number : q.number.WellFormed
  unit : (q.unitText, q.unit) ∈ unitTexts

def text (q : Quantity) : List Char := q.number.text ++ q.unitText.toList

/-- The exact number of seconds. -/
def seconds (q : Quantity) : ℚ := q.number.value * q.unit.length

end Quantity

/-! ### Reading the text -/

theorem foldl_digits {s : List Char} (h : ∀ c ∈ s, c.isDigit = true) (n : Nat) :
    s.foldl (fun n c => n * 10 + (digit? c).getD 0) n = Nat.ofDigitChars 10 s n := by
  induction s generalizing n with
  | nil => simp
  | cons c s ih =>
    rw [List.forall_mem_cons] at h
    rw [List.foldl_cons, ih h.2, digit?_of_isDigit h.1, Option.getD_some, Nat.mul_comm,
      Nat.ofDigitChars_cons]

namespace Decimal

variable {d : Decimal}

theorem isNumberChar_of_mem_text (h : d.WellFormed) : ∀ c ∈ d.text, isNumberChar c = true := by
  intro c hc
  have hdigit : c ∈ d.digits → isNumberChar c = true := fun hmem => by
    simp [isNumberChar, digit?_of_isDigit (h.digits c hmem)]
  obtain ⟨whole, _ | fraction⟩ := d
  · exact hdigit (by simpa [text, digits] using hc)
  · simp only [text, List.mem_append, List.mem_cons] at hc
    rcases hc with hc | rfl | hc
    · exact hdigit (by simp [digits, hc])
    · rfl
    · exact hdigit (by simp [digits, hc])

theorem readDecimal?_text (h : d.WellFormed) :
    readDecimal? d.text = some (Nat.ofDigitChars 10 d.digits 0, d.places) := by
  have hwhole : ∀ c ∈ d.whole, (c != '.') = true := fun c hc => by
    have hdigit := h.digits c (by simp [digits, hc])
    rw [bne_iff_ne]
    rintro rfl
    contradiction
  have hparts : d.text.takeWhile (· != '.') = d.whole ∧
      (d.text.dropWhile (· != '.')).drop 1 = d.fraction.getD [] := by
    obtain ⟨whole, _ | fraction⟩ := d
    · exact ⟨List.takeWhile_eq_self_iff.2 hwhole,
        congrArg (List.drop 1) (List.dropWhile_eq_nil_iff.2 hwhole)⟩
    · have hstops : Stops (· != '.') ('.' :: fraction) := stops_cons.2 rfl
      exact ⟨takeWhile_append_of_stops hwhole hstops,
        congrArg (List.drop 1) (dropWhile_append_of_stops hwhole hstops)⟩
  have hall : d.digits.all (fun c => (digit? c).isSome) = true := by
    rw [List.all_eq_true]
    intro c hc
    rw [digit?_of_isDigit (h.digits c hc)]
    rfl
  rw [readDecimal?, hparts.1, hparts.2, ← digits, ← places, foldl_digits h.digits]
  simp [h.some_digit, hall]

/-- What is read as a number is written as one. -/
theorem exists_of_readDecimal? {s : List Char} {result : Nat × Nat}
    (h : readDecimal? s = some result) : ∃ d : Decimal, d.WellFormed ∧ d.text = s := by
  simp only [readDecimal?, Option.ite_none_left_eq_some, not_or, Decidable.not_not] at h
  obtain ⟨⟨hne, hall⟩, -⟩ := h
  have hdigits : ∀ c ∈ s.takeWhile (· != '.') ++ (s.dropWhile (· != '.')).drop 1,
      c.isDigit = true := by
    intro c hc
    rw [← isSome_digit?]
    exact List.all_eq_true.1 hall c hc
  have hsplit := List.takeWhile_append_dropWhile (p := (· != '.')) (l := s)
  have hstops := stops_dropWhile (· != '.') s
  cases hrest : s.dropWhile (· != '.') with
  | nil =>
    rw [hrest] at hdigits hne hsplit
    exact ⟨⟨s.takeWhile (· != '.'), none⟩, ⟨hdigits, hne⟩, by simpa [text] using hsplit⟩
  | cons c fraction =>
    rw [hrest] at hdigits hne hsplit hstops
    have hpoint : c = '.' := by simpa using stops_cons.1 hstops
    rw [hpoint] at hsplit
    exact ⟨⟨s.takeWhile (· != '.'), some fraction⟩, ⟨hdigits, hne⟩, hsplit⟩

end Decimal

theorem TimeUnit.ofText?_eq_some_iff {s : List Char} {unit : TimeUnit} :
    TimeUnit.ofText? s = some unit ↔ (String.ofList s, unit) ∈ unitTexts := by
  unfold TimeUnit.ofText?
  split
  · next h => rw [h]; cases unit <;> decide
  · next h => rw [h]; cases unit <;> decide
  · next h => rw [h]; cases unit <;> decide
  · next h => rw [h]; cases unit <;> decide
  · next h => rw [h]; cases unit <;> decide
  · next hnone hs hms hm hh =>
    refine iff_of_false (by simp) fun hmem => ?_
    simp only [unitTexts, List.mem_cons, Prod.mk.injEq, List.not_mem_nil, or_false] at hmem
    rcases hmem with ⟨h, -⟩ | ⟨h, -⟩ | ⟨h, -⟩ | ⟨h, -⟩ | ⟨h, -⟩
    · exact hnone h
    · exact hs h
    · exact hms h
    · exact hm h
    · exact hh h

namespace Quantity

variable {q : Quantity}

/-- The seconds that the digits and the unit come to, unless they are too many
for a value. -/
def rounded? (q : Quantity) : Option Binary64 := do
  let number ← ofDecimal (Nat.ofDigitChars 10 q.number.digits 0) q.number.places
  q.unit.toSeconds number

theorem rounded?_eq_some_iff {y : Binary64} :
    q.rounded? = some y ↔
      ∃ x, ofDecimal (Nat.ofDigitChars 10 q.number.digits 0) q.number.places = some x ∧
        q.unit.toSeconds x = some y := by
  simp only [rounded?, Option.bind_eq_bind, Option.bind_eq_some_iff]

theorem ofNotation?_text_eq_some_iff (h : q.WellFormed) {d : Duration} :
    ofNotation? q.text = some d ↔ ∃ y, q.rounded? = some y ∧ ofSeconds? y = some d := by
  have hstops : Stops isNumberChar q.unitText.toList := by
    have hunit := h.unit
    unfold unitTexts at hunit
    intro c hc
    simp only [List.mem_cons, Prod.mk.injEq, List.not_mem_nil, or_false] at hunit
    rcases hunit with ⟨htext, -⟩ | ⟨htext, -⟩ | ⟨htext, -⟩ | ⟨htext, -⟩ | ⟨htext, -⟩ <;>
      rw [htext] at hc <;> cases hc <;> rfl
  have hnumber := Decimal.isNumberChar_of_mem_text h.number
  have hread : readDecimal? (q.text.takeWhile isNumberChar) =
      some (Nat.ofDigitChars 10 q.number.digits 0, q.number.places) := by
    rw [text, takeWhile_append_of_stops hnumber hstops]
    exact Decimal.readDecimal?_text h.number
  have hunit : TimeUnit.ofText? (q.text.dropWhile isNumberChar) = some q.unit := by
    rw [text, dropWhile_append_of_stops hnumber hstops, TimeUnit.ofText?_eq_some_iff,
      String.ofList_toList]
    exact h.unit
  simp only [ofNotation?, Option.bind_eq_bind, Option.bind_eq_some_iff, hread, hunit,
    Option.some.injEq, exists_eq_left', rounded?_eq_some_iff]
  tauto

/-- What is read as a duration is written as one. -/
theorem exists_of_ofNotation? {s : List Char} {d : Duration} (h : ofNotation? s = some d) :
    ∃ q : Quantity, q.WellFormed ∧ q.text = s := by
  simp only [ofNotation?, Option.bind_eq_bind, Option.bind_eq_some_iff] at h
  obtain ⟨_, hread, _, -, unit, hunit, -⟩ := h
  obtain ⟨d, hd, htext⟩ := Decimal.exists_of_readDecimal? hread
  refine ⟨⟨d, String.ofList (s.dropWhile isNumberChar), unit⟩,
    ⟨hd, TimeUnit.ofText?_eq_some_iff.1 hunit⟩, ?_⟩
  rw [text, htext, String.toList_ofList, List.takeWhile_append_dropWhile]

end Quantity

/-! ### What the number comes to -/

namespace TimeUnit

variable {u : TimeUnit} {x y : Binary64} {r : ℚ}

theorem length_pos (u : TimeUnit) : 0 < u.length := by
  cases u <;> norm_num [TimeUnit.length]

theorem length_le (u : TimeUnit) : u.length ≤ 3600 := by
  cases u <;> norm_num [TimeUnit.length]

theorem le_length (u : TimeUnit) : 1 / 1000 ≤ u.length := by
  cases u <;> norm_num [TimeUnit.length]

/-- The factors of the units are values. -/
theorem exists_factor {n : Nat} (hn : n < 2 ^ 53) :
    ∃ k, Binary64.ofNat n = some k ∧ k.value = n := by
  obtain ⟨k, hk⟩ := exists_ofNat (hn.le.trans (by norm_num))
  exact ⟨k, hk, (rounds_of_ofNat hk).eq (by simpa using isValue_whole 0 hn)⟩

/-- A conversion is no calculation at all, a division or a multiplication. -/
theorem toSeconds_eq (u : TimeUnit) (x : Binary64) :
    u.toSeconds x = some x ∧ u.length = 1 ∨
      ∃ k : Binary64, 1 ≤ k.value ∧
        (u.toSeconds x = x.div k ∧ u.length = 1 / k.value ∨
          u.toSeconds x = x.mul k ∧ u.length = k.value) := by
  cases u with
  | seconds => exact .inl ⟨rfl, rfl⟩
  | milliseconds =>
    obtain ⟨k, hk, hvalue⟩ := exists_factor (n := 1000) (by norm_num)
    refine .inr ⟨k, by rw [hvalue]; norm_num, .inl ⟨?_, ?_⟩⟩
    · rw [toSeconds, hk, Option.bind_some]
    · rw [TimeUnit.length, hvalue]
      norm_num
  | minutes =>
    obtain ⟨k, hk, hvalue⟩ := exists_factor (n := 60) (by norm_num)
    refine .inr ⟨k, by rw [hvalue]; norm_num, .inr ⟨?_, ?_⟩⟩
    · rw [toSeconds, hk, Option.bind_some]
    · rw [TimeUnit.length, hvalue]
      norm_num
  | hours =>
    obtain ⟨k, hk, hvalue⟩ := exists_factor (n := 3600) (by norm_num)
    refine .inr ⟨k, by rw [hvalue]; norm_num, .inr ⟨?_, ?_⟩⟩
    · rw [toSeconds, hk, Option.bind_some]
    · rw [TimeUnit.length, hvalue]
      norm_num

/-- So it rounds once. -/
theorem rounds_toSeconds (hx : Rounds r x) (h : u.toSeconds x = some y) :
    Rounds (x.value * u.length) y := by
  obtain ⟨heq, hlength⟩ | ⟨k, -, ⟨heq, hlength⟩ | ⟨heq, hlength⟩⟩ := toSeconds_eq u x
  · rw [heq, Option.some.injEq] at h
    rw [hlength, mul_one, ← h]
    exact hx.self
  · rw [hlength, mul_one_div]
    exact rounds_of_div (heq.symm.trans h)
  · rw [hlength]
    exact rounds_of_mul (heq.symm.trans h)

theorem exists_toSeconds (h : x.value * u.length ≤ 10 ^ 200) : ∃ y, u.toSeconds x = some y := by
  obtain ⟨heq, -⟩ | ⟨k, hk, ⟨heq, hlength⟩ | ⟨heq, hlength⟩⟩ := toSeconds_eq u x <;> rw [heq]
  · exact ⟨x, rfl⟩
  · rw [hlength, mul_one_div] at h
    exact exists_div (by linarith) h
  · rw [hlength] at h
    exact exists_mul h

end TimeUnit

namespace Decimal

variable {d : Decimal} {x : Binary64}

theorem value_nonneg (d : Decimal) : 0 ≤ d.value := by
  unfold value
  positivity

theorem value_eq (d : Decimal) :
    d.value = (Nat.ofDigitChars 10 d.digits 0 : ℚ) / (Nat.pow 10 d.places : Nat) := by
  rw [value, Nat.pow_eq, Nat.cast_pow, Nat.cast_ofNat]

theorem rounds_ofDecimal (h : ofDecimal (Nat.ofDigitChars 10 d.digits 0) d.places = some x) :
    Rounds d.value x := by
  rw [value_eq]
  exact rounds_of_ofRatio (Nat.pow_pos (by decide)) h

theorem exists_ofDecimal (h : d.value ≤ 10 ^ 200) :
    ∃ x, ofDecimal (Nat.ofDigitChars 10 d.digits 0) d.places = some x := by
  rw [value_eq] at h
  exact exists_ofRatio (Nat.pow_pos (by decide)) h

end Decimal

namespace Quantity

variable {q : Quantity} {y : Binary64} {d : Duration}

theorem le_of_rounded? (h : q.rounded? = some y) : y.value ≤ 4 * q.seconds := by
  obtain ⟨x, hx, hy⟩ := rounded?_eq_some_iff.1 h
  have hround := Decimal.rounds_ofDecimal hx
  calc y.value ≤ 2 * (x.value * q.unit.length) := (TimeUnit.rounds_toSeconds hround hy).le_double
    _ ≤ 2 * (2 * q.number.value * q.unit.length) := by
      gcongr
      · exact q.unit.length_pos.le
      · exact hround.le_double
    _ = 4 * q.seconds := by
      rw [seconds]
      ring

/-- Two roundings are between a quantity and its seconds. -/
theorem close_of_rounded? (h : q.rounded? = some y)
    (hq : q.seconds = 0 ∨ 1 / 10 ^ 100 ≤ q.seconds) : Close 2 y.value q.seconds := by
  rcases hq with hzero | hq
  · have hy : y.value = 0 := by
      have hle := le_of_rounded? h
      rw [hzero, mul_zero] at hle
      exact le_antisymm hle y.value_nonneg
    rw [hy, hzero]
    exact (Close.refl le_rfl).mono (by decide)
  · obtain ⟨x, hx, hy⟩ := rounded?_eq_some_iff.1 h
    have hround := Decimal.rounds_ofDecimal hx
    have hnumber : Ordinary q.number.value := by
      have hle : q.seconds ≤ q.number.value * 3600 :=
        mul_le_mul_of_nonneg_left q.unit.length_le q.number.value_nonneg
      right
      linarith [show (1 : ℚ) / 10 ^ 200 * 3600 ≤ 1 / 10 ^ 100 by norm_num]
    have hlength : Close 0 q.unit.length q.unit.length := .refl q.unit.length_pos.le
    have hproduct := (hround.close_one hnumber q.number.value_nonneg).mul hlength
    refine (TimeUnit.rounds_toSeconds hround hy).close_succ hproduct (.inr ?_) (by decide)
    exact (by norm_num : (1 : ℚ) / 10 ^ 200 ≤ 1 / 10 ^ 100).trans hq

theorem exists_rounded? (h : q.seconds ≤ 10 ^ 150) : ∃ y, q.rounded? = some y := by
  have hnumber : q.number.value ≤ 10 ^ 200 := by
    have hle : q.number.value * (1 / 1000) ≤ q.seconds :=
      mul_le_mul_of_nonneg_left q.unit.le_length q.number.value_nonneg
    linarith [show (10 : ℚ) ^ 150 * 1000 ≤ 10 ^ 200 by norm_num]
  obtain ⟨x, hx⟩ := Decimal.exists_ofDecimal hnumber
  have hdouble : x.value * q.unit.length ≤ 2 * q.number.value * q.unit.length :=
    mul_le_mul_of_nonneg_right (Decimal.rounds_ofDecimal hx).le_double q.unit.length_pos.le
  have hproduct : 2 * q.number.value * q.unit.length = 2 * q.seconds := by
    rw [seconds]
    ring
  obtain ⟨y, hy⟩ : ∃ y, q.unit.toSeconds x = some y := by
    refine TimeUnit.exists_toSeconds ?_
    linarith [show (2 : ℚ) * 10 ^ 150 ≤ 10 ^ 200 by norm_num]
  exact ⟨y, rounded?_eq_some_iff.2 ⟨x, hx, hy⟩⟩

/-- A quantity that fits with room to spare is read. -/
theorem exists_ofNotation?_text (h : q.WellFormed) (hq : q.seconds ≤ 10 ^ 19) :
    ∃ d, ofNotation? q.text = some d := by
  obtain ⟨y, hy⟩ := exists_rounded? (hq.trans (by norm_num))
  have hle : y.value ≤ (11 * 10 ^ 18 : ℕ) := by
    push_cast
    rcases le_total q.seconds 1 with hsmall | hlarge
    · linarith [le_of_rounded? hy]
    · have hclose := close_of_rounded? hy (.inr (hlarge.trans' (by norm_num)))
      have habs := (abs_le.1 (hclose.abs_sub_le (by decide))).2
      norm_num [roundoff] at habs ⊢
      linarith
  obtain ⟨d, hd, -⟩ := exists_ofSeconds? hle (by norm_num)
  exact ⟨d, (ofNotation?_text_eq_some_iff h).2 ⟨y, hy, hd⟩⟩

/-- One that is over the limit by more than the roundings is not. -/
theorem ofNotation?_text_eq_none (h : q.WellFormed) (hq : 2 * 10 ^ 19 ≤ q.seconds) :
    ofNotation? q.text = none := by
  rw [Option.eq_none_iff_forall_ne_some]
  intro d hd
  obtain ⟨y, hy, hseconds⟩ := (ofNotation?_text_eq_some_iff h).1 hd
  have hclose := close_of_rounded? hy (.inr (hq.trans' (by norm_num)))
  have hle : ((2 ^ 64 : ℕ) : ℚ) ≤ y.value := by
    have habs := (abs_le.1 (hclose.abs_sub_le (by decide))).1
    push_cast
    norm_num [roundoff] at habs ⊢
    linarith
  rw [ofSeconds?_eq_none hle] at hseconds
  contradiction

/-- Up to a million seconds, whole nanoseconds come out as they are. -/
theorem nanos_of_ofNotation?_text (h : q.WellFormed) (hd : ofNotation? q.text = some d) {n : ℕ}
    (hn : q.seconds * 10 ^ 9 = n) (hq : q.seconds ≤ 1_000_000) : d.nanos = n := by
  obtain ⟨y, hy, hseconds⟩ := (ofNotation?_text_eq_some_iff h).1 hd
  have hordinary : q.seconds = 0 ∨ 1 / 10 ^ 100 ≤ q.seconds := by
    rcases Nat.eq_zero_or_pos n with rfl | hpos
    · left
      simpa using hn
    · right
      have hone : (1 : ℚ) ≤ n := by exact_mod_cast hpos
      linarith [show (1 : ℚ) / 10 ^ 100 * 10 ^ 9 ≤ 1 by norm_num]
  have habs := (close_of_rounded? hy hordinary).abs_sub_le (by decide)
  have hnear := abs_ofSeconds?_sub_le hseconds
  apply eq_of_abs_sub_lt_one
  rw [abs_le] at habs hnear
  rw [← hn, abs_lt]
  norm_num [roundoff] at habs
  constructor <;> linarith

end Quantity

/-! ### The notation as a whole -/

/-- What is said about a text that is no duration. -/
def unreadable (value : String) : ConfigError :=
  let shown := String.ofList (trim value.toList)
  .invalidValue "duration" s!"cannot parse '{shown}' (try 500ms, 5s or 2m)"

theorem parse_eq (value : String) :
    parse value = match ofNotation? (trim value.toList) with
      | some d => .ok d
      | none => .error (unreadable value) := rfl

theorem parse_eq_ok_iff {value : String} {d : Duration} :
    parse value = .ok d ↔ ofNotation? (trim value.toList) = some d := by
  rw [parse_eq]
  cases ofNotation? (trim value.toList) <;> simp

theorem parse_eq_error_iff {value : String} :
    parse value = .error (unreadable value) ↔ ofNotation? (trim value.toList) = none := by
  rw [parse_eq]
  cases ofNotation? (trim value.toList) <;> simp

/-- A text is read exactly if it writes a quantity that is not too long. Whatever the
unit and however many digits are written, whole nanoseconds are read as they are. -/
theorem parse_reads_quantities (value : String) :
    (∀ q : Quantity, q.WellFormed → trim value.toList = q.text →
      (q.seconds ≤ 10 ^ 19 → ∃ d, parse value = .ok d) ∧
      (2 * 10 ^ 19 ≤ q.seconds → parse value = .error (unreadable value)) ∧
      ∀ (d : Duration) (n : ℕ), parse value = .ok d → q.seconds * 10 ^ 9 = n →
        q.seconds ≤ 1_000_000 → d.nanos = n) ∧
    ((¬ ∃ q : Quantity, q.WellFormed ∧ trim value.toList = q.text) →
      parse value = .error (unreadable value)) := by
  refine ⟨fun q hq htext => ⟨fun hle => ?_, fun hge => ?_, fun d n hd hn hle => ?_⟩, fun hno => ?_⟩
  · obtain ⟨d, hd⟩ := Quantity.exists_ofNotation?_text hq hle
    exact ⟨d, parse_eq_ok_iff.2 (htext ▸ hd)⟩
  · rw [parse_eq_error_iff, htext]
    exact Quantity.ofNotation?_text_eq_none hq hge
  · rw [parse_eq_ok_iff, htext] at hd
    exact Quantity.nanos_of_ofNotation?_text hq hd hn hle
  · rw [parse_eq_error_iff, Option.eq_none_iff_forall_ne_some]
    intro d hd
    obtain ⟨q, hq, htext⟩ := Quantity.exists_of_ofNotation? hd
    exact hno ⟨q, hq, htext.symm⟩

theorem parse_reads_quantities_minutes :
    ∃ d, parse " 1.50m" = .ok d ∧ d.nanos = 90_000_000_000 := by
  have hdigits : Nat.ofDigitChars 10 ['1', '5', '0'] 0 = 150 := by decide
  have hseconds : Quantity.seconds ⟨⟨['1'], some ['5', '0']⟩, "m", .minutes⟩ = 90 := by
    norm_num [Quantity.seconds, Decimal.value, TimeUnit.length, Decimal.digits, Decimal.places,
      hdigits]
  obtain ⟨haccepted, -, hexact⟩ := (parse_reads_quantities " 1.50m").1
    ⟨⟨['1'], some ['5', '0']⟩, "m", .minutes⟩
    ⟨⟨by simp [Decimal.digits], by simp [Decimal.digits]⟩, by decide⟩ (by rfl)
  rw [hseconds] at haccepted hexact
  obtain ⟨d, hd⟩ := haccepted (by norm_num)
  have hnanos : (90 : ℚ) * 10 ^ 9 = (90 * 10 ^ 9 : ℕ) := by norm_num
  exact ⟨d, hd, hexact d _ hd hnanos (by norm_num)⟩

end ServiceProbe.Duration
