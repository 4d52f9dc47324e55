import ServiceProbe.Proofs.Net.Literals
import ServiceProbe.Proofs.Settings.Fields

/-!
What is written for a field stands for its value. For a time this is a matter of
counting roundings: two on the way to seconds, one in the digits, four on the way
back, which within a day come to less than half a nanosecond. The day itself is
written without any, and what is longer stays above it.
-/

namespace ServiceProbe.Settings

open Text Json Number Binary64

seal Binary64.scale

/-! ### Texts and flags -/

theorem spells_writeChar (c : Char) {s t : List Char} (h : Spells s t) :
    Spells (writeChar c ++ s) (c :: t) := by
  unfold writeChar
  split_ifs with hquote hbackslash _ _ _ _ _ hcontrol
  -- quotes, backslashes and five controls have letters of their own
  iterate 7
    · subst_vars
      exact .short (by decide) h
  · have hcode : Hex4 ['0', '0', Nat.digitChar (c.toNat / 16), Nat.digitChar (c.toNat % 16)]
        c.toNat := by
      have hhex := Hex4.mk (a := '0') (b := '0') (w := 0) (x := 0) (by decide) (by decide)
        (Net.hexDigit?_digitChar (show c.toNat / 16 < 16 by omega))
        (Net.hexDigit?_digitChar (show c.toNat % 16 < 16 by omega))
      rwa [show ((0 * 16 + 0) * 16 + c.toNat / 16) * 16 + c.toNat % 16 = c.toNat by omega] at hhex
    have hspells := Spells.code hcode (.inl (by omega)) h
    rwa [Char.ofNat_toNat] at hspells
  · exact .plain ⟨hquote, hbackslash, not_lt.1 hcontrol⟩ h

theorem spells_writeChars (s : List Char) : Spells (s.flatMap writeChar) s := by
  induction s with
  | nil => exact .nil
  | cons c s ih =>
    rw [List.flatMap_cons]
    exact spells_writeChar c ih

theorem textOf_writeText (s : String) : TextOf (writeText s) s :=
  ⟨s.toList.flatMap writeChar, rfl, spells_writeChars s.toList⟩

theorem flagOf_writeFlag (b : Bool) : FlagOf (writeFlag b) b := rfl

/-! ### Indices -/

theorem toList_toString_int (i : Int) :
    (toString i).toList = (if i < 0 then ['-'] else []) ++ Nat.toDigits 10 i.natAbs := by
  cases i with
  | ofNat n =>
    change (toString n).toList = _
    simp
  | negSucc n =>
    change ("-" ++ toString (n + 1)).toList = _
    rw [String.toList_append, if_pos (Int.negSucc_lt_zero n), Int.natAbs_negSucc,
      Nat.toString_eq_ofList_toDigits]
    simp only [String.toList_ofList]
    rfl

theorem indexOf_toString {i : Int} (hlow : -(maxDb : Int) - 1 ≤ i) (hhigh : i ≤ maxDb) :
    IndexOf (toString i).toList i := by
  have hwhole : Literal.IsWhole ⟨decide (i < 0), Nat.toDigits 10 i.natAbs, [], none⟩ := ⟨rfl, rfl⟩
  refine ⟨⟨decide (i < 0), Nat.toDigits 10 i.natAbs, [], none⟩,
    ⟨fun c hc => isDigit_toDigits hc, ?_, by simp, by simp⟩, hwhole, ?_, ?_, ?_, hlow, hhigh⟩
  · rcases Nat.eq_zero_or_pos i.natAbs with hzero | hpos
    · exact .inl (by rw [hzero]; rfl)
    · exact .inr ⟨Nat.toDigits_ne_nil, head_toDigits_ne hpos.ne'⟩
  · rw [toList_toString_int]
    simp [Literal.text, Literal.unsigned, Literal.fractionText, Literal.exponentText]
  · rw [Literal.value, size_whole hwhole, natOf_toDigits]
    simp only [decide_eq_true_eq]
    split
    · rw [← Int.cast_natCast, ← Int.cast_neg, Int.cast_inj]
      omega
    · rw [← Int.cast_natCast, Int.cast_inj]
      omega
  · simp only [decide_eq_true_eq]
    omega

/-! ### Times -/

def day : Duration := .ofSeconds maxSeconds

section Time

variable {d : Duration}

theorem ordinary_toSeconds (h : d.nanos < Duration.limit.nanos) : Ordinary d.toSeconds.value := by
  have hclose := Duration.close_toSeconds h
  rcases Nat.eq_zero_or_pos d.nanos with hzero | hpos
  · left
    rw [Duration.inSeconds, hzero, Nat.cast_zero, zero_div] at hclose
    exact hclose.eq_zero
  · right
    have hone : (1 : ℚ) ≤ d.nanos := by exact_mod_cast hpos
    have hhalf := hclose.half_le (by decide)
    calc (1 : ℚ) / 10 ^ 200 ≤ 1 / 10 ^ 9 / 2 := by norm_num
      _ ≤ d.inSeconds / 2 := by
        rw [Duration.inSeconds]
        gcongr
      _ ≤ d.toSeconds.value := hhalf

/-- The text of a time is a number three roundings away from its seconds. -/
theorem exists_literal_writeTime (h : d.nanos < Duration.limit.nanos) :
    ∃ l : Literal, l.WellFormed ∧ l.Moderate ∧ l.isNegative = false ∧ writeTime d = l.text ∧
      Close 3 l.size d.inSeconds := by
  obtain ⟨r, -, hround⟩ := Duration.toSeconds_rounds h
  have hclose := Duration.close_toSeconds h
  have hlarge : d.toSeconds.value ≤ 10 ^ 30 := by
    have hlimit : d.nanos < 2 ^ 64 * 10 ^ 9 := h
    have hcast : (d.nanos : ℚ) ≤ 2 ^ 64 * 10 ^ 9 := by exact_mod_cast hlimit.le
    have hseconds : d.inSeconds ≤ 2 ^ 64 := by
      rw [Duration.inSeconds, div_le_iff₀ (by norm_num)]
      exact hcast
    have hhalf := hclose.symm.half_le (by decide)
    linarith
  obtain ⟨l, hl, hmoderate, hsign, htext, hsize⟩ :=
    exists_literal_jsonText hround (ordinary_toSeconds h) hlarge
  exact ⟨l, hl, hmoderate, hsign, htext, hsize.trans hclose⟩

theorem writeTime_day : writeTime day = "86400.0".toList := by decide +kernel

/-- What is read for the text of a time is not far from it either. -/
theorem nearest_of_close {seconds : ℚ} (hday : d.nanos ≤ maxSeconds * 10 ^ 9)
    (h : Close 3 seconds d.inSeconds) : |(d.nanos : ℚ) - seconds * 10 ^ 9| ≤ 3 / 8 := by
  have hcast : (d.nanos : ℚ) ≤ 86400 * 10 ^ 9 := by exact_mod_cast hday
  have hnanos : (d.nanos : ℚ) = d.inSeconds * 10 ^ 9 := by
    rw [Duration.inSeconds]
    field_simp
  have hseconds : d.inSeconds ≤ 86400 := by
    rw [Duration.inSeconds, div_le_iff₀ (by norm_num)]
    exact hcast
  rw [hnanos, ← sub_mul, abs_mul, abs_of_pos (by norm_num : (0 : ℚ) < 10 ^ 9), abs_sub_comm]
  calc |seconds - d.inSeconds| * 10 ^ 9 ≤ ((3 : ℕ) + 1) * roundoff * d.inSeconds * 10 ^ 9 := by
        gcongr
        exact h.abs_sub_le (by decide)
    _ ≤ ((3 : ℕ) + 1) * roundoff * 86400 * 10 ^ 9 := by
        gcongr
        norm_num [roundoff]
    _ ≤ 3 / 8 := by norm_num [roundoff]

theorem seconds_writeTime_day : Seconds (writeTime day) maxSeconds := by
  have hdigits : natOf (['8', '6', '4', '0', '0'] ++ ['0']) = 864000 := by decide
  refine ⟨⟨false, ['8', '6', '4', '0', '0'], ['0'], none⟩,
    ⟨by simp, .inr ⟨by simp, by simp⟩, by simp, by simp⟩, by simp [Literal.Moderate],
    writeTime_day, ?_, Nat.cast_nonneg _, le_rfl⟩
  have hday : (maxSeconds : ℚ) = 86400 := by exact_mod_cast (rfl : maxSeconds = 86400)
  simp only [Literal.value, Literal.size, Literal.mantissa, Literal.power, hdigits, hday]
  norm_num

/-- A time of at most a day is written as seconds that only it is read for. -/
theorem exists_seconds_writeTime (hday : d.nanos ≤ maxSeconds * 10 ^ 9) :
    ∃ seconds, Seconds (writeTime d) seconds ∧ |(d.nanos : ℚ) - seconds * 10 ^ 9| ≤ 3 / 8 := by
  rcases hday.eq_or_lt with heq | hlt
  · have hcast : (d.nanos : ℚ) = maxSeconds * 10 ^ 9 := by
      rw [heq, Nat.cast_mul, Nat.cast_pow, Nat.cast_ofNat]
    have hd : d = day := by
      cases d
      exact congrArg Duration.mk heq
    refine ⟨maxSeconds, hd ▸ seconds_writeTime_day, ?_⟩
    rw [hcast, sub_self, abs_zero]
    positivity
  · have hlimit : d.nanos < Duration.limit.nanos := by
      change d.nanos < 2 ^ 64 * 10 ^ 9
      rw [maxSeconds] at hlt
      omega
    obtain ⟨l, hl, hmoderate, hsign, htext, hclose⟩ := exists_literal_writeTime hlimit
    have hnear := nearest_of_close hday hclose
    have hvalue : l.value = l.size := by rw [Literal.value, hsign, if_neg (by decide)]
    refine ⟨l.size, ⟨l, hl, hmoderate, htext, hvalue, hclose.nonneg, ?_⟩, hnear⟩
    have hcast : (d.nanos : ℚ) + 1 ≤ maxSeconds * 10 ^ 9 := by exact_mod_cast hlt
    linarith [(abs_le.1 hnear).1]

/-- A time is found again where a number stands for it and no other. -/
theorem reads_writeTime (hday : d.nanos ≤ maxSeconds * 10 ^ 9) {w rest : List Char}
    (hw : Spaces w) (hrest : Stops continues rest) :
    readTime (w ++ (writeTime d ++ rest)) = .ok (d, rest) := by
  obtain ⟨seconds, hseconds, hnear⟩ := exists_seconds_writeTime hday
  obtain ⟨e, he, hnear'⟩ := readTime_append hseconds hw hrest
  have heq : e.nanos = d.nanos := by
    refine Duration.eq_of_abs_sub_lt_one ?_
    calc |(e.nanos : ℚ) - d.nanos| ≤ |e.nanos - seconds * 10 ^ 9| + |seconds * 10 ^ 9 - d.nanos| :=
          abs_sub_le _ _ _
      _ ≤ 9 / 16 + 3 / 8 := add_le_add hnear' (by rwa [abs_sub_comm])
      _ < 1 := by norm_num
  rw [he]
  cases d
  cases e
  cases heq
  rfl

/-- Seven roundings do not bring more than a day down to one. -/
theorem day_lt_of_close {n : ℕ} {a : ℚ} (hday : maxSeconds * 10 ^ 9 < d.nanos)
    (h : Close n a d.inSeconds) (hn : n ≤ 7) : 86400 < a := by
  have hnanos : (86400 * 10 ^ 9 + 1 : ℚ) ≤ d.nanos := by exact_mod_cast hday
  have hlong : 86400 + 1 / 10 ^ 9 ≤ d.inSeconds := by
    rw [Duration.inSeconds, le_div_iff₀ (by norm_num)]
    linarith
  have hcast : (n : ℚ) ≤ 7 := by exact_mod_cast hn
  have hfactor : 1 - 7 * roundoff ≤ (1 - roundoff) ^ n := by
    have hpos : 0 ≤ roundoff := by norm_num [roundoff]
    have hscaled := mul_le_mul_of_nonneg_right hcast hpos
    linarith [Close.one_sub_le_pow n]
  have hseven : (0 : ℚ) ≤ 1 - 7 * roundoff := by norm_num [roundoff]
  calc (86400 : ℚ) < (1 - 7 * roundoff) * (86400 + 1 / 10 ^ 9) := by norm_num [roundoff]
    _ ≤ (1 - 7 * roundoff) * d.inSeconds := mul_le_mul_of_nonneg_left hlong hseven
    _ ≤ (1 - roundoff) ^ n * d.inSeconds := mul_le_mul_of_nonneg_right hfactor d.inSeconds_nonneg
    _ ≤ a := h.below

/-- A time of more than a day is written as more than a day's seconds. -/
theorem refuses_writeTime (hlimit : d.nanos < Duration.limit.nanos)
    (hday : maxSeconds * 10 ^ 9 < d.nanos) {w rest : List Char} (hw : Spaces w)
    (hrest : Stops continues rest) :
    ∃ refusal, readTime (w ++ (writeTime d ++ rest)) = .error refusal := by
  obtain ⟨l, hl, hmoderate, hsign, htext, hclose⟩ := exists_literal_writeTime hlimit
  rw [htext]
  rcases readFractional_literal hl hmoderate hw hrest with ⟨x, hx, hreads⟩ | ⟨⟨fault, hfault⟩, -⟩
  · have hlarge : 86400 < x.value := by
      rcases hreads.near with hnear | ⟨-, -, hsmall⟩
      · exact day_lt_of_close hday (hnear.trans hclose) (by decide)
      · have hsize := day_lt_of_close hday hclose (by decide)
        have : (2 : ℚ) ^ 4 / 10 ^ 100 ≤ 1 := by norm_num
        linarith
    obtain ⟨cause, hcause⟩ := timeOf_error hlarge
    rw [hsign] at hx
    exact ⟨.unplaced cause rest, by rw [readTime_eq hx, hcause]⟩
  · exact ⟨.placed fault, readTime_error hfault⟩

end Time

/-! ### Fields -/

/-- The values that are written and read back. Texts and flags are so always. -/
def Field.Fits : (field : Field) → field.Value → Prop
  | .redisDb => fun i : Int => -(maxDb : Int) - 1 ≤ i ∧ i ≤ maxDb
  | .redisTimeout | .timeout => fun d : Duration => d.nanos ≤ maxSeconds * 10 ^ 9
  | .redisHost | .redisSocket | .redisPassword | .ipv4 | .ipv6 => fun _ => True

/-- The limits of the types of an index and of the times. -/
structure Representable (settings : Settings) : Prop where
  redisDb : -(maxDb : Int) - 1 ≤ settings.redisDb ∧ settings.redisDb ≤ maxDb
  redisTimeout : settings.redisTimeout.nanos < Duration.limit.nanos
  timeout : settings.timeout.nanos < Duration.limit.nanos

section Field

variable {settings : Settings} {field : Field}

theorem reads_writeField (h : field.Fits (settings.get field)) :
    field.Reads (settings.writeField field) (· = settings.get field) := by
  intro w layer rest hw hrest
  refine ⟨settings.get field, rfl, ?_⟩
  cases field with
  | redisHost | redisSocket | redisPassword =>
    rw [readField, writeField, readText_append (textOf_writeText _) hw]
    rfl
  | redisDb =>
    have hindex : IndexOf (toString settings.redisDb).toList settings.redisDb :=
      indexOf_toString h.1 h.2
    rw [readField, writeField, readIndex_append hindex hw hrest]
    rfl
  | redisTimeout =>
    have hread := reads_writeTime (d := settings.redisTimeout) h hw hrest
    rw [readField, writeField, hread]
    rfl
  | timeout =>
    have hread := reads_writeTime (d := settings.timeout) h hw hrest
    rw [readField, writeField, hread]
    rfl
  | ipv4 | ipv6 =>
    rw [readField, writeField, readFlag_append (flagOf_writeFlag _) hw]
    rfl

/-- Only a time may not fit, and one that does not is too long. -/
theorem refuses_writeField (hs : settings.Representable) (h : ¬ field.Fits (settings.get field)) :
    field.Refuses (settings.writeField field) := by
  intro w layer rest hw hrest
  cases field with
  | redisDb => exact absurd hs.redisDb h
  | redisTimeout =>
    obtain ⟨refusal, hread⟩ := refuses_writeTime hs.redisTimeout (not_le.1 h) hw hrest
    exact ⟨refusal, by rw [readField, writeField, hread]; rfl⟩
  | timeout =>
    obtain ⟨refusal, hread⟩ := refuses_writeTime hs.timeout (not_le.1 h) hw hrest
    exact ⟨refusal, by rw [readField, writeField, hread]; rfl⟩
  | redisHost | redisSocket | redisPassword | ipv4 | ipv6 => exact absurd trivial h

end Field

end ServiceProbe.Settings
