import ServiceProbe.Duration.Seconds
import ServiceProbe.Proofs.Number.Nearness

/-!
Durations as seconds and back. On the way to seconds two roundings take part,
one of a part and one of the sum. On the way back a number of seconds becomes the
nearest whole nanosecond, so a duration is found again as soon as its seconds
are known to less than half a nanosecond.
-/

namespace ServiceProbe.Duration

open Number Binary64

seal Binary64.scale

/-- The exact number of seconds. -/
def inSeconds (d : Duration) : ℚ := d.nanos / 10 ^ 9

theorem inSeconds_nonneg (d : Duration) : 0 ≤ d.inSeconds := by
  unfold inSeconds
  positivity

theorem inSeconds_eq (d : Duration) : d.inSeconds = d.seconds + d.subsecNanos / 10 ^ 9 := by
  have h := d.nanos_eq
  qify at h
  rw [inSeconds, ← h]
  ring

theorem ordinary_inSeconds (d : Duration) : Ordinary d.inSeconds := by
  have h := ordinary_div d.nanos (show 0 < 10 ^ 9 by norm_num) (by norm_num)
  push_cast at h
  exact h

/-- The seconds are what the sum of the two parts is rounded to. -/
theorem toSeconds_rounds {d : Duration} (h : d.nanos < limit.nanos) :
    ∃ r, Close 1 r d.inSeconds ∧ Rounds r d.toSeconds := by
  have hseconds : d.seconds < 2 ^ 64 := by
    rw [seconds, Nat.div_lt_iff_lt_mul (by decide)]
    exact h
  have hsub : (d.subsecNanos : ℚ) / 1_000_000_000 ≤ 1 := by
    rw [div_le_one (by norm_num)]
    exact_mod_cast (Nat.mod_lt d.nanos (by decide : 0 < 1_000_000_000)).le
  obtain ⟨whole, hwhole⟩ := exists_ofNat (hseconds.le.trans (by norm_num))
  obtain ⟨rest, hrest⟩ : ∃ rest, ofRatio d.subsecNanos 1_000_000_000 = some rest :=
    exists_ofRatio (by decide) (by exact_mod_cast hsub.trans (by norm_num))
  have hwhole_close : Close 1 whole.value d.seconds :=
    (rounds_of_ofNat hwhole).close_one (ordinary_natCast _) (Nat.cast_nonneg _)
  have hrest_close : Close 1 rest.value (d.subsecNanos / 10 ^ 9) := by
    have hround := rounds_of_ofRatio (by decide) hrest
    have hclose := hround.close_one (ordinary_div _ (by decide) (by norm_num)) (by positivity)
    norm_num at hclose ⊢
    exact hclose
  have hsum : Close 1 (whole.value + rest.value) d.inSeconds := by
    rw [inSeconds_eq]
    exact hwhole_close.add hrest_close
  have hlarge : d.inSeconds ≤ 2 ^ 65 := by
    have hcast : (d.seconds : ℚ) ≤ 2 ^ 64 := by exact_mod_cast hseconds.le
    rw [inSeconds_eq]
    linarith
  obtain ⟨sum, hadd⟩ : ∃ sum, whole.add rest = some sum := by
    refine exists_add ?_
    linarith [hsum.symm.half_le (by decide)]
  refine ⟨_, hsum, ?_⟩
  have hto : d.toSeconds = sum := by
    rw [toSeconds, hwhole, hrest]
    simp only [Option.getD_some, hadd]
  rw [hto]
  exact rounds_of_add hadd

theorem close_toSeconds {d : Duration} (h : d.nanos < limit.nanos) :
    Close 2 d.toSeconds.value d.inSeconds := by
  obtain ⟨r, hclose, hround⟩ := toSeconds_rounds h
  exact hround.close_succ hclose d.ordinary_inSeconds (by decide)

/-! ### Back to nanoseconds -/

/-- The whole nanoseconds nearest to a number of seconds. -/
def nearestNanos (x : Binary64) : Nat := roundHalfEven (x.units * 1_000_000_000) scale

theorem ofSeconds?_eq (x : Binary64) :
    ofSeconds? x = if nearestNanos x < limit.nanos then some ⟨nearestNanos x⟩ else none := rfl

theorem abs_nearestNanos_sub_le (x : Binary64) :
    |(nearestNanos x : ℚ) - x.value * 10 ^ 9| ≤ 1 / 2 := by
  have h := abs_roundHalfEven_sub_le (x.units * 1_000_000_000) scale_pos
  have hvalue : ((x.units * 1_000_000_000 : Nat) : ℚ) / scale = x.value * 10 ^ 9 := by
    rw [value, Nat.cast_mul, mul_div_right_comm]
    norm_num
  rwa [hvalue] at h

theorem abs_ofSeconds?_sub_le {x : Binary64} {d : Duration} (h : ofSeconds? x = some d) :
    |d.nanos - x.value * 10 ^ 9| ≤ 1 / 2 := by
  rw [ofSeconds?_eq, Option.ite_none_right_eq_some, Option.some.injEq] at h
  rw [← h.2]
  exact abs_nearestNanos_sub_le x

theorem eq_of_abs_sub_lt_one {m n : ℕ} (h : |(m : ℚ) - n| < 1) : m = n := by
  have hint : |(m : ℤ) - n| < 1 := by exact_mod_cast h
  rw [Int.abs_lt_one_iff] at hint
  omega

/-- Whole seconds are a bound that rounding does not exceed. -/
theorem exists_ofSeconds? {x : Binary64} {n : Nat} (h : x.value ≤ n) (hn : n < 2 ^ 64) :
    ∃ d, ofSeconds? x = some d ∧ d.nanos ≤ n * 10 ^ 9 := by
  have hunits := value_le_natCast_iff.1 h
  have hle : nearestNanos x ≤ n * 10 ^ 9 := by
    refine roundHalfEven_le scale_pos ((Nat.mul_le_mul_right _ hunits).trans_eq ?_)
    ring
  have hlimit : n * 10 ^ 9 < limit.nanos := by
    change n * 10 ^ 9 < 2 ^ 64 * 1_000_000_000
    omega
  exact ⟨⟨nearestNanos x⟩, (ofSeconds?_eq x).trans (if_pos (hle.trans_lt hlimit)), hle⟩

theorem le_nearestNanos {x : Binary64} {n : ℕ} (h : n ≤ x.value) : n * 10 ^ 9 ≤ nearestNanos x := by
  refine le_roundHalfEven scale_pos (Eq.trans_le ?_
    (Nat.mul_le_mul_right _ (natCast_le_value_iff.1 h)))
  ring

theorem ofSeconds?_eq_none {x : Binary64} (h : ((2 ^ 64 : ℕ) : ℚ) ≤ x.value) :
    ofSeconds? x = none := by
  have hle : limit.nanos ≤ nearestNanos x := le_nearestNanos h
  rw [ofSeconds?_eq, if_neg (Nat.not_lt.2 hle)]

theorem le_nanos_of_ofSeconds? {x : Binary64} {d : Duration} (hd : ofSeconds? x = some d) {n : ℕ}
    (h : n ≤ x.value) : n * 10 ^ 9 ≤ d.nanos := by
  rw [ofSeconds?_eq, Option.ite_none_right_eq_some, Option.some.injEq] at hd
  rw [← hd.2]
  exact le_nearestNanos h

end ServiceProbe.Duration
