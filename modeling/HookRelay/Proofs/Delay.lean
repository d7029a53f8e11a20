import HookRelay.Proofs.Binary64.Magnitude
import HookRelay.Retry

namespace HookRelay

open Binary64

namespace Duration

theorem ofNat_nanosPerSecond : ofNat nanosPerSecond = .finite false 8388608000000000 (-23) := by
  decide

theorem within_fraction (duration : Duration) :
    Within 1 ((ofNat duration.subsecond).div (ofNat nanosPerSecond)) := by
  have second : Representable (nanosPerSecond : ℚ) nanosPerSecond 0 :=
    ⟨by simp, by decide, by decide, by decide⟩
  have whole : Representable (1 : ℚ) 1 0 := ⟨by simp, by decide, by decide, by decide⟩
  have below : duration.subsecond ≤ nanosPerSecond := (Nat.mod_lt _ (by decide)).le
  have rest := within_ofNat second (Nat.cast_le.mpr below)
  rw [ofNat_nanosPerSecond]
  refine within_div whole rest.atMost (by decide) ?_
  norm_num [nanosPerSecond, zpow_neg]

theorem within_toSeconds64 {duration : Duration} {size : Nat} (fits : size < 971)
    (below : duration.nanos ≤ 2 ^ size * nanosPerSecond) :
    Within (2 ^ (size + 1)) duration.toSeconds64 := by
  have seconds : (duration.seconds : ℚ) ≤ 2 ^ size := by
    exact_mod_cast Nat.div_le_of_le_mul (Nat.mul_comm _ _ ▸ below)
  refine within_add (representable_two_pow _ fits)
    (within_ofNat (representable_two_pow _ fits.le) seconds) duration.within_fraction ?_
  rw [pow_succ, mul_two]
  gcongr
  exact one_le_pow₀ one_le_two

/-- The greatest duration is rounded to `2 ^ 64` seconds, its fraction being too small to count. -/
theorem within_toSeconds64_of_lt {duration : Duration} (fits : duration.nanos < limit) :
    Within (2 ^ 64) duration.toSeconds64 := by
  have fewer : duration.seconds < 2 ^ 64 := Nat.div_lt_of_lt_mul (Nat.mul_comm _ _ ▸ fits)
  have seconds : (duration.seconds : ℚ) ≤ 2 ^ 64 := by exact_mod_cast fewer.le
  obtain ⟨negative, numerator, denominator, sum, positive, most⟩ :=
    exists_add_eq_ofRatio (within_ofNat (representable_two_pow 64 (by decide)) seconds)
      duration.within_fraction
  rw [toSeconds64, sum]
  refine within_ofRatio_of_half (by decide) negative positive (most.trans_lt ?_)
  norm_num [mantissaLimit]

theorem ofSeconds64?_finite {negative : Bool} {mantissa : Nat} {exponent : Int}
    (unsigned : negative = true → mantissa = 0) (below : (mantissa : ℚ) * 2 ^ exponent < 2 ^ 64) :
    ofSeconds64? (.finite negative mantissa exponent) =
      some ⟨divideToEven ((ratio mantissa exponent).1 * nanosPerSecond)
        (ratio mantissa exponent).2⟩ := by
  obtain ⟨positive, value⟩ := ratio_eq mantissa exponent
  rw [← value, div_lt_iff₀ (Nat.cast_pos.mpr positive)] at below
  have room : ¬ 0x10000000000000000 * (ratio mantissa exponent).2 ≤
      (ratio mantissa exponent).1 := Nat.not_le.mpr (by exact_mod_cast below)
  have plain : ¬ (negative && decide (mantissa ≠ 0)) = true := by
    simpa using unsigned
  exact (if_neg plain).trans (if_neg room)

theorem ofSeconds64?_of_upTo {value : Binary64} {size : Nat} (up : UpTo (2 ^ size) value)
    (small : size < 64) :
    ∃ duration, ofSeconds64? value = some duration ∧
      duration.nanos ≤ 2 ^ size * nanosPerSecond := by
  cases value with
  | infinite _ => exact up.elim
  | nan => exact up.elim
  | finite negative mantissa exponent =>
    obtain ⟨unsigned, below⟩ := up
    have limit : (2 : ℚ) ^ size < 2 ^ 64 := pow_lt_pow_right₀ one_lt_two small
    obtain ⟨positive, value⟩ := ratio_eq mantissa exponent
    refine ⟨_, ofSeconds64?_finite unsigned (below.trans_lt limit), divideToEven_le positive ?_⟩
    rw [← value, div_le_iff₀ (Nat.cast_pos.mpr positive)] at below
    have below : (ratio mantissa exponent).1 ≤ 2 ^ size * (ratio mantissa exponent).2 := by
      exact_mod_cast below
    calc (ratio mantissa exponent).1 * nanosPerSecond
        ≤ 2 ^ size * (ratio mantissa exponent).2 * nanosPerSecond := Nat.mul_le_mul_right _ below
      _ = 2 ^ size * nanosPerSecond * (ratio mantissa exponent).2 := Nat.mul_right_comm _ _ _

theorem ofSeconds64?_isSome_of_not_le {ceiling : Duration} (fits : ceiling.nanos < limit)
    {value : Binary64} (whole : value.isFinite = true)
    (below : ceiling.toSeconds64.le value = false) :
    (ofSeconds64? (value.max (Binary64.zero false))).isSome = true := by
  have within := within_toSeconds64_of_lt fits
  cases value with
  | infinite _ => exact absurd whole Bool.false_ne_true
  | nan => exact absurd whole Bool.false_ne_true
  | finite negative mantissa exponent =>
    simp only [Binary64.max, isNaN, Binary64.zero, lt, units_zero, decide_eq_true_eq,
      Bool.false_eq_true, if_false]
    split
    · exact Option.isSome_of_eq_some (ofSeconds64?_finite (fun _ => rfl) (by simp))
    · rename_i least
      have less := within.lt_of_not_le (not_lt.mp least) below
      have unsigned := (upTo_of_units_nonneg (not_lt.mp least) less.le).1
      exact Option.isSome_of_eq_some (ofSeconds64?_finite unsigned less)

end Duration

namespace RetryPolicy

theorem one_eq : one = .finite false fullMantissa (-52) := by
  decide

theorem atMost_one {negative : Bool} {mantissa : Nat} {exponent : Int}
    (within : (units negative mantissa exponent).natAbs ≤ (units false fullMantissa (-52)).natAbs) :
    AtMost 1 (.finite negative mantissa exponent) :=
  calc (mantissa : ℚ) * 2 ^ exponent
      ≤ (units negative mantissa exponent).natAbs * 2 ^ leastExponent :=
        magnitude_le_units negative mantissa exponent
    _ ≤ (units false fullMantissa (-52)).natAbs * 2 ^ leastExponent := by gcongr
    _ = fullMantissa * 2 ^ (-52 : Int) := units_magnitude false fullMantissa (by decide)
    _ = 1 := by norm_num [fullMantissa, zpow_neg]

theorem atMost_jitterShare {factor : Binary64} (number : factor ≠ .nan) :
    AtMost 1 (jitterShare factor) := by
  unfold jitterShare
  split
  · exact (upTo_zero zero_le_one).atMost
  · rename_i natural
    split
    · exact one_eq ▸ atMost_one le_rfl
    · rename_i below
      cases factor with
      | nan => exact absurd rfl number
      | infinite negative => cases negative <;> simp [lt, zero, one_eq] at natural below
      | finite negative mantissa exponent =>
        simp only [lt, zero, one_eq, units_zero, decide_eq_true_eq] at natural below
        exact atMost_one (by omega)

theorem atMost_draw {draw : Binary64} (least : one.neg.le draw = true)
    (greatest : draw.le one = true) : AtMost 1 draw := by
  cases draw with
  | nan => exact nomatch greatest
  | infinite negative => cases negative <;> simp [le, lt, eq, neg, one_eq] at least greatest
  | finite negative mantissa exponent =>
    have opposite : units true fullMantissa (-52) = -units false fullMantissa (-52) := rfl
    simp only [le, lt, eq, neg, one_eq, Bool.not_false, opposite, Bool.or_eq_true,
      decide_eq_true_eq] at least greatest
    exact atMost_one (by omega)

/-- A delay below the ceiling is one that a duration holds, so that the ceiling is never taken in the
place of one that is not. -/
theorem some_delayBefore {ceiling : Duration} (fits : ceiling.nanos < Duration.limit)
    (attempt : Nat) (initial : Duration) (multiplier : Binary64) :
    let seconds := initial.toSeconds64.mul (multiplier.power (min (attempt - 1) greatestExponent))
    some (delayBefore attempt initial multiplier ceiling) =
      if !seconds.isFinite || ceiling.toSeconds64.le seconds then some ceiling
      else Duration.ofSeconds64? (seconds.max (zero false)) := by
  dsimp only [delayBefore]
  split
  · rfl
  · rename_i under
    simp only [Bool.or_eq_true, Bool.not_eq_true', not_or, Bool.not_eq_false,
      Bool.not_eq_true] at under
    have held := Duration.ofSeconds64?_isSome_of_not_le fits under.1 under.2
    obtain ⟨delay, read⟩ := Option.isSome_iff_exists.mp held
    rw [read, Option.getD_some]

/-- A ceiling that leaves room for rounding and for twice its seconds. -/
def Bounded (ceiling : Duration) : Prop :=
  ceiling.nanos ≤ 2 ^ 60 * Duration.nanosPerSecond

theorem delayBefore_le {ceiling : Duration} (bounded : Bounded ceiling) (attempt : Nat)
    (initial : Duration) (multiplier : Binary64) :
    (delayBefore attempt initial multiplier ceiling).nanos ≤ 2 ^ 61 * Duration.nanosPerSecond := by
  have wide : ceiling.nanos ≤ 2 ^ 61 * Duration.nanosPerSecond :=
    bounded.trans (Nat.mul_le_mul_right _ (by decide))
  unfold delayBefore
  dsimp only
  split
  · exact wide
  · rename_i under
    simp only [Bool.or_eq_true, Bool.not_eq_true', not_or, Bool.not_eq_false,
      Bool.not_eq_true] at under
    have up := (Duration.within_toSeconds64 (by decide) bounded).max_zero_of_not_le under.1 under.2
    obtain ⟨delay, read, small⟩ := Duration.ofSeconds64?_of_upTo up (by decide)
    rw [read]
    exact small

/-- No draw of the jitter takes a delay past what a duration holds. -/
theorem spread?_isSome {delay : Duration}
    (bounded : delay.nanos ≤ 2 ^ 61 * Duration.nanosPerSecond) {factor draw : Binary64}
    (number : factor ≠ .nan) (drawn : AtMost 1 draw) : (spread? delay factor draw).isSome := by
  have seconds := Duration.within_toSeconds64 (by decide) bounded
  have range := within_mul (representable_two_pow 62 (by decide)) seconds.atMost
    (atMost_jitterShare number) (by norm_num)
  have offset := within_mul (representable_two_pow 62 (by decide)) range.atMost drawn (by norm_num)
  have sum := within_add (representable_two_pow 63 (by decide)) seconds offset (by norm_num)
  unfold spread?
  split
  · rfl
  · simp only [range.isFinite, if_true]
    obtain ⟨spread, read, -⟩ := Duration.ofSeconds64?_of_upTo sum.atMost.max_zero (by decide)
    rw [read]
    rfl

theorem nextDelay?_isSome {policy : RetryPolicy} (bounded : Bounded policy.maxDelay)
    (number : policy.jitter ≠ .nan) {draw : Binary64} (least : one.neg.le draw = true)
    (greatest : draw.le one = true) (attempt : Nat) :
    (policy.nextDelay? attempt draw).isSome := by
  rw [nextDelay?, Option.isSome_map]
  exact spread?_isSome (delayBefore_le bounded attempt _ _) number (atMost_draw least greatest)

/-- The greatest ceiling leaves none: twice its seconds are too many. -/
example : (⟨.ofSeconds 0xFFFFFFFFFFFFFFFF, .ofNat 1, .ofSeconds 0xFFFFFFFFFFFFFFFF, one⟩ :
    RetryPolicy).nextDelay? 1 one = none := by
  rw [nextDelay?, delayBefore, Nat.sub_self, Nat.zero_min, power_zero]
  decide +kernel

end RetryPolicy

end HookRelay
