import HookRelay.Binary64.Basic
import Mathlib.Algebra.Order.Field.Power
import Mathlib.Data.Rat.Cast.Order
import Mathlib.Tactic.FieldSimp
import Mathlib.Tactic.Linarith
import Mathlib.Tactic.NormNum
import Mathlib.Tactic.Positivity
import Mathlib.Tactic.Ring

/-!
How great the results of operations in binary64 may be. Rounding does not go past a value that the
format has: where an exact result is at most such a value in magnitude, so is what it is rounded to.
-/
namespace HookRelay.Binary64

/-! ### Rounding to a whole number -/

theorem divideToEven_le_of_half {numerator denominator whole : Nat}
    (below : 2 * numerator < (2 * whole + 1) * denominator) :
    divideToEven numerator denominator ≤ whole := by
  have positive : 0 < denominator := Nat.pos_of_ne_zero fun none => by simp [none] at below
  have split := Nat.div_add_mod numerator denominator
  have rest := Nat.mod_lt numerator positive
  have quotient : numerator / denominator < whole + 1 := by
    rw [Nat.div_lt_iff_lt_mul positive]
    nlinarith
  by_cases last : numerator / denominator = whole
  · rw [last, Nat.mul_comm] at split
    have half : 2 * (numerator % denominator) < denominator := by nlinarith
    simp only [divideToEven, half, if_true]
    exact last.le
  · have room : numerator / denominator + 1 ≤ whole := by omega
    unfold divideToEven
    dsimp only
    repeat' split
    all_goals omega

theorem divideToEven_le {numerator denominator whole : Nat} (positive : 0 < denominator)
    (below : numerator ≤ whole * denominator) : divideToEven numerator denominator ≤ whole := by
  refine divideToEven_le_of_half ?_
  calc 2 * numerator ≤ 2 * (whole * denominator) := Nat.mul_le_mul_left 2 below
    _ < 2 * (whole * denominator) + denominator := Nat.lt_add_of_pos_right positive
    _ = (2 * whole + 1) * denominator := by ring

/-! ### Units -/

theorem inUnits_eq (numerator : Nat) {denominator : Nat} (positive : 0 < denominator)
    (exponent : Int) :
    0 < (inUnits numerator denominator exponent).2 ∧
      ((inUnits numerator denominator exponent).1 : ℚ) /
          (inUnits numerator denominator exponent).2 =
        (numerator : ℚ) / denominator / 2 ^ exponent := by
  unfold inUnits
  split
  · rename_i negative
    refine ⟨positive, ?_⟩
    obtain ⟨size, rfl⟩ : ∃ size : Nat, exponent = -size := ⟨exponent.natAbs, by omega⟩
    simp only [Int.neg_neg, Int.toNat_natCast, Nat.pow_eq, Nat.cast_mul, Nat.cast_pow,
      Nat.cast_ofNat, zpow_neg, zpow_natCast, div_inv_eq_mul]
    ring
  · rename_i natural
    obtain ⟨size, rfl⟩ : ∃ size : Nat, exponent = size := ⟨exponent.toNat, by omega⟩
    refine ⟨Nat.mul_pos positive (Nat.pow_pos (by decide)), ?_⟩
    simp only [Int.toNat_natCast, Nat.pow_eq, Nat.cast_mul, Nat.cast_pow, Nat.cast_ofNat,
      zpow_natCast]
    rw [div_div]

/-- Above the least exponent a quotient takes fifty-three bits. -/
theorem le_of_unitExponent {numerator denominator : Nat} (present : numerator ≠ 0)
    (positive : 0 < denominator) (above : unitExponent numerator denominator ≠ leastExponent) :
    (fullMantissa : ℚ) * 2 ^ unitExponent numerator denominator ≤
      (numerator : ℚ) / denominator := by
  let guess : Int := (Nat.log2 numerator : Int) - Nat.log2 denominator - 52
  obtain ⟨unit, scaled⟩ := inUnits_eq numerator positive guess
  have least_or : unitExponent numerator denominator =
      Max.max (if (inUnits numerator denominator guess).1 <
        fullMantissa * (inUnits numerator denominator guess).2 then guess - 1 else guess)
        leastExponent := rfl
  have fitted := least_or.trans ((max_choice _ _).resolve_right fun least =>
    above (least_or.trans least))
  have quotient : (0 : ℚ) < denominator := Nat.cast_pos.mpr positive
  rw [fitted]
  split
  · have low : (2 : ℚ) ^ Nat.log2 numerator ≤ numerator := by
      exact_mod_cast Nat.log2_self_le present
    have high : (denominator : ℚ) ≤ 2 ^ (Nat.log2 denominator + 1) := by
      exact_mod_cast Nat.le_of_lt Nat.lt_log2_self
    have bits : (fullMantissa : ℚ) = 2 ^ 52 := by norm_num [fullMantissa]
    rw [le_div_iff₀ quotient, bits]
    calc (2 : ℚ) ^ 52 * 2 ^ (guess - 1) * denominator
        ≤ 2 ^ 52 * 2 ^ (guess - 1) * 2 ^ (Nat.log2 denominator + 1) := by gcongr
      _ = 2 ^ Nat.log2 numerator := by
        rw [← zpow_natCast (2 : ℚ) 52, ← zpow_natCast (2 : ℚ) (Nat.log2 denominator + 1),
          ← zpow_add₀ two_ne_zero, ← zpow_add₀ two_ne_zero, ← zpow_natCast (2 : ℚ)]
        congr 1
        push_cast
        omega
      _ ≤ numerator := low
  · rename_i full
    have full : (fullMantissa : ℚ) * (inUnits numerator denominator guess).2 ≤
        (inUnits numerator denominator guess).1 := by exact_mod_cast Nat.le_of_not_lt full
    rw [← le_div_iff₀ (Nat.cast_pos.mpr unit), scaled, le_div_iff₀ (by positivity)] at full
    exact full

theorem lt_of_unitExponent {numerator denominator : Nat} (positive : 0 < denominator) :
    (numerator : ℚ) / denominator < mantissaLimit * 2 ^ unitExponent numerator denominator := by
  let guess : Int := (Nat.log2 numerator : Int) - Nat.log2 denominator - 52
  obtain ⟨unit, scaled⟩ := inUnits_eq numerator positive guess
  have quotient : (0 : ℚ) < denominator := Nat.cast_pos.mpr positive
  have fitted : (if (inUnits numerator denominator guess).1 <
      fullMantissa * (inUnits numerator denominator guess).2 then guess - 1 else guess) ≤
        unitExponent numerator denominator := le_max_left _ _
  refine lt_of_lt_of_le ?_ (mul_le_mul_of_nonneg_left
    (zpow_le_zpow_right₀ one_le_two fitted) (Nat.cast_nonneg mantissaLimit))
  split
  · rename_i short
    have short : ((inUnits numerator denominator guess).1 : ℚ) <
        fullMantissa * (inUnits numerator denominator guess).2 := by exact_mod_cast short
    rw [← div_lt_iff₀ (Nat.cast_pos.mpr unit), scaled, div_lt_iff₀ (by positivity)] at short
    refine short.trans_eq ?_
    rw [zpow_sub_one₀ two_ne_zero]
    norm_num [fullMantissa, mantissaLimit]
    ring
  · have low : (2 : ℚ) ^ Nat.log2 denominator ≤ denominator := by
      exact_mod_cast Nat.log2_self_le positive.ne'
    have high : (numerator : ℚ) < 2 ^ (Nat.log2 numerator + 1) := by
      exact_mod_cast Nat.lt_log2_self
    have bits : (mantissaLimit : ℚ) = 2 ^ 53 := by norm_num [mantissaLimit]
    rw [div_lt_iff₀ quotient, bits]
    calc (numerator : ℚ) < 2 ^ (Nat.log2 numerator + 1) := high
      _ = 2 ^ 53 * 2 ^ guess * 2 ^ Nat.log2 denominator := by
        rw [← zpow_natCast (2 : ℚ) 53, ← zpow_natCast (2 : ℚ) (Nat.log2 denominator),
          ← zpow_add₀ two_ne_zero, ← zpow_add₀ two_ne_zero, ← zpow_natCast (2 : ℚ)]
        congr 1
        push_cast
        omega
      _ ≤ 2 ^ 53 * 2 ^ guess * denominator := by gcongr

/-! ### Magnitudes -/

/-- A finite number is, without its sign, at most `bound`. -/
def AtMost (bound : ℚ) : Binary64 → Prop
  | finite _ mantissa exponent => (mantissa : ℚ) * 2 ^ exponent ≤ bound
  | _ => False

/-- A whole number of the format's least units is, without its sign, at most `bound`. -/
def Within (bound : ℚ) : Binary64 → Prop
  | finite _ mantissa exponent =>
    leastExponent ≤ exponent ∧ (mantissa : ℚ) * 2 ^ exponent ≤ bound
  | _ => False

/-- A magnitude that the format has. -/
structure Representable (bound : ℚ) (mantissa : Nat) (exponent : Int) : Prop where
  value : (mantissa : ℚ) * 2 ^ exponent = bound
  small : mantissa < mantissaLimit
  least : leastExponent ≤ exponent
  greatest : exponent ≤ greatestExponent

theorem least_le_unitExponent (numerator denominator : Nat) :
    leastExponent ≤ unitExponent numerator denominator :=
  le_max_right _ _

/-- A quotient up to a magnitude of the format needs no greater exponent. -/
theorem unitExponent_le {bound : ℚ} {mantissa : Nat} {exponent : Int}
    (representable : Representable bound mantissa exponent) {numerator denominator : Nat}
    (present : numerator ≠ 0) (positive : 0 < denominator)
    (below : (numerator : ℚ) / denominator ≤ bound) :
    unitExponent numerator denominator ≤ exponent := by
  by_contra! above
  have full := le_of_unitExponent present positive (representable.least.trans_lt above).ne'
  have small : (mantissa : ℚ) < 2 * fullMantissa := by exact_mod_cast representable.small
  refine absurd (full.trans (below.trans representable.value.ge)) (not_le.mpr ?_)
  calc (mantissa : ℚ) * 2 ^ exponent
      < 2 * fullMantissa * 2 ^ exponent := by gcongr
    _ = fullMantissa * 2 ^ (exponent + 1) := by rw [zpow_add_one₀ two_ne_zero]; ring
    _ ≤ fullMantissa * 2 ^ unitExponent numerator denominator := by
      gcongr
      · norm_num
      · exact above

theorem two_zpow_of_le {unit exponent : Int} (finer : unit ≤ exponent) :
    (2 : ℚ) ^ exponent = 2 ^ (exponent - unit).toNat * 2 ^ unit := by
  rw [← zpow_natCast, Int.toNat_of_nonneg (sub_nonneg.mpr finer), ← zpow_add₀ two_ne_zero,
    sub_add_cancel]

/-- A quotient up to a magnitude of the format rounds to a mantissa up to it. -/
theorem rounded_le {mantissa : Nat} {exponent unit : Int} (finer : unit ≤ exponent)
    {numerator denominator : Nat} (positive : 0 < denominator)
    (below : (numerator : ℚ) / denominator ≤ (mantissa : ℚ) * 2 ^ exponent) :
    divideToEven (inUnits numerator denominator unit).1 (inUnits numerator denominator unit).2 ≤
      mantissa * 2 ^ (exponent - unit).toNat := by
  obtain ⟨scale, scaled⟩ := inUnits_eq numerator positive unit
  refine divideToEven_le scale ?_
  have least : (0 : ℚ) < 2 ^ unit := by positivity
  rw [two_zpow_of_le finer, ← mul_assoc, ← div_le_iff₀ least, ← scaled,
    div_le_iff₀ (Nat.cast_pos.mpr scale)] at below
  exact_mod_cast below

theorem within_ofRatio_of_rounded {bound : ℚ} {mantissa : Nat} {exponent : Int}
    (representable : Representable bound mantissa exponent) (negative : Bool)
    {numerator denominator : Nat} (finer : unitExponent numerator denominator ≤ exponent)
    (rounded : divideToEven (inUnits numerator denominator (unitExponent numerator denominator)).1
        (inUnits numerator denominator (unitExponent numerator denominator)).2 ≤
      mantissa * 2 ^ (exponent - unitExponent numerator denominator).toNat) :
    Within bound (ofRatio negative numerator denominator) := by
  unfold ofRatio
  split
  · have natural : 0 ≤ bound := representable.value ▸ by positivity
    exact ⟨le_refl _, by simpa using natural⟩
  · have least := least_le_unitExponent numerator denominator
    generalize unitExponent numerator denominator = unit at finer least rounded
    dsimp only
    generalize divideToEven _ _ = result at rounded
    have value : (result : ℚ) * 2 ^ unit ≤ bound := by
      rw [← representable.value, two_zpow_of_le finer, ← mul_assoc]
      gcongr
      exact_mod_cast rounded
    split
    · rename_i carried
      subst carried
      split
      · rename_i beyond
        -- the greatest exponent takes no carry, as the bound itself has it
        have same : exponent = unit := by have := representable.greatest; omega
        have small := representable.small
        simp only [same, sub_self, Int.toNat_zero, pow_zero, mul_one] at rounded
        omega
      · refine ⟨by omega, le_of_eq_of_le ?_ value⟩
        rw [zpow_add_one₀ two_ne_zero]
        norm_num [fullMantissa, mantissaLimit]
        ring
    · rw [if_neg (not_lt.mpr (finer.trans representable.greatest))]
      exact ⟨least, value⟩

/-- Rounding does not go past a magnitude that the format has. -/
theorem within_ofRatio {bound : ℚ} {mantissa : Nat} {exponent : Int}
    (representable : Representable bound mantissa exponent) (negative : Bool)
    {numerator denominator : Nat} (positive : 0 < denominator)
    (below : (numerator : ℚ) / denominator ≤ bound) :
    Within bound (ofRatio negative numerator denominator) := by
  by_cases present : numerator = 0
  · have natural : 0 ≤ bound := le_trans (by positivity) below
    rw [ofRatio, if_pos present]
    exact ⟨le_refl _, by simpa using natural⟩
  · have finer := unitExponent_le representable present positive below
    exact within_ofRatio_of_rounded representable negative finer
      (rounded_le finer positive (below.trans representable.value.ge))

theorem representable_two_pow (size : Nat) (fits : size ≤ 971) :
    Representable (2 ^ size) 1 size where
  value := by simp
  small := by decide
  least := by unfold leastExponent; omega
  greatest := by unfold greatestExponent; omega

theorem representable_full {size : Nat} (fits : size ≤ 971) :
    Representable (2 ^ size) fullMantissa (size - 52) where
  value := by
    rw [zpow_sub₀ two_ne_zero, zpow_natCast]
    norm_num [fullMantissa]
    ring
  small := by decide
  least := by unfold leastExponent; omega
  greatest := by unfold greatestExponent; omega

/-- Past a power of two, and short of the next one, the unit is that of the former. -/
theorem unitExponent_eq {size : Nat} {numerator denominator : Nat} (positive : 0 < denominator)
    (above : (2 : ℚ) ^ size < (numerator : ℚ) / denominator)
    (below : (numerator : ℚ) / denominator < 2 ^ (size + 1)) :
    unitExponent numerator denominator = size - 52 := by
  have present : numerator ≠ 0 := by
    rintro rfl
    have power : (0 : ℚ) < 2 ^ size := by positivity
    rw [Nat.cast_zero, zero_div] at above
    exact absurd above power.not_gt
  have full : (fullMantissa : ℚ) = 2 ^ (52 : Int) := by norm_num [fullMantissa]
  have limit : (mantissaLimit : ℚ) = 2 ^ (53 : Int) := by norm_num [mantissaLimit]
  apply le_antisymm
  · by_contra! coarse
    have bound := le_of_unitExponent present positive
      (lt_trans (by unfold leastExponent; omega) coarse).ne'
    rw [full, ← zpow_add₀ two_ne_zero] at bound
    have less := bound.trans_lt below
    rw [← zpow_natCast, zpow_lt_zpow_iff_right₀ one_lt_two] at less
    push_cast at less
    omega
  · have more := above.trans (lt_of_unitExponent positive)
    rw [limit, ← zpow_add₀ two_ne_zero, ← zpow_natCast,
      zpow_lt_zpow_iff_right₀ one_lt_two] at more
    omega

/-- What exceeds a power of two by less than half a unit is rounded down to it. -/
theorem within_ofRatio_of_half {size : Nat} (fits : size ≤ 971) (negative : Bool)
    {numerator denominator : Nat} (positive : 0 < denominator)
    (below : (numerator : ℚ) / denominator < 2 ^ size * (1 + 1 / mantissaLimit)) :
    Within (2 ^ size) (ofRatio negative numerator denominator) := by
  rcases le_or_gt ((numerator : ℚ) / denominator) (2 ^ size) with most | above
  · exact within_ofRatio (representable_two_pow size fits) negative positive most
  · have next : (2 : ℚ) ^ size * (1 + 1 / mantissaLimit) ≤ 2 ^ (size + 1) := by
      rw [pow_succ]
      gcongr
      norm_num [mantissaLimit]
    have unit := unitExponent_eq positive above (below.trans_le next)
    refine within_ofRatio_of_rounded (representable_full fits) negative unit.le ?_
    rw [unit, sub_self, Int.toNat_zero, pow_zero, mul_one]
    obtain ⟨scale, scaled⟩ := inUnits_eq numerator positive (size - 52)
    refine divideToEven_le_of_half ?_
    rw [zpow_sub₀ two_ne_zero, zpow_natCast] at scaled
    have half : ((inUnits numerator denominator (size - 52)).1 : ℚ) /
        (inUnits numerator denominator (size - 52)).2 < fullMantissa + 1 / 2 := by
      rw [scaled, div_lt_iff₀ (by positivity)]
      refine below.trans_eq ?_
      norm_num [fullMantissa, mantissaLimit]
      ring
    rw [div_lt_iff₀ (Nat.cast_pos.mpr scale)] at half
    have doubled : (2 * (inUnits numerator denominator (size - 52)).1 : ℚ) <
        (2 * fullMantissa + 1) * (inUnits numerator denominator (size - 52)).2 := by linarith
    exact_mod_cast doubled

theorem Within.atMost {bound : ℚ} {value : Binary64} (within : Within bound value) :
    AtMost bound value := by
  cases value with
  | finite negative mantissa exponent => exact within.2
  | infinite _ => exact within
  | nan => exact within

theorem Within.nonneg {bound : ℚ} {value : Binary64} (within : Within bound value) :
    0 ≤ bound := by
  cases value with
  | finite negative mantissa exponent => exact le_trans (by positivity) within.2
  | infinite _ => exact within.elim
  | nan => exact within.elim

theorem Within.isFinite {bound : ℚ} {value : Binary64} (within : Within bound value) :
    value.isFinite = true := by
  cases value with
  | finite negative mantissa exponent => rfl
  | infinite _ => exact within.elim
  | nan => exact within.elim

theorem within_ofNat {bound : ℚ} {mantissa : Nat} {exponent : Int}
    (representable : Representable bound mantissa exponent) {value : Nat}
    (below : (value : ℚ) ≤ bound) : Within bound (ofNat value) :=
  within_ofRatio representable false Nat.one_pos (by simpa using below)

/-! ### Operations -/

theorem ratio_eq (mantissa : Nat) (exponent : Int) :
    0 < (ratio mantissa exponent).2 ∧
      ((ratio mantissa exponent).1 : ℚ) / (ratio mantissa exponent).2 =
        (mantissa : ℚ) * 2 ^ exponent := by
  refine ⟨(inUnits_eq mantissa Nat.one_pos (-exponent)).1, ?_⟩
  refine (inUnits_eq mantissa Nat.one_pos (-exponent)).2.trans ?_
  rw [Nat.cast_one, div_one, zpow_neg, div_inv_eq_mul]

section

variable {bound : ℚ} {mantissa : Nat} {exponent : Int}
  (representable : Representable bound mantissa exponent) {left right : Binary64}
  {leftBound rightBound : ℚ}

include representable

theorem within_mul (leftMost : AtMost leftBound left) (rightMost : AtMost rightBound right)
    (below : leftBound * rightBound ≤ bound) : Within bound (left.mul right) := by
  cases left with
  | infinite _ => exact leftMost.elim
  | nan => exact leftMost.elim
  | finite leftMinus leftMantissa leftExponent =>
    cases right with
    | infinite _ => exact rightMost.elim
    | nan => exact rightMost.elim
    | finite rightMinus rightMantissa rightExponent =>
      obtain ⟨positive, value⟩ :=
        ratio_eq (leftMantissa * rightMantissa) (leftExponent + rightExponent)
      refine within_ofRatio representable _ positive (value.trans_le (le_trans ?_ below))
      have leftMost : (leftMantissa : ℚ) * 2 ^ leftExponent ≤ leftBound := leftMost
      have rightMost : (rightMantissa : ℚ) * 2 ^ rightExponent ≤ rightBound := rightMost
      rw [Nat.cast_mul, zpow_add₀ two_ne_zero, mul_mul_mul_comm]
      gcongr
      exact le_trans (by positivity) leftMost

theorem within_div (leftMost : AtMost leftBound left) {unitMantissa : Nat} {unitExponent : Int}
    (present : unitMantissa ≠ 0)
    (below : leftBound / ((unitMantissa : ℚ) * 2 ^ unitExponent) ≤ bound) :
    Within bound (left.div (finite false unitMantissa unitExponent)) := by
  cases left with
  | infinite _ => exact leftMost.elim
  | nan => exact leftMost.elim
  | finite leftMinus leftMantissa leftExponent =>
    obtain ⟨positive, value⟩ := ratio_eq leftMantissa (leftExponent - unitExponent)
    simp only [div, if_neg present]
    refine within_ofRatio representable _ (Nat.mul_pos positive (Nat.pos_of_ne_zero present)) ?_
    have leftMost : (leftMantissa : ℚ) * 2 ^ leftExponent ≤ leftBound := leftMost
    rw [Nat.cast_mul, ← div_div, value, zpow_sub₀ two_ne_zero]
    calc (leftMantissa : ℚ) * (2 ^ leftExponent / 2 ^ unitExponent) / unitMantissa
        = leftMantissa * 2 ^ leftExponent / (unitMantissa * 2 ^ unitExponent) := by
          field_simp
      _ ≤ leftBound / (unitMantissa * 2 ^ unitExponent) := by gcongr
      _ ≤ bound := below

end

/-! ### In units of the least positive number -/

theorem natAbs_units (negative : Bool) (mantissa : Nat) (exponent : Int) :
    (units negative mantissa exponent).natAbs =
      mantissa * 2 ^ (exponent - leastExponent).toNat := by
  unfold units
  cases negative <;> simp [Int.natAbs_mul]

/-- Below the least exponent the units are too coarse, and hold more than the number. -/
theorem magnitude_le_units (negative : Bool) (mantissa : Nat) (exponent : Int) :
    (mantissa : ℚ) * 2 ^ exponent ≤
      (units negative mantissa exponent).natAbs * 2 ^ leastExponent := by
  rw [natAbs_units, Nat.cast_mul, mul_assoc, Nat.cast_pow, Nat.cast_ofNat, ← zpow_natCast,
    ← zpow_add₀ two_ne_zero]
  gcongr
  · norm_num
  · omega

theorem units_magnitude (negative : Bool) (mantissa : Nat) {exponent : Int}
    (least : leastExponent ≤ exponent) :
    ((units negative mantissa exponent).natAbs : ℚ) * 2 ^ leastExponent =
      mantissa * 2 ^ exponent := by
  rw [natAbs_units, Nat.cast_mul, mul_assoc, Nat.cast_pow, Nat.cast_ofNat,
    ← two_zpow_of_le least]

theorem cast_pow_neg {exponent : Int} (negative : exponent ≤ 0) :
    0 < Nat.pow 2 (-exponent).toNat ∧
      ((Nat.pow 2 (-exponent).toNat : Nat) : ℚ) = (2 ^ exponent)⁻¹ := by
  refine ⟨Nat.pow_pos (by decide), ?_⟩
  rw [← zpow_neg, Nat.pow_eq, Nat.cast_pow, Nat.cast_ofNat, ← zpow_natCast,
    Int.toNat_of_nonneg (by omega)]

/-- A sum is a rounded quotient, which is at most the sum of the bounds. -/
theorem exists_add_eq_ofRatio {left right : Binary64} {leftBound rightBound : ℚ}
    (leftWithin : Within leftBound left) (rightWithin : Within rightBound right) :
    ∃ negative numerator denominator, left.add right = ofRatio negative numerator denominator ∧
      0 < denominator ∧ (numerator : ℚ) / denominator ≤ leftBound + rightBound := by
  cases left with
  | infinite _ => exact leftWithin.elim
  | nan => exact leftWithin.elim
  | finite leftMinus leftMantissa leftExponent =>
    cases right with
    | infinite _ => exact rightWithin.elim
    | nan => exact rightWithin.elim
    | finite rightMinus rightMantissa rightExponent =>
      obtain ⟨positive, scale⟩ := cast_pow_neg (show leastExponent ≤ 0 by decide)
      have together := Int.natAbs_add_le (units leftMinus leftMantissa leftExponent)
        (units rightMinus rightMantissa rightExponent)
      simp only [add]
      -- the denominator is a name from here on, as the number itself has a thousand bits
      generalize Nat.pow 2 (-leastExponent).toNat = denominator at positive scale
      refine ⟨_, _, denominator, rfl, positive, ?_⟩
      rw [scale, div_inv_eq_mul]
      calc ((units leftMinus leftMantissa leftExponent +
              units rightMinus rightMantissa rightExponent).natAbs : ℚ) * 2 ^ leastExponent
          ≤ ((units leftMinus leftMantissa leftExponent).natAbs +
              (units rightMinus rightMantissa rightExponent).natAbs) * 2 ^ leastExponent := by
            gcongr
            exact_mod_cast together
        _ = leftMantissa * 2 ^ leftExponent + rightMantissa * 2 ^ rightExponent := by
          rw [add_mul, units_magnitude _ _ leftWithin.1, units_magnitude _ _ rightWithin.1]
        _ ≤ leftBound + rightBound := add_le_add leftWithin.2 rightWithin.2

theorem within_add {bound : ℚ} {mantissa : Nat} {exponent : Int}
    (representable : Representable bound mantissa exponent) {left right : Binary64}
    {leftBound rightBound : ℚ} (leftWithin : Within leftBound left)
    (rightWithin : Within rightBound right) (below : leftBound + rightBound ≤ bound) :
    Within bound (left.add right) := by
  obtain ⟨negative, numerator, denominator, sum, positive, most⟩ :=
    exists_add_eq_ofRatio leftWithin rightWithin
  exact sum ▸ within_ofRatio representable negative positive (most.trans below)

/-- A number is from zero up to `bound`. -/
def UpTo (bound : ℚ) : Binary64 → Prop
  | finite negative mantissa exponent =>
    (negative = true → mantissa = 0) ∧ (mantissa : ℚ) * 2 ^ exponent ≤ bound
  | _ => False

theorem UpTo.atMost {bound : ℚ} {value : Binary64} (up : UpTo bound value) :
    AtMost bound value := by
  cases value with
  | finite negative mantissa exponent => exact up.2
  | infinite _ => exact up
  | nan => exact up

theorem upTo_zero {bound : ℚ} (natural : 0 ≤ bound) : UpTo bound (zero false) := by
  refine ⟨fun negative => absurd negative Bool.false_ne_true, ?_⟩
  simpa using natural

theorem units_zero : units false 0 leastExponent = 0 := by
  simp [units]

theorem upTo_of_units_nonneg {bound : ℚ} {negative : Bool} {mantissa : Nat} {exponent : Int}
    (natural : 0 ≤ units negative mantissa exponent)
    (below : (mantissa : ℚ) * 2 ^ exponent ≤ bound) :
    UpTo bound (finite negative mantissa exponent) := by
  refine ⟨?_, below⟩
  rintro rfl
  by_contra present
  have positive : 0 < mantissa * 2 ^ (exponent - leastExponent).toNat :=
    Nat.mul_pos (Nat.pos_of_ne_zero present) (Nat.pow_pos (by decide))
  simp only [units, if_true, Nat.pow_eq] at natural
  have := Int.ofNat_lt.mpr positive
  push_cast at this natural
  omega

/-- The greater of a number and zero is zero, or the number where that is not below zero. -/
theorem upTo_max_zero {bound : ℚ} {negative : Bool} {mantissa : Nat} {exponent : Int}
    (natural : 0 ≤ bound) (below : 0 ≤ units negative mantissa exponent →
      (mantissa : ℚ) * 2 ^ exponent ≤ bound) :
    UpTo bound ((finite negative mantissa exponent).max (zero false)) := by
  simp only [max, isNaN, zero, lt, units_zero, decide_eq_true_eq, Bool.false_eq_true, if_false]
  split
  · exact upTo_zero natural
  · rename_i least
    exact upTo_of_units_nonneg (not_lt.mp least) (below (not_lt.mp least))

theorem AtMost.max_zero {bound : ℚ} {value : Binary64} (most : AtMost bound value) :
    UpTo bound (value.max (zero false)) := by
  cases value with
  | infinite _ => exact most.elim
  | nan => exact most.elim
  | finite negative mantissa exponent =>
    exact upTo_max_zero (le_trans (by positivity) most) fun _ => most

/-- A number that is not negative and does not reach a ceiling is below what bounds the ceiling. -/
theorem Within.lt_of_not_le {bound : ℚ} {ceiling : Binary64} (within : Within bound ceiling)
    {negative : Bool} {mantissa : Nat} {exponent : Int}
    (natural : 0 ≤ units negative mantissa exponent)
    (below : ceiling.le (finite negative mantissa exponent) = false) :
    (mantissa : ℚ) * 2 ^ exponent < bound := by
  cases ceiling with
  | infinite _ => exact within.elim
  | nan => exact within.elim
  | finite ceilingMinus ceilingMantissa ceilingExponent =>
    simp only [le, lt, eq, Bool.or_eq_false_iff, decide_eq_false_iff_not] at below
    have fewer : (units negative mantissa exponent).natAbs <
        (units ceilingMinus ceilingMantissa ceilingExponent).natAbs := by omega
    calc (mantissa : ℚ) * 2 ^ exponent
        ≤ (units negative mantissa exponent).natAbs * 2 ^ leastExponent :=
          magnitude_le_units negative mantissa exponent
      _ < (units ceilingMinus ceilingMantissa ceilingExponent).natAbs * 2 ^ leastExponent := by
        gcongr
      _ = ceilingMantissa * 2 ^ ceilingExponent := units_magnitude _ _ within.1
      _ ≤ bound := within.2

theorem Within.max_zero_of_not_le {bound : ℚ} {ceiling value : Binary64}
    (within : Within bound ceiling) (finite_ : value.isFinite = true)
    (below : ceiling.le value = false) : UpTo bound (value.max (zero false)) := by
  cases value with
  | infinite _ => exact nomatch finite_
  | nan => exact nomatch finite_
  | finite negative mantissa exponent =>
    exact upTo_max_zero within.nonneg fun natural => (within.lt_of_not_le natural below).le

end HookRelay.Binary64
