import Redfin.Drv2624.Calibration
import Redfin.Numbers.Words

/-!
# The resonance period and its frequency

`freqPeriodFormula` converts a period into a frequency and a frequency into a period; the
constructor applies it both ways to find the period of a lowered frequency. Where its product does
not wrap it is the truncating quotient of one dividend, `40625`.
-/

namespace Redfin.Drv2624

open Numbers

/-- The product does not wrap if it fits the type. -/
lemma toNat_product {period : UInt32} (h : 24615 * period.toNat < 2 ^ 32) :
    (24615 * period).toNat = 24615 * period.toNat := by
  rw [UInt32.toNat_mul]
  exact Nat.mod_eq_of_lt h

/-- A product that fits the type is not zero. -/
lemma product_ne_zero {period : UInt32} (h : 24615 * period.toNat < 2 ^ 32)
    (pos : 0 < period.toNat) : 24615 * period ≠ 0 := by
  intro zero
  have product := toNat_product h
  rw [zero, UInt32.toNat_zero] at product
  omega

/-- The formula is a truncating quotient of integers. -/
lemma toNat_freqPeriodFormula {period : UInt32} (h : 24615 * period.toNat < 2 ^ 32) :
    (freqPeriodFormula period).toNat = 40625 / period.toNat := by
  rw [freqPeriodFormula, UInt32.toNat_div, toNat_product h, ← Nat.div_div_eq_div_mul]
  exact rfl

/-- A frequency is in the domain of the formula. -/
lemma product_lt {frequency : ℕ} (h : frequency ≤ 40625) : 24615 * frequency < 2 ^ 32 := by
  omega

namespace HwCal

variable {cal : HwCal}

/-- The period arithmetic of the constructor is well defined: no product wraps, no division is by
zero, the subtraction does not wrap and the radicand is positive. -/
structure PeriodArithmetic (cal : HwCal) : Prop where
  inner_product : 24615 * cal.lraPeriod.toNat < 2 ^ 32
  inner_divisor : 24615 * cal.lraPeriod ≠ 0
  subtraction : cal.longFrequencyShift ≤ freqPeriodFormula cal.lraPeriod
  outer_product :
    24615 * (freqPeriodFormula cal.lraPeriod - cal.longFrequencyShift).toNat < 2 ^ 32
  outer_divisor : 24615 * (freqPeriodFormula cal.lraPeriod - cal.longFrequencyShift) ≠ 0
  radicand : (0 : ℝ) < 1 - (freqPeriodFormula cal.lraPeriod).toNat * 8 / 10000

/-- The radicand by the frequency. -/
lemma radicand_pos_iff (frequency : ℕ) :
    (0 : ℝ) < 1 - frequency * 8 / 10000 ↔ frequency < 1250 := by
  rw [sub_pos, div_lt_one (by norm_num), ← lt_div_iff₀ (by norm_num)]
  norm_num

/-- The frequency is larger than the shift. -/
lemma shift_lt_iff {period shift : ℕ} (hp : 0 < period) :
    shift < 40625 / period ↔ 24615 * period * (shift + 1) ≤ 10 ^ 9 := by
  rw [← Nat.succ_le_iff, Nat.le_div_iff_mul_le hp, Nat.succ_eq_add_one, mul_assoc,
    mul_comm period]
  omega

/-- The period arithmetic is well defined for the periods from 33 on, up to the one at which the
frequency is no larger than the shift. -/
theorem periodArithmetic_iff (cal : HwCal) :
    cal.PeriodArithmetic ↔
      33 ≤ cal.lraPeriod.toNat ∧
        24615 * cal.lraPeriod.toNat * (cal.longFrequencyShift.toNat + 1) ≤ 10 ^ 9 := by
  constructor
  · intro h
    have frequency := toNat_freqPeriodFormula h.inner_product
    have hp : 0 < cal.lraPeriod.toNat := by
      apply Nat.pos_of_ne_zero
      intro zero
      have eq : cal.lraPeriod = 0 := UInt32.toNat_inj.mp zero
      apply h.inner_divisor
      rw [eq, UInt32.mul_zero]
    have low := (radicand_pos_iff _).mp h.radicand
    rw [frequency] at low
    constructor
    · by_contra short
      have high : 40625 / 32 ≤ 40625 / cal.lraPeriod.toNat :=
        Nat.div_le_div_left (by omega) hp
      omega
    · rw [← shift_lt_iff hp, ← frequency]
      apply lt_of_le_of_ne (UInt32.le_iff_toNat_le.mp h.subtraction)
      intro eq
      apply h.outer_divisor
      rw [UInt32.toNat_inj.mp eq, UInt32.sub_self, UInt32.mul_zero]
  · rintro ⟨long, bound⟩
    have hp : 0 < cal.lraPeriod.toNat := by omega
    have inner : 24615 * cal.lraPeriod.toNat < 2 ^ 32 := by
      have factor : 0 < cal.longFrequencyShift.toNat + 1 := Nat.succ_pos _
      have le := Nat.le_mul_of_pos_right (24615 * cal.lraPeriod.toNat) factor
      omega
    have frequency := toNat_freqPeriodFormula inner
    have low : 40625 / cal.lraPeriod.toNat ≤ 40625 / 33 := Nat.div_le_div_left long (by decide)
    have lt : cal.longFrequencyShift < freqPeriodFormula cal.lraPeriod := by
      rw [UInt32.lt_iff_toNat_lt, frequency]
      exact (shift_lt_iff hp).mpr bound
    have shifted := UInt32.toNat_sub_of_le _ _ (UInt32.le_of_lt lt)
    have gap := UInt32.lt_iff_toNat_lt.mp lt
    have outer :
        24615 * (freqPeriodFormula cal.lraPeriod - cal.longFrequencyShift).toNat < 2 ^ 32 :=
      product_lt (by omega)
    constructor
    · exact inner
    · exact product_ne_zero inner hp
    · exact UInt32.le_of_lt lt
    · exact outer
    · apply product_ne_zero outer
      omega
    · apply (radicand_pos_iff _).mpr
      omega

/-- A clamp is then the conversion of a number. -/
lemma PeriodArithmetic.convertLevelsToOdClamp (h : cal.PeriodArithmetic) (ar : Arithmetic)
    (level : ℝ) :
    ar.convertLevelsToOdClamp (some level) cal.lraPeriod =
      ar.toUInt32 (some (level / (21.32 / 1000 *
        √(1 - (freqPeriodFormula cal.lraPeriod).toNat * 8 / 10000)))) :=
  congrArg ar.toUInt32 (if_pos h.radicand)

/-- A calibration for the dynamic configuration, without coefficients. -/
def ofPeriod (lraPeriod longFrequencyShift : UInt32) : HwCal :=
  ⟨lraPeriod, 1000, true, longFrequencyShift, 255, 255, "", none, none, 0, none, none, none, 0,
    6, 6, 0, 6⟩

/-- A division by zero, a wrapped product, a frequency that the shift exceeds, and a radicand that
is not positive. -/
theorem not_periodArithmetic_ofPeriod :
    ¬(ofPeriod 0 10).PeriodArithmetic ∧ ¬(ofPeriod 200000 10).PeriodArithmetic ∧
      ¬(ofPeriod 262 200).PeriodArithmetic ∧ ¬(ofPeriod 32 10).PeriodArithmetic := by
  refine ⟨fun h => ?_, fun h => ?_, fun h => ?_, fun h => ?_⟩
  · exact h.inner_divisor (by decide)
  · exact absurd h.inner_product (by decide)
  · exact absurd h.subtraction (by decide)
  · exact absurd ((radicand_pos_iff _).mp h.radicand) (by decide)

/-! ## The shifted period -/

/-- The period that the constructor computes for the lowered frequency. -/
lemma dynamic_shiftedPeriod (ar : Arithmetic) (cal : HwCal) :
    (cal.dynamic ar).mSteadyOlLraPeriodShift =
      freqPeriodFormula (freqPeriodFormula cal.lraPeriod - cal.longFrequencyShift) := rfl

/-- The frequency that is to be shifted to, with the period the constructor gives it. -/
lemma toNat_shiftedPeriod (ar : Arithmetic) (bound : 24615 * cal.lraPeriod.toNat ≤ 10 ^ 9)
    (hs : cal.longFrequencyShift < freqPeriodFormula cal.lraPeriod) :
    (cal.dynamic ar).mSteadyOlLraPeriodShift.toNat =
      40625 / (40625 / cal.lraPeriod.toNat - cal.longFrequencyShift.toNat) := by
  have frequency := toNat_freqPeriodFormula (by omega : 24615 * cal.lraPeriod.toNat < 2 ^ 32)
  have shifted := UInt32.toNat_sub_of_le _ _ (UInt32.le_of_lt hs)
  rw [frequency] at shifted
  have small := Nat.div_le_self 40625 cal.lraPeriod.toNat
  rw [dynamic_shiftedPeriod, toNat_freqPeriodFormula (product_lt (by omega)), shifted]

/-- The period that the constructor shifts to is the formula's of the lowered frequency, without a
wrap. Converted back, it gives a frequency that is not above that of the period, and below it by no
more than the shift; a larger shift gives no shorter period. -/
theorem shiftedPeriod_law (ar : Arithmetic) (cal : HwCal) (hp : 1 ≤ cal.lraPeriod.toNat)
    (bound : 24615 * cal.lraPeriod.toNat ≤ 10 ^ 9)
    (hs : cal.longFrequencyShift < freqPeriodFormula cal.lraPeriod) :
    let q := (cal.dynamic ar).mSteadyOlLraPeriodShift
    q = freqPeriodFormula (freqPeriodFormula cal.lraPeriod - cal.longFrequencyShift) ∧
    q.toNat = 10 ^ 9 / (24615 *
      (10 ^ 9 / (24615 * cal.lraPeriod.toNat) - cal.longFrequencyShift.toNat)) ∧
    24615 * cal.lraPeriod.toNat < 2 ^ 32 ∧
    (freqPeriodFormula cal.lraPeriod - cal.longFrequencyShift).toNat =
      (freqPeriodFormula cal.lraPeriod).toNat - cal.longFrequencyShift.toNat ∧
    24615 * (freqPeriodFormula cal.lraPeriod - cal.longFrequencyShift).toNat < 2 ^ 32 ∧
    24615 * q.toNat < 2 ^ 32 ∧
    cal.lraPeriod ≤ q ∧
    freqPeriodFormula cal.lraPeriod - cal.longFrequencyShift ≤ freqPeriodFormula q ∧
    freqPeriodFormula q ≤ freqPeriodFormula cal.lraPeriod ∧
    ∀ cal' : HwCal, cal'.lraPeriod = cal.lraPeriod →
      cal'.longFrequencyShift ≤ cal.longFrequencyShift →
        (cal'.dynamic ar).mSteadyOlLraPeriodShift ≤ q := by
  intro q
  have inner : 24615 * cal.lraPeriod.toNat < 2 ^ 32 := by omega
  have frequency := toNat_freqPeriodFormula inner
  have shifted := UInt32.toNat_sub_of_le _ _ (UInt32.le_of_lt hs)
  have small := Nat.div_le_self 40625 cal.lraPeriod.toNat
  have gap := UInt32.lt_iff_toNat_lt.mp hs
  have outer : 24615 * (freqPeriodFormula cal.lraPeriod - cal.longFrequencyShift).toNat < 2 ^ 32 :=
    product_lt (by omega)
  have exact_period : q.toNat = _ := toNat_shiftedPeriod ar bound hs
  have whole : q.toNat = 10 ^ 9 / (24615 *
      (10 ^ 9 / (24615 * cal.lraPeriod.toNat) - cal.longFrequencyShift.toNat)) := by
    rw [exact_period, ← Nat.div_div_eq_div_mul, ← Nat.div_div_eq_div_mul]
    exact rfl
  have period := exact_period
  rw [← frequency, ← shifted] at period
  have short := Nat.div_le_self 40625
    (freqPeriodFormula cal.lraPeriod - cal.longFrequencyShift).toNat
  have last : 24615 * q.toNat < 2 ^ 32 := product_lt (by omega)
  have back := toNat_freqPeriodFormula last
  rw [period] at back
  have pos : 0 < (freqPeriodFormula cal.lraPeriod - cal.longFrequencyShift).toNat := by omega
  have le : (freqPeriodFormula cal.lraPeriod - cal.longFrequencyShift).toNat ≤
      40625 / cal.lraPeriod.toNat := by omega
  refine ⟨dynamic_shiftedPeriod ar cal, whole, inner, shifted, outer, last, ?_, ?_, ?_,
    fun cal' same less => ?_⟩
  · rw [UInt32.le_iff_toNat_le, period]
    exact (le_div_comm pos hp).mp le
  · rw [UInt32.le_iff_toNat_le, back]
    exact le_div_div pos (by omega)
  · rw [UInt32.le_iff_toNat_le, back, frequency]
    exact div_div_le_div pos hp le
  · have hs' : cal'.longFrequencyShift < freqPeriodFormula cal'.lraPeriod := by
      rw [same]
      exact UInt32.lt_of_le_of_lt less hs
    have period' := toNat_shiftedPeriod ar (by rwa [same]) hs'
    have less' := UInt32.le_iff_toNat_le.mp less
    rw [UInt32.le_iff_toNat_le, period', period, same]
    apply Nat.div_le_div_left _ pos
    omega

/-- The default period with the default shift, and with half of it. -/
theorem shiftedPeriod_262 :
    ((ofPeriod 262 10).dynamic sampleArithmetic).mSteadyOlLraPeriodShift.toNat = 280 ∧
      ((ofPeriod 262 5).dynamic sampleArithmetic).mSteadyOlLraPeriodShift ≤
        ((ofPeriod 262 10).dynamic sampleArithmetic).mSteadyOlLraPeriodShift := by
  have law :=
    shiftedPeriod_law sampleArithmetic (ofPeriod 262 10) (by decide) (by decide) (by decide)
  obtain ⟨-, value, -, -, -, -, -, -, -, mono⟩ := law
  exact ⟨value, mono (ofPeriod 262 5) rfl (by decide)⟩

end HwCal

end Redfin.Drv2624
