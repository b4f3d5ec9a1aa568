import Redfin.Drv2624.Period
import Redfin.Drv2624.Solver

/-!
# The clamps of solved levels

The constructor with its equations solved as they are coded. Where the period arithmetic is well
defined and the solvers are well behaved, a clamp is a rounded quotient of integers that `uint32_t`
represents: it depends on nothing that the language leaves undefined.
-/

namespace Redfin.Drv2624

noncomputable section

def targetGToVlevelsUnderLinearEquation (inputCoeffs : Coeffs) (targetG : ℝ) : Option ℝ :=
  firstValid [div? (targetG - inputCoeffs.b) inputCoeffs.a]

/-- The solvers of the constructor are the functions of the source, wherever these have a value. -/
structure Coded (ar : Arithmetic) : Prop where
  linear {inputCoeffs : Coeffs} {targetG v : ℝ} :
    targetGToVlevelsUnderLinearEquation inputCoeffs targetG = some v →
      ar.targetGToVlevelsUnderLinearEquation inputCoeffs targetG = v
  cubic {inputCoeffs : Coeffs} {targetG v : ℝ} :
    targetGToVlevelsUnderCubicEquation inputCoeffs targetG = some v →
      ar.targetGToVlevelsUnderCubicEquation inputCoeffs targetG = v

/-- The solvers as coded, with 0 where they have no value. -/
def codedArithmetic : Arithmetic where
  targetGToVlevelsUnderLinearEquation inputCoeffs targetG :=
    (targetGToVlevelsUnderLinearEquation inputCoeffs targetG).getD 0
  targetGToVlevelsUnderCubicEquation inputCoeffs targetG :=
    (targetGToVlevelsUnderCubicEquation inputCoeffs targetG).getD 0
  outOfRange _ := 0

/-- The solvers as coded have the values they are to have. -/
lemma coded_codedArithmetic : Coded codedArithmetic where
  linear h := congrArg (Option.getD · 0) h
  cubic h := congrArg (Option.getD · 0) h

/-- The clamp of a level at a frequency, in exact arithmetic. -/
def clampOf (level : ℝ) (frequency : ℕ) : ℕ :=
  (round (level / (21.32 / 1000.0 * √(1 - frequency * 8.0 / 10000.0)))).toNat

variable {ar : Arithmetic} {cal : HwCal} {level : ℝ}

/-- A level is within the range of the voltage. -/
lemma level_bounds (h : level = 0 ∨ Valid level) : 0 ≤ level ∧ level ≤ MAX_VOLTAGE := by
  obtain rfl | valid := h
  · norm_num [MAX_VOLTAGE]
  · exact ⟨(FLOAT_EPS_pos.trans valid.1).le, valid.2⟩

/-- A number within bounds is rounded to the nearest integer. -/
lemma toUInt32_of_bounds {x : ℝ} (nonneg : 0 ≤ x) (small : x ≤ 10000) :
    ar.toUInt32 (some x) = UInt32.ofNat (round x).toNat := by
  have rounded : round x = ⌊x + 1 / 2⌋ := if_pos nonneg
  have low : 0 ≤ ⌊x + 1 / 2⌋ := Int.floor_nonneg.mpr (by linarith)
  have high : ⌊x + 1 / 2⌋ < 10001 := by
    apply Int.floor_lt.mpr
    push_cast
    linarith
  have size : (10001 : ℤ) < UInt32.size := by decide
  rw [rounded]
  show (if 0 ≤ round x ∧ round x < UInt32.size then _ else _) = _
  rw [rounded, if_pos ⟨low, high.trans size⟩]

/-- The quotient is small: the radicand is positive, and its values are `8 / 10000` apart. -/
lemma quotient_le {frequency : ℕ} (h : frequency < 1250) (nonneg : 0 ≤ level)
    (high : level ≤ MAX_VOLTAGE) :
    0 ≤ level / (21.32 / 1000 * √(1 - frequency * 8 / 10000)) ∧
      level / (21.32 / 1000 * √(1 - frequency * 8 / 10000)) ≤ 10000 := by
  have below : (frequency : ℝ) ≤ 1249 := by exact_mod_cast Nat.le_of_lt_succ h
  have root : (0.02 : ℝ) ≤ √(1 - frequency * 8 / 10000) := by
    apply Real.le_sqrt_of_sq_le
    norm_num
    linarith
  constructor
  · positivity
  · rw [div_le_iff₀ (by positivity)]
    unfold MAX_VOLTAGE at high
    norm_num at high root ⊢
    linarith

/-- The clamp of a level, with integers for the decimal constants. -/
lemma clampOf_eq (level : ℝ) (frequency : ℕ) :
    clampOf level frequency =
      (round (level / (21.32 / 1000 * √(1 - frequency * 8 / 10000)))).toNat := by
  have thousand : (1000.0 : ℝ) = 1000 := by norm_num
  have eight : (8.0 : ℝ) = 8 := by norm_num
  have tenThousand : (10000.0 : ℝ) = 10000 := by norm_num
  rw [clampOf, thousand, eight, tenThousand]

/-- The clamp of a level that the solvers return. -/
lemma convertLevelsToOdClamp_eq (ar : Arithmetic) (period : cal.PeriodArithmetic)
    (h : level = 0 ∨ Valid level) :
    ar.convertLevelsToOdClamp (some level) cal.lraPeriod =
      UInt32.ofNat (clampOf level (freqPeriodFormula cal.lraPeriod).toNat) := by
  have low := (HwCal.radicand_pos_iff _).mp period.radicand
  obtain ⟨nonneg, high⟩ := level_bounds h
  obtain ⟨nonneg', small⟩ := quotient_le low nonneg high
  rw [period.convertLevelsToOdClamp, toUInt32_of_bounds nonneg' small, clampOf_eq]

/-! ## The clamps of the constructor -/

/-- The solver of the effects: linear coefficients leave the last two at zero. -/
def effectSolution (effectCoeffs : Coeffs) (targetG : ℝ) : Option ℝ :=
  if effectCoeffs.c = 0 ∧ effectCoeffs.d = 0 then
    targetGToVlevelsUnderLinearEquation effectCoeffs targetG
  else targetGToVlevelsUnderCubicEquation effectCoeffs targetG

/-- Where an effect's equation has a solution the constructor takes it for the level. -/
lemma effectLevel_eq (coded : Coded ar) {effectCoeffs : Coeffs} {i : Fin 5}
    (solved : effectSolution effectCoeffs (cal.EFFECT_TARGET_G i) = some level) :
    cal.effectLevel ar effectCoeffs i = level := by
  unfold effectSolution at solved
  by_cases linear : effectCoeffs.c = 0 ∧ effectCoeffs.d = 0
  · rw [if_pos linear] at solved
    exact (if_pos linear).trans (coded.linear solved)
  · rw [if_neg linear] at solved
    exact (if_neg linear).trans (coded.cubic solved)

/-- The clamp of an effect, if its equation is solved. -/
theorem effectClamp_eq (coded : Coded ar) (period : cal.PeriodArithmetic) {effectCoeffs : Coeffs}
    (h : cal.effectCoeffs = some effectCoeffs) {i : Fin 5}
    (solved : effectSolution effectCoeffs (cal.EFFECT_TARGET_G i) = some level)
    (good : level = 0 ∨ Valid level) :
    cal.effectClamp ar i =
      UInt32.ofNat (clampOf level (freqPeriodFormula cal.lraPeriod).toNat) := by
  rw [HwCal.effectClamp, h]
  show ar.convertLevelsToOdClamp (some (cal.effectLevel ar effectCoeffs i)) cal.lraPeriod = _
  rw [effectLevel_eq coded solved, convertLevelsToOdClamp_eq ar period good]

end

end Redfin.Drv2624
