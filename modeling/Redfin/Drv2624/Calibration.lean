import Mathlib.Analysis.SpecialFunctions.Pow.Real
import Redfin.Drv2624.Hal

/-!
# The constructor

What `Vibrator::Vibrator` computes from the calibration data. Floating point is exact real
arithmetic here, with the decimal constants as exact numbers; only the conversion of the maximal
voltage to `float` rounds. A value that is infinite or not a number is none. The two equation
solvers are parameters of the constructor (`Coded` says that they are the functions of the source),
and so is what the language leaves undefined, the conversion to `uint32_t` of a value it cannot
represent. The constructor's own register writes are left out; none of them is to a node that `on`
or `perform` writes in the dynamic configuration.
-/

namespace Redfin.Drv2624

abbrev Coeffs := Fin 4 → ℝ

/-- What `HwCal` supplies; none where a getter without a default returns false. -/
structure HwCal where
  lraPeriod : UInt32
  closeLoopThreshold : UInt32
  dynamicConfig : Bool
  longFrequencyShift : UInt32
  shortVoltageMax : UInt32
  longVoltageMax : UInt32
  devHwVer : String
  effectCoeffs : Option Coeffs
  effectTargetG : Option (Fin 5 → ℝ)
  effectShape : UInt32
  steadyCoeffs : Option Coeffs
  steadyTargetG : Option (Fin 3 → ℝ)
  steadyAmpMax : Option ℝ
  steadyShape : UInt32
  clickDuration : UInt32
  tickDuration : UInt32
  doubleClickDuration : UInt32
  heavyClickDuration : UInt32

/-- The solvers, and the conversion of an integer, or of a value that is none, that `uint32_t`
cannot represent. -/
structure Arithmetic where
  targetGToVlevelsUnderLinearEquation : Coeffs → ℝ → ℝ
  targetGToVlevelsUnderCubicEquation : Coeffs → ℝ → ℝ
  outOfRange : Option ℤ → UInt32

/-- For the calibrations whose equations are not solved. -/
def sampleArithmetic : Arithmetic := ⟨fun _ _ => 0, fun _ _ => 0, fun _ => 0⟩

/-- The conversion of `uint32_t` to `float`: 24 digits, with halves rounded to the even one. -/
def floatOf (n : UInt32) : ℕ :=
  let unit := 2 ^ (n.toNat.log2 - 23)
  let digits := n.toNat / unit
  let rest := n.toNat % unit
  unit * if 2 * rest > unit ∨ 2 * rest = unit ∧ digits % 2 = 1 then digits + 1 else digits

example : floatOf 16777216 = 16777216 ∧ floatOf 16777219 = 16777220 ∧
    floatOf 4294967295 = 4294967296 := by decide

/-- A number of at most 24 digits is a `float` as it is. -/
lemma floatOf_of_lt {n : UInt32} (h : n.toNat < 2 ^ 24) : floatOf n = n.toNat := by
  have digits : n.toNat.log2 - 23 = 0 := by
    by_cases zero : n.toNat = 0
    · rw [zero]
      exact rfl
    · have := (Nat.log2_lt zero).mpr h
      omega
  simp [floatOf, digits, Nat.mod_one]

noncomputable section

def MAX_VOLTAGE : ℝ := 3.2

/-- A division by zero, which traps or not, is a quotient of zero here. -/
def freqPeriodFormula (period : UInt32) : UInt32 := 1000000000 / (24615 * period)

/-- The interpolation's polynomial, at a fraction of the maximal voltage. -/
def vLevelsToTargetGUnderCubicEquation (inputCoeffs : Coeffs) (vLevel : ℝ) : ℝ :=
  let inputVoltage := vLevel * MAX_VOLTAGE
  inputCoeffs 0 * inputVoltage ^ 3 + inputCoeffs 1 * inputVoltage ^ 2 +
    inputCoeffs 2 * inputVoltage + inputCoeffs 3

/-! The coefficients of `f(x) = ax^3 + bx^2 + cx + d`. -/

namespace Coeffs

variable (inputCoeffs : Coeffs)

def a : ℝ := inputCoeffs 0
def b : ℝ := inputCoeffs 1
def c : ℝ := inputCoeffs 2
def d : ℝ := inputCoeffs 3

end Coeffs

namespace Arithmetic

variable (ar : Arithmetic)

/-- `round` and the conversion to `uint32_t`. -/
def toUInt32 (x : Option ℝ) : UInt32 :=
  match x.map round with
  | some n => if 0 ≤ n ∧ n < UInt32.size then UInt32.ofNat n.toNat else ar.outOfRange n
  | none => ar.outOfRange none

/-- The quotient is not a number or infinite unless the radicand is positive. -/
def convertLevelsToOdClamp (voltageLevel : Option ℝ) (lraPeriod : UInt32) : UInt32 :=
  let radicand : ℝ := 1 - (freqPeriodFormula lraPeriod).toNat * 8 / 10000
  ar.toUInt32 <| voltageLevel.bind fun level =>
    if 0 < radicand then some (level / (21.32 / 1000 * √radicand)) else none

end Arithmetic

/-- The boundary protection: a clamp outside the range becomes its upper end. -/
def protectClamp (max clamp : UInt32) : UInt32 := if clamp ≤ 0 ∨ clamp > max then max else clamp

namespace HwCal

variable (cal : HwCal)

/-- The hardware of an early device, with target G values of its own. -/
def isEarly : Bool :=
  "EVT".toList <:+: cal.devHwVer.toList ∨ "PROTO".toList <:+: cal.devHwVer.toList

/-- `EFFECT_TARGET_G` as the loop over the effect levels uses it. -/
def EFFECT_TARGET_G : Fin 5 → ℝ :=
  match cal.effectTargetG with
  | some g => g
  | none =>
    if cal.isEarly then ![0.15, 0.27, 0.35, 0.54, 0.65] else ![0.275, 0.55, 0.6, 0.9, 1.12]

/-- `STEADY_TARGET_G` as the levels of the steady vibration use it. -/
def STEADY_TARGET_G : Fin 3 → ℝ :=
  match cal.steadyTargetG with
  | some g => g
  | none => if cal.isEarly then ![1.2, 1.145, 0.4] else ![2.15, 1.145, 1.3]

/-- The voltage level solved for an effect: linear coefficients leave the last two at zero. -/
def effectLevel (ar : Arithmetic) (effectCoeffs : Coeffs) (i : Fin 5) : ℝ :=
  if effectCoeffs 2 = 0 ∧ effectCoeffs 3 = 0 then
    ar.targetGToVlevelsUnderLinearEquation effectCoeffs (cal.EFFECT_TARGET_G i)
  else ar.targetGToVlevelsUnderCubicEquation effectCoeffs (cal.EFFECT_TARGET_G i)

/-- A clamp of the effects as the loop computes it. -/
def effectClamp (ar : Arithmetic) (i : Fin 5) : UInt32 :=
  match cal.effectCoeffs with
  | some effectCoeffs =>
    ar.convertLevelsToOdClamp (some (cal.effectLevel ar effectCoeffs i)) cal.lraPeriod
  | none => cal.shortVoltageMax

/-- The voltage level of a steady vibration: the last one is interpolated. -/
def steadyLevel (ar : Arithmetic) (steadyCoeffs : Coeffs) (i : Fin 3) : Option ℝ :=
  if i = 2 then
    let low := vLevelsToTargetGUnderCubicEquation steadyCoeffs 0.2
    let high := vLevelsToTargetGUnderCubicEquation steadyCoeffs 0.6
    if high - low = 0 then none
    else some ((cal.STEADY_TARGET_G 2 - low) * 0.4 * MAX_VOLTAGE / (high - low) + 0.2 * MAX_VOLTAGE)
  else some (ar.targetGToVlevelsUnderCubicEquation steadyCoeffs (cal.STEADY_TARGET_G i))

/-- The clamp of a steady vibration without coefficients, as a `float`: the ratio of the amplitudes,
of which nothing keeps it below the maximum, or the maximum, which the conditional converts. -/
def steadyAmplitude (i : Fin 3) : Option ℝ :=
  match cal.steadyAmpMax with
  | some ampMax =>
    if ampMax = 0 then none else some (cal.STEADY_TARGET_G i / ampMax * floatOf cal.longVoltageMax)
  | none => some (floatOf cal.longVoltageMax)

def steadyRatio (ar : Arithmetic) (i : Fin 3) : UInt32 := ar.toUInt32 (cal.steadyAmplitude i)

/-- `mSteadyTargetOdClamp`; without coefficients its middle element is never assigned. -/
def steadyClamp (ar : Arithmetic) (i : Fin 3) : Option UInt32 :=
  match cal.steadyCoeffs with
  | some steadyCoeffs =>
    some <| protectClamp cal.longVoltageMax <|
      ar.convertLevelsToOdClamp (cal.steadyLevel ar steadyCoeffs i) cal.lraPeriod
  | none => if i = 1 then none else some (cal.steadyRatio ar i)

/-- The constructor assigns the first and the last steady clamp. -/
lemma steadyClamp_isSome (ar : Arithmetic) {i : Fin 3} (hi : i ≠ 1) :
    (cal.steadyClamp ar i).isSome := by
  unfold steadyClamp
  split
  · exact rfl
  · rw [if_neg hi]
    exact rfl

/-- The wave shape of a configuration; the default of an effect is a sine, 1, and that of a steady
vibration a square, 0. -/
def shape : Config → UInt32
  | .effect => if cal.effectShape = -1 then 1 else cal.effectShape
  | .steady => if cal.steadyShape = -1 then 0 else cal.steadyShape

/-- What the constructor sets up in the dynamic configuration. -/
def dynamic (ar : Arithmetic) : Dynamic where
  shape := cal.shape
  mEffectTargetOdClamp :=
    Function.update (cal.effectClamp ar) 4
      (protectClamp cal.shortVoltageMax (cal.effectClamp ar 4))
  mSteadyTargetOdClamp := cal.steadyClamp ar
  mSteadyOlLraPeriod := cal.lraPeriod
  mSteadyOlLraPeriodShift :=
    freqPeriodFormula (freqPeriodFormula cal.lraPeriod - cal.longFrequencyShift)
  assigned _ hi := cal.steadyClamp_isSome ar hi

end HwCal

/-- `Vibrator::Vibrator`. -/
def Vibrator.new (ar : Arithmetic) (cal : HwCal) : Vibrator where
  mCloseLoopThreshold := cal.closeLoopThreshold
  mClickDuration := cal.clickDuration
  mTickDuration := cal.tickDuration
  mDoubleClickDuration := cal.doubleClickDuration
  mHeavyClickDuration := cal.heavyClickDuration
  dynamic := if cal.dynamicConfig then some (cal.dynamic ar) else none

end

end Redfin.Drv2624
