import Redfin.Drv2624.Levels
import Redfin.Drv2624.Reads

/-!
# The over-drive clamps

When the clamps that reach the register stay within the maximal voltages. The boundary protection
of the constructor covers the steady levels solved from coefficients and the fifth effect level
only: the lower bound of the cold side is a constant, a ratio of amplitudes is as large as its
target, and an effect level below the fifth is whatever its target G is converted to. `Within` says
what this asks of the calibration and of the readings, call by call.
-/

namespace Redfin.Drv2624

open Program

/-! ## A rounded value against a maximum -/

/-- `round` stays at or below a number exactly for the values below its upper half step. -/
lemma round_le_iff (x : ℝ) (n : ℕ) : round x ≤ n ↔ x < n + 0.5 := by
  have half : (0.5 : ℝ) = 1 / 2 := by norm_num
  rw [half]
  unfold round
  split
  · rw [← Int.lt_add_one_iff, Int.floor_lt]
    push_cast
    constructor <;> intro h <;> linarith
  · rename_i neg
    have floor : 0 ≤ ⌊-x + 1 / 2⌋ := Int.floor_nonneg.mpr (by linarith)
    have cast : (0 : ℝ) ≤ n := n.cast_nonneg
    exact iff_of_true (by omega) (by linarith)

/-- Halves are rounded away from zero. -/
lemma round_nonneg_iff (x : ℝ) : 0 ≤ round x ↔ -0.5 < x := by
  have half : (0.5 : ℝ) = 1 / 2 := by norm_num
  rw [half]
  unfold round
  split
  · exact iff_of_true (Int.floor_nonneg.mpr (by linarith)) (by linarith)
  · rw [neg_nonneg, ← Int.lt_add_one_iff, Int.floor_lt]
    push_cast
    constructor <;> intro h <;> linarith

namespace Arithmetic

variable (ar : Arithmetic)

/-- A value that is to be converted is small enough: it is below the upper half step of the
maximum, or `uint32_t` does not represent it, and what the machine makes of it is. -/
def Fits (max : UInt32) : Option ℝ → Prop
  | some x =>
    if -0.5 < x ∧ x < (UInt32.size - 1 : ℕ) + 0.5 then x < max.toNat + 0.5
    else ar.outOfRange (some (round x)) ≤ max
  | none => ar.outOfRange none ≤ max

/-- What is converted is within the maximum exactly if it fits. -/
lemma toUInt32_le_iff (max : UInt32) (x : Option ℝ) : ar.toUInt32 x ≤ max ↔ ar.Fits max x := by
  cases x with
  | none => exact Iff.rfl
  | some x =>
    show (if 0 ≤ round x ∧ round x < UInt32.size then UInt32.ofNat (round x).toNat
      else ar.outOfRange (some (round x))) ≤ max ↔ _
    have range : (0 ≤ round x ∧ round x < UInt32.size) ↔
        -0.5 < x ∧ x < (UInt32.size - 1 : ℕ) + 0.5 := by
      rw [round_nonneg_iff, ← round_le_iff, ← Int.lt_add_one_iff]
      exact Iff.rfl
    rw [Fits]
    by_cases h : 0 ≤ round x ∧ round x < UInt32.size
    · have size : (round x).toNat < UInt32.size := by omega
      rw [if_pos h, if_pos (range.mp h), ← round_le_iff, UInt32.le_iff_toNat_le,
        UInt32.toNat_ofNat_of_lt' size]
      omega
    · rw [if_neg h, if_neg fun x => h (range.mpr x)]

/-- A maximum that a `float` represents fits itself. -/
lemma fits_self {max : UInt32} (h : max.toNat < 2 ^ 24) : ar.Fits max (some (floatOf max)) := by
  rw [Fits, floatOf_of_lt h]
  have nonneg : (0 : ℝ) ≤ max.toNat := Nat.cast_nonneg _
  have small : (max.toNat : ℝ) < (UInt32.size - 1 : ℕ) :=
    Nat.cast_lt.mpr (h.trans (by decide))
  have half : (0 : ℝ) < 0.5 := by norm_num
  have low : -0.5 < (max.toNat : ℝ) := by linarith
  have high : (max.toNat : ℝ) < (UInt32.size - 1 : ℕ) + 0.5 := small.trans (by linarith)
  rw [if_pos ⟨low, high⟩]
  linarith

/-- A value from the upper half step of the maximum on does not, while `uint32_t` represents it. -/
lemma not_fits {max : UInt32} {x : ℝ} (low : max.toNat + 0.5 ≤ x) (high : x ≤ 10000) :
    ¬ar.Fits max (some x) := by
  have nonneg : (0 : ℝ) ≤ max.toNat := Nat.cast_nonneg _
  have size : (10000 : ℝ) < (UInt32.size - 1 : ℕ) := by
    rw [show UInt32.size - 1 = 4294967295 from rfl]
    norm_num
  have half : (0 : ℝ) < 0.5 := by norm_num
  have above : -0.5 < x := by linarith
  have below : x < (UInt32.size - 1 : ℕ) + 0.5 := by linarith
  rw [Fits, if_pos ⟨above, below⟩]
  exact not_lt.mpr low

end Arithmetic

/-- The boundary protection leaves no clamp above the maximum. -/
lemma protectClamp_le (max clamp : UInt32) : protectClamp max clamp ≤ max := by
  unfold protectClamp
  split
  · exact UInt32.le_refl max
  · rename_i h
    exact UInt32.not_lt.mp fun lt => h (.inr lt)

namespace HwCal

variable (cal : HwCal) (ar : Arithmetic)

/-- The maximal voltage of a mode: that of long vibrations, or that of the effects. -/
def clampMax : Mode → UInt32
  | .rtp => cal.longVoltageMax
  | .waveform => cal.shortVoltageMax

/-- What the calibration has to satisfy for a steady level on the warm side. With coefficients it is
nothing; without, the ratio of the amplitudes, or the maximum as a `float`, has to fit. -/
def SteadyWithin (i : Fin 3) : Prop :=
  match cal.steadyCoeffs, cal.steadyAmpMax with
  | some _, _ => True
  | none, some ampMax =>
    ar.Fits cal.longVoltageMax <|
      if ampMax = 0 then none
      else some (cal.STEADY_TARGET_G i / ampMax * floatOf cal.longVoltageMax)
  | none, none => ar.Fits cal.longVoltageMax (some (floatOf cal.longVoltageMax))

/-- What it has to satisfy for the level of an effect: the voltage level that its target G asks for,
converted at the period of the motor, has to fit, unless there are no coefficients or the level is
the fifth. -/
def EffectWithin (i : Fin 5) : Prop :=
  ∀ effectCoeffs, cal.effectCoeffs = some effectCoeffs → i ≠ Fin.last 4 →
    let radicand : ℝ := 1 - (freqPeriodFormula cal.lraPeriod).toNat * 8.0 / 10000.0
    ar.Fits cal.shortVoltageMax <|
      if 0 < radicand then
        some (cal.effectLevel ar effectCoeffs i / (21.32 / 1000.0 * √radicand))
      else none

/-- A steady clamp is within the maximum exactly as the calibration says. -/
lemma steadyClamp_le_iff {i : Fin 3} {clamp : UInt32} (h : cal.steadyClamp ar i = some clamp) :
    clamp ≤ cal.longVoltageMax ↔ cal.SteadyWithin ar i := by
  unfold steadyClamp at h
  unfold SteadyWithin
  cases hs : cal.steadyCoeffs with
  | some steadyCoeffs =>
    rw [hs] at h
    obtain rfl := Option.some.inj h
    exact iff_of_true (protectClamp_le _ _) trivial
  | none =>
    rw [hs] at h
    obtain ⟨-, e⟩ := Option.ite_none_left_eq_some.mp h
    obtain rfl := Option.some.inj e
    rw [steadyRatio, Arithmetic.toUInt32_le_iff, steadyAmplitude]
    cases cal.steadyAmpMax <;> exact Iff.rfl

/-- The fifth level is protected. -/
lemma effectTarget_top :
    (cal.dynamic ar).mEffectTargetOdClamp 4 =
      protectClamp cal.shortVoltageMax (cal.effectClamp ar 4) := by
  show Function.update (cal.effectClamp ar) 4
    (protectClamp cal.shortVoltageMax (cal.effectClamp ar 4)) 4 = _
  rw [Function.update_self]

/-- The levels below the fifth are left as the loop computes them. -/
lemma effectTarget_of_ne {i : Fin 5} (low : i ≠ 4) :
    (cal.dynamic ar).mEffectTargetOdClamp i = cal.effectClamp ar i :=
  Function.update_of_ne low _ _

/-- An effect clamp is within the maximum exactly as the calibration says. -/
lemma effectTarget_le_iff (i : Fin 5) :
    (cal.dynamic ar).mEffectTargetOdClamp i ≤ cal.shortVoltageMax ↔ cal.EffectWithin ar i := by
  by_cases top : i = 4
  · rw [top, effectTarget_top]
    exact iff_of_true (protectClamp_le _ _) fun _ _ low => absurd rfl low
  · rw [effectTarget_of_ne cal ar top, effectClamp]
    have thousand : (1000.0 : ℝ) = 1000 := by norm_num
    have eight : (8.0 : ℝ) = 8 := by norm_num
    have tenThousand : (10000.0 : ℝ) = 10000 := by norm_num
    rw [EffectWithin, thousand, eight, tenThousand]
    cases cal.effectCoeffs with
    | none =>
      exact iff_of_true (UInt32.le_refl _) fun _ h => absurd h.symm (Option.some_ne_none _)
    | some effectCoeffs =>
      show ar.toUInt32 _ ≤ _ ↔ _
      rw [Arithmetic.toUInt32_le_iff]
      refine ⟨fun fits coeffs h _ => ?_, fun within => within _ rfl top⟩
      obtain rfl := Option.some.inj h
      exact fits

/-- What a call after a run asks of the calibration, if it is accepted: on the cold side that the
lower bound is within the maximum, else that the level it selects is. -/
def Within (h : List Event) : Event → Prop
  | (.on timeoutMs false, a) =>
    a.write (.duration timeoutMs.toUInt32) →
      if cold (h ++ [(.on timeoutMs false, a)]) then
        STEADY_VOLTAGE_LOWER_BOUND ≤ cal.longVoltageMax
      else cal.SteadyWithin ar (warmTarget timeoutMs a)
  | (.perform effect strength false, a) =>
    ∀ sequence timeMS (i : Fin 5),
      (Vibrator.new ar cal).plan effect strength = some (sequence, timeMS, i.val) →
        a.write (.duration timeMS) → cal.EffectWithin ar i
  | _ => True

end HwCal

/-! ## The clamp that a call writes -/

namespace Vibrator

variable {v : Vibrator} {d : Dynamic} {a : Answers} {s : SteadyConfig} {clamp : UInt32} {mode : Mode}

/-- A call writes a clamp and the mode to use it in. -/
def Drives (v : Vibrator) (s : SteadyConfig) (e : Event) (clamp : UInt32) (mode : Mode) : Prop :=
  .odClamp clamp ∈ v.written s e ∧ .mode mode ∈ v.written s e

/-- `onMode` writes the clamp it reads, with its own mode, once the duration is accepted. -/
lemma drives_onMode {timeoutMs : UInt32} {mode' : Mode} {config : Config} {i : ℕ}
    (hd : v.dynamic = some d) :
    (.odClamp clamp ∈ (onModeOps v a s timeoutMs mode' config i).filterMap Op.write? ∧
        .mode mode ∈ (onModeOps v a s timeoutMs mode' config i).filterMap Op.write?) ↔
      a.write (.duration timeoutMs) ∧ mode = mode' ∧
        clamp = (d.element s config i).getD a.stray := by
  cases ok : a.write (.duration timeoutMs) with
  | true =>
    rw [written_onMode hd ok]
    simp [and_comm]
  | false => simp [onModeOps, ok, Op.write?]

/-- A steady vibration uses the clamp of the side that its own reading leaves the HAL on. -/
lemma drives_on (hd : v.dynamic = some d) (h : List Event) (timeoutMs : Int32) :
    v.Drives (v.after h) (.on timeoutMs false, a) clamp mode ↔
      a.write (.duration timeoutMs.toUInt32) ∧ mode = .rtp ∧
        if cold (h ++ [(.on timeoutMs false, a)]) then clamp = STEADY_VOLTAGE_LOWER_BOUND
        else d.mSteadyTargetOdClamp (warmTarget timeoutMs a) = some clamp := by
  rw [Drives, written_eq, callOps, if_neg Bool.false_ne_true, hd]
  rw [drives_onMode hd, after_eq hd h, settle_side _ h timeoutMs a, steadyOffset_eq,
    element_side _ _ _ warmTarget_of_cold]
  refine and_congr_right fun _ => and_congr_right fun _ => ?_
  split
  · exact Iff.rfl
  · obtain ⟨target, ht⟩ :=
      Option.isSome_iff_exists.mp (d.assigned _ (warmTarget_ne timeoutMs a))
    rw [ht, Option.some_inj]
    exact eq_comm

/-- An effect uses the clamp of its level. -/
lemma drives_perform (hd : v.dynamic = some d) (effect : Effect) (strength : EffectStrength) :
    v.Drives s (.perform effect strength false, a) clamp mode ↔
      ∃ sequence timeMS, ∃ i : Fin 5, v.plan effect strength = some (sequence, timeMS, i.val) ∧
        a.write (.duration timeMS) ∧ mode = .waveform ∧ clamp = d.mEffectTargetOdClamp i := by
  rw [Drives, written_eq, callOps, if_neg Bool.false_ne_true]
  cases plan : v.plan effect strength with
  | none => simp
  | some p =>
    obtain ⟨sequence, timeMS, i⟩ := p
    have bound := plan_lt plan
    have later (w : Write) (hw : w ≠ .sequencer sequence) :
        w ∈ (effectOps v a s sequence timeMS i).filterMap Op.write? ↔
          w ∈ (onModeOps v a s timeMS .waveform .effect i).filterMap Op.write? :=
      List.mem_cons.trans (or_iff_right hw)
    rw [later _ Write.noConfusion, later _ Write.noConfusion, drives_onMode hd,
      element_effect _ _ bound]
    constructor
    · rintro ⟨ok, rfl, rfl⟩
      exact ⟨sequence, timeMS, ⟨i, bound⟩, rfl, ok, rfl, rfl⟩
    · rintro ⟨_, _, i', eq, ok, rfl, rfl⟩
      cases eq
      exact ⟨ok, rfl, rfl⟩

/-- Only `on` and `perform` write a clamp, and neither of them with a callback. -/
lemma drives_call {e : Event} (h : v.Drives s e clamp mode) :
    (∃ timeoutMs, e.1 = .on timeoutMs false) ∨
      ∃ effect strength, e.1 = .perform effect strength false := by
  obtain ⟨c, a⟩ := e
  have hw := h.1
  rw [written_eq] at hw
  cases c with
  | on timeoutMs callback =>
    cases callback with
    | true => cases hw
    | false => exact .inl ⟨timeoutMs, rfl⟩
  | off => cases List.mem_singleton.mp hw
  | setAmplitude amplitude =>
    rw [callOps] at hw
    split at hw
    · cases hw
    · cases List.mem_singleton.mp hw
  | perform effect strength callback =>
    cases callback with
    | true => cases hw
    | false => exact .inr ⟨effect, strength, rfl⟩
  | dump fd =>
    rw [callOps] at hw
    split at hw <;> cases hw

end Vibrator

/-! ## Runs -/

namespace HwCal

variable {cal : HwCal} {ar : Arithmetic}

/-- What a call writes is within the maximum exactly if the call is within what the calibration
allows. -/
lemma drives_le_iff (hc : cal.dynamicConfig = true) (h : List Event) (e : Event) :
    (∀ clamp mode, (Vibrator.new ar cal).Drives ((Vibrator.new ar cal).after h) e clamp mode →
      clamp ≤ cal.clampMax mode) ↔ cal.Within ar h e := by
  have hd : (Vibrator.new ar cal).dynamic = some (cal.dynamic ar) := by
    rw [Vibrator.new, hc]
    exact rfl
  have quiet {e : Event} (other : (∀ timeoutMs, e.1 ≠ .on timeoutMs false) ∧
      ∀ effect strength, e.1 ≠ .perform effect strength false) (clamp : UInt32) (mode : Mode)
      (drives : (Vibrator.new ar cal).Drives ((Vibrator.new ar cal).after h) e clamp mode) :
      clamp ≤ cal.clampMax mode := by
    rcases Vibrator.drives_call drives with ⟨timeoutMs, eq⟩ | ⟨effect, strength, eq⟩
    · exact absurd eq (other.1 timeoutMs)
    · exact absurd eq (other.2 effect strength)
  obtain ⟨c, a⟩ := e
  cases c with
  | on timeoutMs callback =>
    cases callback with
    | true => exact iff_of_true (quiet (by simp)) trivial
    | false =>
      simp only [Vibrator.drives_on hd, Within]
      constructor
      · intro le ok
        split
        · rename_i side
          exact le _ _ ⟨ok, rfl, (if_pos side).mpr rfl⟩
        · rename_i side
          have some := (cal.dynamic ar).assigned _ (Vibrator.warmTarget_ne timeoutMs a)
          obtain ⟨target, ht⟩ := Option.isSome_iff_exists.mp some
          exact (cal.steadyClamp_le_iff ar ht).mp (le _ _ ⟨ok, rfl, (if_neg side).mpr ht⟩)
      · rintro within clamp mode ⟨ok, rfl, eq⟩
        have allowed := within ok
        split at eq
        · rename_i side
          rw [if_pos side] at allowed
          exact eq ▸ allowed
        · rename_i side
          rw [if_neg side] at allowed
          exact (cal.steadyClamp_le_iff ar eq).mpr allowed
  | off => exact iff_of_true (quiet (by simp)) trivial
  | setAmplitude amplitude => exact iff_of_true (quiet (by simp)) trivial
  | perform effect strength callback =>
    cases callback with
    | true => exact iff_of_true (quiet (by simp)) trivial
    | false =>
      simp only [Vibrator.drives_perform hd, Within]
      constructor
      · intro le sequence timeMS i plan ok
        exact (cal.effectTarget_le_iff ar i).mp (le _ _ ⟨sequence, timeMS, i, plan, ok, rfl, rfl⟩)
      · rintro within clamp mode ⟨sequence, timeMS, i, plan, ok, rfl, rfl⟩
        exact (cal.effectTarget_le_iff ar i).mpr (within sequence timeMS i plan ok)
  | dump fd => exact iff_of_true (quiet (by simp)) trivial

/-- Every clamp that a run writes is within the maximal voltage of the mode it is used in. -/
def Bounded (cal : HwCal) (ar : Arithmetic) (h : List Event) : Prop :=
  ∀ pre e post, h = pre ++ e :: post → ∀ clamp mode,
    (Vibrator.new ar cal).Drives ((Vibrator.new ar cal).after pre) e clamp mode →
      clamp ≤ cal.clampMax mode

/-- A call alone is a run. -/
lemma Bounded.within (hc : cal.dynamicConfig = true) {e : Event} (h : cal.Bounded ar [e]) :
    cal.Within ar [] e :=
  (drives_le_iff hc [] e).mp (h [] e [] rfl)

/-! ## Calibrations that exceed their maxima -/

/-- A maximal voltage for long vibrations below the lower bound. -/
def lowCal : HwCal := { sampleCal with longVoltageMax := 80 }

/-- A steady target above the maximal amplitude. -/
noncomputable def ampCal : HwCal :=
  { sampleCal with steadyTargetG := some fun _ => 2.0, steadyAmpMax := some 1 }

/-- A target of 0.6 G for a motor that needs four volts for one. -/
noncomputable def levelCal : HwCal :=
  { sampleCal with effectCoeffs := some ![0.25, 0, 0, 0], effectTargetG := some fun _ => 0.6 }

/-- The ratio of the amplitudes is 2. -/
lemma not_steadyWithin_ampCal : ¬ampCal.SteadyWithin sampleArithmetic 0 := by
  intro within
  have fits : sampleArithmetic.Fits 107 (if (1 : ℝ) = 0 then none else some (2.0 / 1 * (107 : ℕ))) :=
    within
  rw [if_neg one_ne_zero] at fits
  refine sampleArithmetic.not_fits ?_ ?_ fits
  · rw [show UInt32.toNat 107 = 107 from rfl]
    norm_num
  · norm_num

/-- 2.4 volts are an output of the solvers. -/
lemma valid_levelCal : Valid 2.4 := by
  unfold Valid FLOAT_EPS MAX_VOLTAGE
  norm_num

/-- They are what the solver of the linear equation returns for the target. -/
lemma effectSolution_levelCal :
    effectSolution ![0.25, 0, 0, 0] (levelCal.EFFECT_TARGET_G 2) = some 2.4 := by
  have quotient : ((0.6 : ℝ) - 0) / 0.25 = 2.4 := by norm_num
  rw [effectSolution, if_pos ⟨rfl, rfl⟩, targetGToVlevelsUnderLinearEquation]
  show firstValid [div? (0.6 - 0) 0.25] = _
  rw [div?_of_ne (by norm_num), quotient, firstValid, if_pos valid_levelCal]

/-- Their clamp at the default period is above the default maximum. -/
lemma clampOf_levelCal : 107 < clampOf 2.4 155 ∧ clampOf 2.4 155 ≤ 10000 := by
  have low : (155 : ℕ) < 1250 := by decide
  obtain ⟨nonneg, high⟩ := level_bounds (.inr valid_levelCal)
  obtain ⟨-, small⟩ := quotient_le low nonneg high
  have pos : (0 : ℝ) < 1 - (155 : ℕ) * 8 / 10000 := (HwCal.radicand_pos_iff 155).mpr low
  have root : √(1 - (155 : ℕ) * 8 / 10000 : ℝ) ≤ 1 := Real.sqrt_le_one.mpr (by norm_num)
  have large : (107 : ℕ) + 0.5 ≤ 2.4 / (21.32 / 1000 * √(1 - (155 : ℕ) * 8 / 10000 : ℝ)) := by
    rw [le_div_iff₀ (by positivity)]
    norm_num at root ⊢
    linarith
  have above := mt (round_le_iff _ 107).mp (not_lt.mpr large)
  have below := (round_le_iff _ 10000).mpr (small.trans_lt (by norm_num))
  rw [clampOf_eq]
  omega

/-- The third effect level is not protected. -/
lemma not_effectWithin_levelCal : ¬levelCal.EffectWithin codedArithmetic 2 := by
  rw [← HwCal.effectTarget_le_iff]
  have frequency : (freqPeriodFormula levelCal.lraPeriod).toNat = 155 := by decide
  have period : levelCal.PeriodArithmetic := by
    refine ⟨by decide, by decide, by decide, by decide, by decide, ?_⟩
    rw [HwCal.radicand_pos_iff, frequency]
    decide
  have clamp := effectClamp_eq coded_codedArithmetic period rfl effectSolution_levelCal
    (.inr valid_levelCal)
  obtain ⟨above, below⟩ := clampOf_levelCal
  rw [HwCal.effectTarget_of_ne _ _ (by decide), clamp, frequency, UInt32.le_iff_toNat_le,
    UInt32.toNat_ofNat_of_lt' (below.trans_lt (by decide))]
  exact not_le.mpr above

end HwCal

end Redfin.Drv2624
