import Mathlib.Algebra.Order.Floor.Defs
import Mathlib.Data.Rat.Floor
import Redfin.Drv2624.Basic

/-!
# The functions of the vibrator HAL

`Vibrator.cpp`, function by function. A callback is a flag: whether the client passed one. Where
`onMode` is given a configuration, the pointer to it is null exactly in the static configuration.
-/

namespace Redfin.Drv2624

open Program

/-- `round` of the C library: to the nearest integer, halves away from zero. -/
def round {α : Type} [Field α] [LinearOrder α] [FloorRing α] (x : α) : ℤ :=
  if 0 ≤ x then ⌊x + 1 / 2⌋ else -⌊-x + 1 / 2⌋

namespace Vibrator

variable (v : Vibrator)

/-- `setActivate`, and the status that its result gives. -/
def activate (value : Bool) : Hal Status := do
  if !(← set (.activate value)) then return .error .illegalState
  return .ok ()

/-- The writes of a configuration that is not null. -/
def applyConfig (config : Config) (volOffset : ℕ) : Hal Unit :=
  match v.dynamic with
  | some d => do
    let _ ← set (.lraWaveShape (d.shape config))
    let _ ← set (.odClamp (← call (.readOdClamp config volOffset)))
    let _ ← set (.olLraPeriod (← call (.readOlLraPeriod config)))
  | none => return ()

/-- The value of `ctrl_loop`: open-loop for a short click for over-drive, closed-loop for a long
notification for stability. -/
def loopMode (timeoutMs : UInt32) (mode : Mode) : LoopControl :=
  if mode = .rtp ∧ timeoutMs > v.mCloseLoopThreshold then .CLOSE else .OPEN

/-- `on` with a mode, a configuration and the level of its clamp. -/
def onMode (timeoutMs : UInt32) (mode : Mode) (config : Config) (volOffset : ℕ) : Hal Status := do
  let _ ← set (.ctrlLoop (v.loopMode timeoutMs mode).toUnderlying)
  if !(← set (.duration timeoutMs)) then return .error .illegalState
  let _ ← set (.mode mode)
  v.applyConfig config volOffset
  activate true

/-- The temperature protection of `on`; the level of the steady clamp to use. -/
def protect (d : Dynamic) (timeoutMs : Int32) : Hal ℕ := do
  -- the variable keeps its initial value where there is nothing to read
  let temperature := (← call .getPATemp).getD 0
  if temperature > TEMP_UPPER_BOUND then
    call (.assignOdClamp .steadyTargetOdClamp)
    call (.assignOlLraPeriod d.mSteadyOlLraPeriod)
    if timeoutMs > VIBRATION_MOTION_TIME_THRESHOLD then
      if !(← call .motionAwareness) then return 2
    return 0
  else if temperature < TEMP_LOWER_BOUND then
    call (.assignOdClamp .steadyVoltageLowerBound)
    call (.assignOlLraPeriod d.mSteadyOlLraPeriodShift)
    return 0
  else
    return 0

def on (timeoutMs : Int32) (callback : Bool) : Hal Status := do
  if callback then return .error .unsupportedOperation
  match v.dynamic with
  | some d =>
    let volOffset ← protect d timeoutMs
    v.onMode timeoutMs.toUInt32 .rtp .steady volOffset
  | none => v.onMode timeoutMs.toUInt32 .rtp .steady 0

def off : Hal Status := activate false

/-- `setAmplitude`; a float is the rational number it stands for, and the product, which the source
rounds to a float, is taken as exact. -/
def setAmplitude (amplitude : ℚ) : Hal Status := do
  if amplitude ≤ 0 ∨ amplitude > 1 then return .error .illegalArgument
  let rtp_input := round (amplitude * (MAX_RTP_INPUT - MIN_RTP_INPUT) + MIN_RTP_INPUT)
  if !(← set (.rtpInput rtp_input)) then return .error .illegalState
  return .ok ()

/-- The first switch of `performEffect`. -/
def strengthOffset : EffectStrength → Option ℕ
  | .light => some 0
  | .medium => some 1
  | .strong => some 1
  | .other _ => none

/-- The second switch of `performEffect`: the sequence, the duration and the level of an effect. -/
def effectPlan (volOffset : ℕ) : Effect → Option (String × UInt32 × ℕ)
  | .textureTick => some (WAVEFORM_TICK_EFFECT_SEQ, v.mTickDuration, TEXTURE_TICK)
  | .click => some (WAVEFORM_CLICK_EFFECT_SEQ, v.mClickDuration, volOffset + CLICK)
  | .doubleClick =>
    some (WAVEFORM_DOUBLE_CLICK_EFFECT_SEQ, v.mDoubleClickDuration, volOffset + CLICK)
  | .tick => some (WAVEFORM_TICK_EFFECT_SEQ, v.mTickDuration, volOffset + TICK)
  | .heavyClick =>
    some (WAVEFORM_HEAVY_CLICK_EFFECT_SEQ, v.mHeavyClickDuration, volOffset + HEAVY_CLICK)
  | .other _ => none

/-- `performEffect`, with the time it leaves in `outTimeMs`. -/
def performEffect (effect : Effect) (strength : EffectStrength) : Hal (Except Exception Int32) := do
  let some volOffset := strengthOffset strength | return .error .unsupportedOperation
  let some (sequence, timeMS, volOffset) := v.effectPlan volOffset effect
    | return .error .unsupportedOperation
  let _ ← set (.sequencer sequence)
  match ← v.onMode timeMS .waveform .effect volOffset with
  | .error status => return .error status
  | .ok () => return .ok timeMS.toInt32

def perform (effect : Effect) (strength : EffectStrength) (callback : Bool) :
    Hal (Except Exception Int32) := do
  if callback then return .error .unsupportedOperation
  v.performEffect effect strength

/-- The part of a dump about one configuration: its shape, its clamps and its period. -/
structure ConfigReport where
  shape : UInt32
  odClamp : List UInt32
  olLraPeriod : UInt32
deriving DecidableEq, Repr

/-- Read the clamps with the given indices. -/
def readClamps (config : Config) : List ℕ → Hal (List UInt32)
  | [] => return []
  | i :: is => do
    let clamp ← call (.readOdClamp config i)
    return clamp :: (← readClamps config is)

/-- `dprintf` of a configuration with its first `n` clamps. -/
def dumpConfig (d : Dynamic) (config : Config) (n : ℕ) : Hal ConfigReport := do
  let odClamp ← readClamps config (List.range n)
  let olLraPeriod ← call (.readOlLraPeriod config)
  return ⟨d.shape config, odClamp, olLraPeriod⟩

/-- What `dump` prints of the fields. -/
structure Report where
  closeLoopThreshold : UInt32
  configs : Option (ConfigReport × ConfigReport)
  durations : List UInt32
deriving DecidableEq, Repr

/-- `dump`; none where the descriptor is invalid. -/
def dump (fd : ℤ) : Hal (Option Report) := do
  if fd < 0 then return none
  let durations :=
    [v.mClickDuration, v.mTickDuration, v.mDoubleClickDuration, v.mHeavyClickDuration]
  match v.dynamic with
  | some d =>
    let steady ← dumpConfig d .steady 3
    let effect ← dumpConfig d .effect 5
    return some ⟨v.mCloseLoopThreshold, some (steady, effect), durations⟩
  | none => return some ⟨v.mCloseLoopThreshold, none, durations⟩

end Vibrator

/-! ## A call of a client -/

inductive Call where
  | on (timeoutMs : Int32) (callback : Bool)
  | off
  | setAmplitude (amplitude : ℚ)
  | perform (effect : Effect) (strength : EffectStrength) (callback : Bool)
  | dump (fd : ℤ)
deriving DecidableEq

inductive Reply where
  | status (status : Status)
  | performed (result : Except Exception Int32)
  | dumped (report : Option Vibrator.Report)
deriving DecidableEq

/-- The function that serves a call. -/
def Vibrator.serve (v : Vibrator) : Call → Hal Reply
  | .on timeoutMs callback => Reply.status <$> v.on timeoutMs callback
  | .off => Reply.status <$> off
  | .setAmplitude amplitude => Reply.status <$> setAmplitude amplitude
  | .perform effect strength callback => Reply.performed <$> v.perform effect strength callback
  | .dump fd => Reply.dumped <$> v.dump fd

end Redfin.Drv2624
