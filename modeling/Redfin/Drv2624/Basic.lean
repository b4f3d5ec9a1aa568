import Mathlib.Data.Fin.VecNotation
import Mathlib.Data.Int.Notation
import Redfin.Program.Basic

/-!
# The vibrator HAL: its data and its operations

The types of `IVibrator` and of `Vibrator.h`, and the operations the functions of `Vibrator.cpp`
are programs over: the writes to the device nodes, the two sensors, and the accesses to the fields
that change after the constructor has returned, which are the pointer and the period of the steady
configuration. Reading through a configuration's clamp pointer is an operation too, so that what
the pointer designates at that moment can be compared with the index. Log messages are left out.
-/

namespace Redfin.Drv2624

open Program

/-- The exception codes of a `ScopedAStatus` that is not ok. -/
inductive Exception where
  | illegalArgument
  | illegalState
  | unsupportedOperation
deriving DecidableEq, Repr

abbrev Status := Except Exception Unit

/-- `Effect`, with every effect the HAL does not support under `other`. -/
inductive Effect where
  | click
  | doubleClick
  | tick
  | heavyClick
  | textureTick
  | other (effect : Int32)
deriving DecidableEq, Repr

inductive EffectStrength where
  | light
  | medium
  | strong
  | other (strength : Int8)
deriving DecidableEq, Repr

/-- The mode of operation: `RTP_MODE` is "rtp", `WAVEFORM_MODE` is "waveform". -/
inductive Mode where
  | rtp
  | waveform
deriving DecidableEq, Repr

inductive LoopControl where
  | CLOSE
  | OPEN
deriving DecidableEq, Repr

/-- The value of the `ctrl_loop` node. -/
def LoopControl.toUnderlying : LoopControl → Bool
  | .CLOSE => false
  | .OPEN => true

def WAVEFORM_CLICK_EFFECT_SEQ : String := "1 0"
def WAVEFORM_TICK_EFFECT_SEQ : String := "2 0"
def WAVEFORM_DOUBLE_CLICK_EFFECT_SEQ : String := "3 0"
def WAVEFORM_HEAVY_CLICK_EFFECT_SEQ : String := "4 0"
def MAX_RTP_INPUT : ℤ := 127
def MIN_RTP_INPUT : ℤ := 0
def VIBRATION_MOTION_TIME_THRESHOLD : Int32 := 100
def TEMP_UPPER_BOUND : ℤ := 10000
def TEMP_LOWER_BOUND : ℤ := 5000
def STEADY_VOLTAGE_LOWER_BOUND : UInt32 := 90

/-! `OdClampOffset`: the first clamp of each effect. -/

def TEXTURE_TICK : ℕ := 0
def TICK : ℕ := 1
def CLICK : ℕ := 2
def HEAVY_CLICK : ℕ := 3

/-! ## The object -/

/-- The objects a clamp pointer designates. -/
inductive Object where
  | effectTargetOdClamp
  | steadyTargetOdClamp
  | steadyVoltageLowerBound
deriving DecidableEq, Repr

/-- The configurations `mSteadyConfig` and `mEffectConfig`. -/
inductive Config where
  | steady
  | effect
deriving DecidableEq, Repr

/-- What the constructor sets up in the dynamic configuration only. An element of the steady array
that the constructor leaves alone is none; it may be the one in the middle. -/
structure Dynamic where
  shape : Config → UInt32
  mEffectTargetOdClamp : Fin 5 → UInt32
  mSteadyTargetOdClamp : Fin 3 → Option UInt32
  mSteadyOlLraPeriod : UInt32
  mSteadyOlLraPeriodShift : UInt32
  assigned : ∀ i, i ≠ 1 → (mSteadyTargetOdClamp i).isSome

/-- The fields of a `Vibrator` that the constructor assigns for good; in the static configuration
both configurations are null. -/
structure Vibrator where
  mCloseLoopThreshold : UInt32
  mClickDuration : UInt32
  mTickDuration : UInt32
  mDoubleClickDuration : UInt32
  mHeavyClickDuration : UInt32
  dynamic : Option Dynamic

def Vibrator.mDynamicConfig (v : Vibrator) : Bool := v.dynamic.isSome

/-- The elements of an object. -/
def Dynamic.elements (d : Dynamic) : Object → List (Option UInt32)
  | .effectTargetOdClamp => List.ofFn fun i => some (d.mEffectTargetOdClamp i)
  | .steadyTargetOdClamp => List.ofFn d.mSteadyTargetOdClamp
  | .steadyVoltageLowerBound => [some STEADY_VOLTAGE_LOWER_BOUND]

/-- The fields that change: the clamp pointer and the period of `mSteadyConfig`. -/
structure SteadyConfig where
  odClamp : Object
  olLraPeriod : UInt32
deriving DecidableEq, Repr

/-- The fields as the constructor leaves them. -/
def Dynamic.start (d : Dynamic) : SteadyConfig := ⟨.steadyTargetOdClamp, d.mSteadyOlLraPeriod⟩

/-- The clamp pointer of a configuration; that of the effects never changes. -/
def SteadyConfig.pointer (s : SteadyConfig) : Config → Object
  | .steady => s.odClamp
  | .effect => .effectTargetOdClamp

/-- The open-loop period of a configuration. -/
def Dynamic.period (d : Dynamic) (s : SteadyConfig) : Config → UInt32
  | .steady => s.olLraPeriod
  | .effect => d.mSteadyOlLraPeriod

/-- `config->odClamp[i]`, if it is an element of the object and has been assigned. -/
def Dynamic.element (d : Dynamic) (s : SteadyConfig) (config : Config) (i : ℕ) : Option UInt32 :=
  (d.elements (s.pointer config))[i]?.join

/-! ## The operations -/

/-- A write to a device node. -/
inductive Write where
  | ctrlLoop (value : Bool)
  | duration (value : UInt32)
  | mode (value : Mode)
  | lraWaveShape (value : UInt32)
  | odClamp (value : UInt32)
  | olLraPeriod (value : UInt32)
  | activate (value : Bool)
  | sequencer (value : String)
  | rtpInput (value : ℤ)
deriving DecidableEq, Repr

inductive Op where
  | write (w : Write)
  | getPATemp
  | motionAwareness
  | readOdClamp (config : Config) (i : ℕ)
  | readOlLraPeriod (config : Config)
  | assignOdClamp (object : Object)
  | assignOlLraPeriod (value : UInt32)
deriving DecidableEq, Repr

/-- The result of each operation: of a write whether it succeeded, of `getPATemp` the temperature
if there is one to read. -/
@[reducible] def Op.Res : Op → Type
  | .write _ => Bool
  | .getPATemp => Option ℤ
  | .motionAwareness => Bool
  | .readOdClamp _ _ => UInt32
  | .readOlLraPeriod _ => UInt32
  | .assignOdClamp _ => Unit
  | .assignOlLraPeriod _ => Unit

/-- The operations of the vibrator HAL. -/
abbrev sig : Sig := ⟨Op, Op.Res⟩

abbrev Hal := Prog sig

/-- Perform one operation. -/
abbrev call (o : Op) : Hal o.Res := Prog.call (S := sig) o

/-- Write to a device node. -/
abbrev set (w : Write) : Hal Bool := call (.write w)

end Redfin.Drv2624
