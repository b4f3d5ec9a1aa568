import Mathlib.Algebra.BigOperators.Group.List.Basic
import Mathlib.Algebra.Order.Field.Rat
import Redfin.Drv2624.Run
import Redfin.Program.Layers

/-!
# Motion awareness

`motionAwareness` and the poll of the gravity sensor, over the operations of the clock, of the
sensor service and of the static variables of `Vibrator.cpp`. `sensing` puts it in the place of the
operation `motionAwareness` of the HAL. A float is the rational number it stands for, and sums and
quotients are exact; an average of no samples is none, which compares with nothing. The looper of
the thread is left out.
-/

namespace Redfin.Drv2624

open Program

/-- A sample: the values of the two axes. -/
abbrev Sample := ℚ × ℚ

structure Timespec where
  tv_sec : UInt64
  tv_nsec : UInt64
deriving DecidableEq, Repr

/-- The time as `motionAwareness` computes it. -/
def Timespec.nanoseconds (time : Timespec) : UInt64 :=
  time.tv_sec * 1000 * 1000 * 1000 + time.tv_nsec

def SENSOR_DATA_NUM : ℕ := 20
def SENSING_PERIOD : UInt64 := 2000000000

/-- The operations of the HAL and of the layer below. The clock is read again after a poll, and the
operations in the loop of a poll are told its counter. -/
inductive SensorOp where
  | hal (o : Op)
  | clock_gettime (again : Bool)
  | clearAxleData
  | getInstanceForPackage
  | getDefaultSensor
  | createEventQueue
  | registerSensor
  | pollOnce (counter : ℕ)
  | getEvents (counter : ℕ)
  | pushAxleData (x y : ℚ)
  | disableSensor
  | destroyEventQueue
  | readAxleData
  | readEndTime
  | assignEndTime (time : UInt64)
deriving DecidableEq, Repr

/-- The result of each operation: of those that return a pointer whether it is not null, of
`registerSensor` whether it made no error, of `pollOnce` whether the callback is called, and of
`getEvents` what the event then holds. -/
@[reducible] def SensorOp.Res : SensorOp → Type
  | .hal o => o.Res
  | .clock_gettime _ => Timespec
  | .getInstanceForPackage => Bool
  | .getDefaultSensor => Bool
  | .createEventQueue => Bool
  | .registerSensor => Bool
  | .pollOnce _ => Bool
  | .getEvents _ => Sample
  | .readAxleData => List ℚ × List ℚ
  | .readEndTime => UInt64
  | _ => Unit

abbrev sensorSig : Sig := ⟨SensorOp, SensorOp.Res⟩

abbrev Sensing := Prog sensorSig

abbrev sense (o : SensorOp) : Sensing o.Res := Prog.call (S := sensorSig) o

/-- `GSensorCallback`: it does not look at the number of events. -/
def GSensorCallback (counter : ℕ) : Sensing Unit := do
  let (x, y) ← sense (.getEvents counter)
  sense (.pushAxleData x y)

/-- The loop of a poll. -/
def pollEvents : List ℕ → Sensing Unit
  | [] => return ()
  | counter :: rest => do
    if ← sense (.pollOnce counter) then GSensorCallback counter
    pollEvents rest

def PollGSensor : Sensing Unit := do
  if !(← sense .getInstanceForPackage) then return ()
  -- without the sensor the queue stays null
  if !(← sense .getDefaultSensor) then return ()
  let queue ← sense .createEventQueue
  -- the queue is not destroyed on this way out
  if !(← sense .registerSensor) then return ()
  pollEvents (List.range SENSOR_DATA_NUM)
  if queue then
    sense .disableSensor
    sense .destroyEventQueue

/-- `std::accumulate` by the number of samples. -/
def average (data : List ℚ) : Option ℚ :=
  if data = [] then none else some (data.sum / data.length)

/-- The comparisons of an average with both ends of a window. -/
def within (bound : ℚ) (average : Option ℚ) : Bool :=
  average.any fun avg => avg > -bound && avg < bound

/-- What `motionAwareness` makes of the samples. -/
def moved (xs ys : List ℚ) : Bool :=
  !(within (13 / 10) (average xs) && within (8 / 10) (average ys))

def motionAwareness : Sensing Bool := do
  let current_time := (← sense (.clock_gettime false)).nanoseconds
  let sEndTime ← sense .readEndTime
  if current_time - sEndTime > SENSING_PERIOD then
    sense .clearAxleData
    PollGSensor
    let getTime ← sense (.clock_gettime true)
    sense (.assignEndTime getTime.nanoseconds)
  let (sXAxleData, sYAxleData) ← sense .readAxleData
  return moved sXAxleData sYAxleData

/-- What the operations of the HAL are in terms of the layer below. -/
def sensing : (o : Op) → Sensing o.Res
  | .motionAwareness => motionAwareness
  | o => sense (.hal o)

/-- The function that serves a call, with the motion awareness in its place. -/
def Vibrator.serveSensing (v : Vibrator) (c : Call) : Sensing Reply :=
  (v.serve c).implement sensing

/-! ## A run -/

/-- The variables that change: the fields and the static variables, with the number of event queues
that are there. -/
structure Variables where
  fields : SteadyConfig
  sXAxleData : List ℚ := []
  sYAxleData : List ℚ := []
  sEndTime : UInt64 := 0
  queues : ℕ := 0

/-- What the clock and the sensor service answer during a call. -/
structure Sensors where
  clock : Bool → Timespec
  manager : Bool
  sensor : Bool
  queue : Bool
  registered : Bool
  ready : ℕ → Bool
  event : ℕ → Sample

/-- The effect of the operations of the lower layer. The operation for the motion is not among those
of the HAL that are performed in it. -/
def Vibrator.device (v : Vibrator) (a : Answers) (r : Sensors) : Handler sensorSig Variables
  | .hal o, s => ((v.answer a o s.fields).1, { s with fields := (v.answer a o s.fields).2 })
  | .clock_gettime again, s => (some (r.clock again), s)
  | .clearAxleData, s => (some (), { s with sXAxleData := [], sYAxleData := [] })
  | .getInstanceForPackage, s => (some r.manager, s)
  | .getDefaultSensor, s => (some r.sensor, s)
  | .createEventQueue, s => (some r.queue, { s with queues := s.queues + r.queue.toNat })
  | .registerSensor, s => (some r.registered, s)
  | .pollOnce counter, s => (some (r.ready counter), s)
  | .getEvents counter, s => (some (r.event counter), s)
  | .pushAxleData x y, s =>
    (some (), { s with sXAxleData := s.sXAxleData ++ [x], sYAxleData := s.sYAxleData ++ [y] })
  | .disableSensor, s => (some (), s)
  | .destroyEventQueue, s => (some (), { s with queues := s.queues - 1 })
  | .readAxleData, s => (some (s.sXAxleData, s.sYAxleData), s)
  | .readEndTime, s => (some s.sEndTime, s)
  | .assignEndTime time, s => (some (), { s with sEndTime := time })

/-- What a register is to be set to. -/
def SensorOp.write? : SensorOp → Option Write
  | .hal o => o.write?
  | _ => none

/-- A call, what the devices answer during it, and what the clock and the sensor service do. -/
abbrev SensedEvent := Event × Sensors

namespace Vibrator

variable (v : Vibrator)

/-- The variables after a run. -/
def sensed (h : List SensedEvent) : Variables :=
  h.foldl (fun s e => ((v.serveSensing e.1.1).exec (v.device e.1.2 e.2) s).2) { fields := v.start }

/-- The register writes of a call. -/
def sensedWrites (s : Variables) (e : SensedEvent) : List Write :=
  (v.serveSensing e.1.1).outputs SensorOp.write? (v.device e.1.2 e.2) s

end Vibrator

end Redfin.Drv2624
