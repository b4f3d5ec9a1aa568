import Mathlib.Data.Fintype.OfMap
import Redfin.Drv2624.Temperature
import Redfin.Program.Threads

/-!
# Two requests at once

`service.cpp` sets the maximal number of pool threads to one and then joins the pool with its own
thread, so there are two binder threads, and the HAL has no lock. The shared state records, beside
the fields, which of the two requests has written each register and in which order.

A request writes its registers one after the other along its `route` and activates at the end. At
an activation all registers are those of one request if the two have never passed each other and
the one behind is not between its first and its last register.
-/

namespace Redfin.Drv2624

open Program

/-- The binder threads. -/
inductive Thread where
  | main
  | pool
deriving DecidableEq, Repr

def Thread.other : Thread → Thread
  | .main => .pool
  | .pool => .main

/-- A call that drives the vibrator. -/
inductive Request where
  | on (timeoutMs : Int32) (callback : Bool)
  | perform (effect : Effect) (strength : EffectStrength) (callback : Bool)
deriving DecidableEq

def Request.call : Request → Call
  | .on timeoutMs callback => .on timeoutMs callback
  | .perform effect strength callback => .perform effect strength callback

def Request.mode : Request → Mode
  | .on _ _ => .rtp
  | .perform _ _ _ => .waveform

/-- The registers that take effect with an activation. -/
inductive Reg where
  | sequencer
  | ctrlLoop
  | duration
  | mode
  | lraWaveShape
  | odClamp
  | olLraPeriod
deriving DecidableEq, Repr

def Reg.all : List Reg :=
  [.sequencer, .ctrlLoop, .duration, .mode, .lraWaveShape, .odClamp, .olLraPeriod]

/-- The list of the registers has all of them. -/
lemma Reg.mem_all (reg : Reg) : reg ∈ Reg.all := by
  cases reg <;> decide

instance : Fintype Reg := Fintype.ofList Reg.all Reg.mem_all

def Write.reg? : Write → Option Reg
  | .sequencer _ => some .sequencer
  | .ctrlLoop _ => some .ctrlLoop
  | .duration _ => some .duration
  | .mode _ => some .mode
  | .lraWaveShape _ => some .lraWaveShape
  | .odClamp _ => some .odClamp
  | .olLraPeriod _ => some .olLraPeriod
  | .activate _ => none
  | .rtpInput _ => none

def Write.mode? : Write → Option Mode
  | .mode value => some value
  | _ => none

namespace Vibrator

variable (v : Vibrator)

/-- The registers that take effect in a mode, in the order in which a request writes them. -/
def route (mode : Mode) : List Reg :=
  (if mode = .waveform then [.sequencer] else []) ++ [.ctrlLoop, .duration, .mode] ++
    if v.mDynamicConfig then [.lraWaveShape, .odClamp, .olLraPeriod] else []

/-- The last register of every route. -/
def lastReg : Reg := if v.mDynamicConfig then .olLraPeriod else .mode

end Vibrator

/-- The fields, the requests that have written each register with the last one in front, and the
value of the mode register. -/
structure Shared where
  fields : SteadyConfig
  writers : Reg → List Thread := fun _ => []
  mode : Option Mode := none

/-- A successful write. -/
def Shared.write (s : Shared) (t : Thread) (w : Write) : Shared :=
  match w.reg? with
  | some reg =>
    { s with
      writers := Function.update s.writers reg (t :: s.writers reg)
      mode := w.mode?.or s.mode }
  | none => s

/-- The effect of an operation; all writes succeed. -/
def act (v : Vibrator) (t : Thread) : (o : Op) → o.Res → Shared → Option Shared
  | .write w, ok, s => if ok then some (s.write t w) else none
  | .getPATemp, _, s => some s
  | .motionAwareness, _, s => some s
  | .readOdClamp config i, clamp, s =>
    if (v.element s.fields config i).all (· = clamp) then some s else none
  | .readOlLraPeriod config, period, s =>
    if (v.dynamic.map fun d => d.period s.fields config).all (· = period) then some s else none
  | .assignOdClamp object, _, s => some { s with fields := { s.fields with odClamp := object } }
  | .assignOlLraPeriod value, _, s =>
    some { s with fields := { s.fields with olLraPeriod := value } }

/-- The service with its two threads, each of which serves one call. -/
def service (v : Vibrator) : Machine sig Thread Reply Unit Empty Shared where
  act t o r s := act v t o r s
  go _ _ _ _ := none
  env e _ := e.elim

/-- Two requests that are about to be served, with the fields as an earlier call has left them. -/
def service.start (v : Vibrator) (request : Thread → Request) (fields : SteadyConfig) :
    Program.Config sig Thread Reply Shared :=
  ⟨{ fields }, fun t => v.serve (request t).call⟩

/-- The registers that the mode of the moment uses were all last written by one request. -/
def OneRequest (v : Vibrator) (s : Shared) : Prop :=
  ∃ t mode, s.mode = some mode ∧ ∀ reg ∈ v.route mode, (s.writers reg).head? = some t

/-- A step that keeps the requests apart. A write does not pass the other request: where it comes
second at its register, it has come first at none. An activation by the request in front does not
come between the first and the last register of the other. -/
def Orderly (v : Vibrator) (s : Shared) : Label sig Thread Unit Empty → Prop
  | .act t (.write w) _ =>
    match w.reg? with
    | some reg => t.other ∈ s.writers reg → ∀ r, s.writers r ≠ [t.other, t]
    | none => (∃ r, s.writers r = [t.other, t]) → t.other ∈ s.writers v.lastReg
  | _ => True

instance (v : Vibrator) (s : Shared) (l : Label sig Thread Unit Empty) :
    Decidable (Orderly v s l) := by
  unfold Orderly
  split
  · split <;> infer_instance
  · infer_instance

/-! ## The route of a request -/

/-- How many registers of its route a request has written; none when it is over. A write to the
registers of the route is the next one of it, and it activates at the end. -/
def routeProtocol (v : Vibrator) (mode : Mode) : Protocol sig (Option ℕ) where
  ok q o :=
    match o with
    | .write w =>
      match w.reg? with
      | some reg => (∃ n ∈ q, (v.route mode)[n]? = some reg) ∧ ∀ m, w = .mode m → m = mode
      | none => q = some (v.route mode).length
    | _ => True
  next q o r :=
    match o, r with
    | .write (.duration _), ok => if ok then q.map (· + 1) else none
    | .write w, _ => if w.reg?.isSome then q.map (· + 1) else none
    | _, _ => q

namespace Vibrator

variable {v : Vibrator}

/-- The activation comes at the end of the route and leaves it. -/
lemma activate_follows (mode : Mode) :
    (activate true).Follows (routeProtocol v mode) (some (v.route mode).length) fun _ q =>
      q = none := by
  simp only [activate, set, Prog.call, Prog.op_bind, Prog.ret_bind]
  refine ⟨rfl, fun ok => ?_⟩
  cases ok <;> exact rfl

/-- How many registers a request has written when it comes to `onMode`. -/
def entry : Mode → ℕ
  | .rtp => 0
  | .waveform => 1

/-- The first registers after the entry of a route. -/
lemma route_get (v : Vibrator) (mode : Mode) :
    (v.route mode)[entry mode]? = some .ctrlLoop ∧
      (v.route mode)[entry mode + 1]? = some .duration ∧
      (v.route mode)[entry mode + 2]? = some .mode := by
  cases mode <;> exact ⟨rfl, rfl, rfl⟩

/-- Without a dynamic configuration the route ends there. -/
lemma route_static (hd : v.dynamic = none) (mode : Mode) :
    (v.route mode).length = entry mode + 3 := by
  have static : v.mDynamicConfig = false := by rw [mDynamicConfig, hd]; exact rfl
  rw [route, static]
  cases mode <;> exact rfl

/-- With a dynamic configuration three registers follow. -/
lemma route_dynamic {d : Dynamic} (hd : v.dynamic = some d) (mode : Mode) :
    (v.route mode)[entry mode + 3]? = some .lraWaveShape ∧
      (v.route mode)[entry mode + 4]? = some .odClamp ∧
      (v.route mode)[entry mode + 5]? = some .olLraPeriod ∧
      (v.route mode).length = entry mode + 6 := by
  have dynamic : v.mDynamicConfig = true := by rw [mDynamicConfig, hd]; exact rfl
  rw [route, dynamic]
  cases mode <;> exact ⟨rfl, rfl, rfl, rfl⟩

/-- Applying a configuration takes the rest of the route. -/
lemma applyConfig_follows (mode : Mode) (config : Config) (i : ℕ) :
    (v.applyConfig config i).Follows (routeProtocol v mode) (some (entry mode + 3)) fun _ q =>
      q = some (v.route mode).length := by
  unfold applyConfig
  cases hd : v.dynamic with
  | none => exact congrArg some (route_static hd mode).symm
  | some d =>
    obtain ⟨shape, clamp, period, length⟩ := route_dynamic hd mode
    simp only [set, Prog.call, Prog.op_bind, Prog.ret_bind]
    refine ⟨⟨⟨_, rfl, shape⟩, fun _ => Write.noConfusion⟩, fun _ => ⟨trivial, fun _ => ?_⟩⟩
    refine ⟨⟨⟨_, rfl, clamp⟩, fun _ => Write.noConfusion⟩, fun _ => ⟨trivial, fun _ => ?_⟩⟩
    refine ⟨⟨⟨_, rfl, period⟩, fun _ => Write.noConfusion⟩, fun _ => ?_⟩
    exact congrArg some length.symm

/-- Beginning a vibration takes the route from its entry on. -/
lemma onMode_follows (timeoutMs : UInt32) (mode : Mode) (config : Config) (i : ℕ) :
    (v.onMode timeoutMs mode config i).Follows (routeProtocol v mode) (some (entry mode))
      fun _ q => q = none := by
  obtain ⟨ctrl, duration, hm⟩ := route_get v mode
  simp only [onMode, set, Prog.call, Prog.op_bind, Prog.ret_bind]
  refine ⟨⟨⟨_, rfl, ctrl⟩, fun _ => Write.noConfusion⟩, fun _ => ?_⟩
  refine ⟨⟨⟨_, rfl, duration⟩, fun _ => Write.noConfusion⟩, fun ok => ?_⟩
  cases ok with
  | false => exact rfl
  | true =>
    refine ⟨⟨⟨_, rfl, hm⟩, fun _ eq => (Write.mode.inj eq).symm⟩, fun _ => ?_⟩
    refine (applyConfig_follows mode config i).bind fun _ q hq => ?_
    subst hq
    exact activate_follows mode

/-- The route is about register writes only. -/
lemma neutral {mode : Mode} {q : Option ℕ} {o : Op} (ho : o.write? = none) :
    (routeProtocol v mode).Neutral q o := by
  cases o with
  | write w => cases ho
  | _ => exact ⟨trivial, fun _ => rfl⟩

/-- A request that writes no register at all. -/
def idle (v : Vibrator) : Request → Bool
  | .on _ callback => callback
  | .perform effect strength callback => callback || (v.plan effect strength).isNone

/-- A request follows its route. -/
lemma serve_follows (v : Vibrator) (request : Request) :
    (v.serve request.call).Follows (routeProtocol v request.mode)
      (if v.idle request then none else some 0) fun _ q => q = none := by
  cases request with
  | on timeoutMs callback =>
    show (Reply.status <$> v.on timeoutMs callback).Follows _ _ _
    rw [map_eq_pure_bind, Prog.follows_bind, on]
    cases callback with
    | true => exact rfl
    | false =>
      simp only [Bool.false_eq_true, if_false]
      cases v.dynamic with
      | none => exact onMode_follows _ .rtp _ _
      | some d =>
        have quiet := (all_protect d timeoutMs).mono fun _ ho =>
          (neutral ho.1 : (routeProtocol v .rtp).Neutral (some 0) _)
        exact quiet.follows_bind fun i => onMode_follows _ .rtp _ i
  | perform effect strength callback =>
    show (Reply.performed <$> v.perform effect strength callback).Follows _ _ _
    rw [map_eq_pure_bind, Prog.follows_bind, perform]
    cases callback with
    | true => exact rfl
    | false =>
      simp only [Bool.false_eq_true, if_false]
      rw [performEffect_eq, idle]
      cases v.plan effect strength with
      | none => exact rfl
      | some p =>
        obtain ⟨sequence, timeMS, i⟩ := p
        simp only [set, Prog.call, Prog.op_bind, Prog.ret_bind]
        refine ⟨⟨⟨0, rfl, rfl⟩, fun _ => Write.noConfusion⟩, fun _ => ?_⟩
        refine (onMode_follows timeMS .waveform .effect i).bind fun status q hq => ?_
        cases status <;> exact hq

end Vibrator

end Redfin.Drv2624
