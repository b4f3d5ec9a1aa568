import Redfin.Gadget.Hal
import Redfin.Program.Threads

/-!
# The gadget service

The gadget HAL serves its calls on two RPC threads, over one `UsbGadget` object, one monitor and
one UDC node. An operation of libpixelusb is one step, with any result. What is assumed of the
library: `resetGadget` leaves the UDC unbound where it succeeds, `isMonitorRunning` is true from
`startMonitor` to `reset`, and in that time, and only then, the monitor may pull the gadget up or
down and invoke the callback, at any moment.

The last fields of `Shared` are history that no step depends on: what the latest request has done
so far, whether some request is between its tear-down and its own pull-up, which calls of `reset`
are between their writes, and what clients have been told.
-/

namespace Redfin.Gadget

open Program

/-- A call of a client. -/
inductive Call where
  | setCurrentUsbFunctions (functions : UInt64) (callback : Bool) (timeout : UInt64)
  | getCurrentUsbFunctions
  | reset
deriving DecidableEq, Repr

def Call.program : Call → Hal Unit
  | .setCurrentUsbFunctions functions callback timeout =>
    Gadget.setCurrentUsbFunctions functions callback timeout
  | .getCurrentUsbFunctions => Gadget.getCurrentUsbFunctions
  | .reset => do
    let _ ← Gadget.reset

/-- What a request for `functions` has done so far: cleared the flag, finished its tear-down,
pulled up the gadget (itself or through the monitor it started) after that. -/
structure Progress where
  id : ℕ
  functions : UInt64
  cleared : Bool := false
  tornDown : Bool := false
  pulledUp : Bool := false
deriving DecidableEq, Repr

/-- A pair reported by `getCurrentUsbFunctions`, with the latest request at that moment. -/
structure Report where
  functions : UInt64
  status : Status
  latest : Option Progress
deriving DecidableEq, Repr

/-- The state the threads share. `udc` is the controller the gadget is bound to, `monitor` the
request that started the running monitor; `window` tells that a request is between the start of its
tear-down and its pull-up, `stray` that the controller was bound in such a time by another than
that request, `noneReported` that no call has begun since NONE was reported as a success, `resets`
on which threads `reset` has made the first of its writes and not yet tried the second. -/
structure Shared where
  holder : Option (Fin 2) := none
  functions : UInt64
  applied : Bool
  udc : Option String := none
  monitor : Option ℕ := none
  requests : ℕ := 0
  latest : Option Progress := none
  window : Bool := false
  stray : Bool := false
  noneReported : Bool := false
  resets : List (Fin 2) := []
  reports : List Report := []
deriving DecidableEq, Repr

namespace Shared

/-- Write down what the latest request has done. -/
def record (s : Shared) (f : Progress → Progress) : Shared := { s with latest := s.latest.map f }

/-- The latest request, if it is the one with the number `n`, is pulled up. -/
def pulledUpBy (s : Shared) (n : ℕ) : Shared :=
  s.record fun p => if p.id = n then { p with pulledUp := p.pulledUp || p.tornDown } else p

/-- The controller is bound by the latest request or by another. -/
def bind (s : Shared) (own : Bool) : Shared :=
  { s with
    udc := some kGadgetName
    window := s.window && !own
    stray := s.stray || s.window && !own }

/-- The thread `t` has tried the second write of `reset`. -/
def endReset (s : Shared) (t : Fin 2) : Shared := { s with resets := s.resets.erase t }

/-- A write of the UDC node by the thread `t`. Only `reset` writes `none`, and begins with it; the
controller name is written by `reset` too, which holds no lock, and by the request that does. -/
def writePullup (s : Shared) (t : Fin 2) (content : String) (ok : Bool) : Shared :=
  if content ≠ kGadgetName then
    { s with
      udc := if ok then none else s.udc
      noneReported := false
      resets := if ok then t :: s.resets else s.resets }
  else if s.holder = some t then
    if ok then (s.bind true).record fun p => { p with pulledUp := p.pulledUp || p.tornDown } else s
  else if ok then (s.endReset t).bind false
  else s.endReset t

/-- The first write of `reset`. -/
lemma writePullup_none (s : Shared) (t : Fin 2) (ok : Bool) :
    s.writePullup t "none" ok =
      { s with
        udc := if ok then none else s.udc
        noneReported := false
        resets := if ok then t :: s.resets else s.resets } :=
  if_pos (by decide)

/-- The request fails to pull up the gadget. -/
lemma writePullup_failed {s : Shared} {t : Fin 2} (h : s.holder = some t) :
    s.writePullup t kGadgetName false = s := by
  rw [writePullup, if_neg (by simp), if_pos h]
  exact rfl

/-- The request pulls up the gadget. -/
lemma writePullup_own {s : Shared} {t : Fin 2} (h : s.holder = some t) :
    s.writePullup t kGadgetName true =
      (s.bind true).record fun p => { p with pulledUp := p.pulledUp || p.tornDown } := by
  rw [writePullup, if_neg (by simp), if_pos h]
  exact rfl

/-- The second write of `reset`. -/
lemma writePullup_other {s : Shared} {t : Fin 2} (h : s.holder ≠ some t) (ok : Bool) :
    s.writePullup t kGadgetName ok = if ok then (s.endReset t).bind false else s.endReset t := by
  rw [writePullup, if_neg (by simp), if_neg h]

/-- The latest request is the one with the number `n`. -/
def isLatest (s : Shared) (n : ℕ) : Bool := s.latest.any (·.id = n)

end Shared

/-- The effect of an operation of the thread `t`. -/
def act (t : Fin 2) : (o : Op) → o.Res → Shared → Option Shared
  | .lock, _, s =>
    if s.holder = none then some { s with holder := some t, noneReported := false } else none
  | .unlock, _, s => some { s with holder := none, window := false }
  | .writeFunctions functions, _, s =>
    some { s with
      functions
      requests := s.requests + 1
      latest := some { id := s.requests, functions } }
  | .readFunctions, functions, s => if functions = s.functions then some s else none
  | .writeApplied applied, _, s =>
    let s := { s with applied }
    some (if applied then s else s.record fun p => { p with cleared := true })
  | .readApplied, applied, s => if applied = s.applied then some s else none
  | .resetGadget, (status, down), s =>
    if status = .success → down = true then
      some { s with udc := if down then none else s.udc, window := true }
    else none
  | .isMonitorRunning, running, s =>
    if running = s.monitor.isSome then
      some (if running then s else s.record fun p => { p with tornDown := true })
    else none
  | .monitorReset, _, s =>
    some ({ s with monitor := none }.record fun p => { p with tornDown := true })
  | .startMonitor, _, s => some { s with monitor := s.latest.map (·.id) }
  | .writePullup content, ok, s => some (s.writePullup t content ok)
  | .setCurrentUsbFunctionsCb functions status, _, s =>
    some (if functions = GadgetFunction.none ∧ status = .success
      then { s with noneReported := true } else s)
  | .getCurrentUsbFunctionsCb functions status, _, s =>
    some { s with reports := ⟨functions, status, s.latest⟩ :: s.reports }
  | .usleep, _, s => some s
  | .getVendorFunctions, _, s => some s
  | .setVidPid _ _, _, s => some s
  | .addGenericAndroidFunctions _, _, s => some s
  | .linkFunction _ _, _, s => some s
  | .addAdb _, _, s => some s
  | .registerFunctionsAppliedCallback, _, s => some s
  | .waitForPullUp _, _, s => some s

/-- What the running monitor may do: invoke `currentFunctionsAppliedCallback`, write the UDC. -/
inductive MonitorEvent where
  | callback (functionsApplied : Bool)
  | pullUp
  | pullDown
deriving DecidableEq, Repr

/-- An act of the monitor that the request with the number `n` started. -/
def monitorAct (n : ℕ) (s : Shared) : MonitorEvent → Shared
  | .callback applied =>
    let s := { s with applied }
    if applied then s.pulledUpBy n else s
  | .pullUp => s.bind (s.isLatest n)
  | .pullDown => { s with udc := none }

/-- The two RPC threads of the gadget service, with its monitor as the environment. -/
def service : Machine sig (Fin 2) Unit Call MonitorEvent Shared where
  act := act
  go _ _ call s := some (call.program, s)
  env e s := s.monitor.map fun n => monitorAct n s e

/-- The service at its start: no thread runs a call, and the two fields of `UsbGadget` hold what
its constructor left in them. -/
def service.start (functions : UInt64) (applied : Bool) : Config sig (Fin 2) Unit Shared where
  shared := { functions, applied }
  prog _ := .ret ()

/-- A schedule: the thread `t` serves a request for RNDIS that succeeds. -/
def rndisSchedule (t : Fin 2) : List (Label sig (Fin 2) Call MonitorEvent) :=
  [.go t (.setCurrentUsbFunctions GadgetFunction.rndis true 0),
    .act t .lock (),
    .act t (.writeFunctions GadgetFunction.rndis) (),
    .act t (.writeApplied false) (),
    .act t .resetGadget (.success, true),
    .act t .isMonitorRunning false,
    .act t .usleep (),
    .act t .getVendorFunctions "",
    .act t (.setVidPid "0x18d1" "0x4ee3") .success,
    .act t (.addGenericAndroidFunctions GadgetFunction.rndis) ⟨.success, false, 1, []⟩,
    .act t .getVendorFunctions "",
    .act t (.writePullup kGadgetName) true,
    .act t (.writeApplied true) (),
    .act t (.setCurrentUsbFunctionsCb GadgetFunction.rndis .success) (),
    .act t .unlock ()]

/-- A schedule: the thread `t` reports the pair it reads. -/
def getSchedule (t : Fin 2) (functions : UInt64) (applied : Bool) :
    List (Label sig (Fin 2) Call MonitorEvent) :=
  [.go t .getCurrentUsbFunctions,
    .act t .readFunctions functions,
    .act t .readApplied applied,
    .act t (.getCurrentUsbFunctionsCb functions
      (if applied then .functionsApplied else .functionsNotApplied)) ()]

end Redfin.Gadget
