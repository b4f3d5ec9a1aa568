import Redfin.Gadget.Service
import Redfin.Usb.Disabled

/-!
# The UDC node between the two services

The USB HAL and the gadget HAL are separate processes that share the UDC node and nothing else. A
step of the system is a step of one of them; what it does to the node is seen by both. A run of the
system is a run of the USB service in which the gadget HAL is the environment.

Nothing in the gadget HAL knows whether the data is disabled: it binds the controller all the same.
The USB HAL does not, until the data is to be enabled again.
-/

set_option linter.unusedSectionVars false

namespace Redfin.Phone

open Program

section

variable [Libbase]

/-- The two processes. -/
structure System where
  usb : Config Usb.sig Usb.Thread Usb.Next Usb.Shared
  gadget : Config Gadget.sig (Fin 2) Unit Gadget.Shared

/-- A step of one of the processes. -/
inductive Move where
  | usb (l : Label Usb.sig Usb.Thread Usb.Turn Usb.EnvEvent)
  | gadget (l : Label Gadget.sig (Fin 2) Gadget.Call Gadget.MonitorEvent)

namespace Move

/-- The step writes the name of a controller to the UDC node, whether that is accepted or not. -/
def pullsUp : Move → Prop
  | .usb (.act _ o _) => o.pullsUp
  | .gadget (.act _ (.writePullup content) _) => content ≠ "none"
  | .gadget (.env .pullUp) => True
  | _ => False

/-- A call of `enableUsbData(true)` begins. -/
def enables : Move → Prop
  | .usb (.go _ (.serve call)) => call.enables = true
  | _ => False

def ofGadget : Move → Prop
  | .usb _ => False
  | .gadget _ => True

end Move

/-- The USB service's stand-in for other processes, which are here themselves. -/
def standIn : Label Usb.sig Usb.Thread Usb.Turn Usb.EnvEvent → Bool
  | .env (.pullup _) => true
  | _ => false

namespace System

/-- The state after a step. -/
def step (p : System) : Move → Option System
  | .usb l =>
    if standIn l then none
    else (Usb.service.step p.usb l).map fun c =>
      { usb := c, gadget := ⟨{ p.gadget.shared with udc := c.shared.udc }, p.gadget.prog⟩ }
  | .gadget l =>
    (Gadget.service.step p.gadget l).map fun c =>
      { usb := ⟨{ p.usb.shared with udc := c.shared.udc }, p.usb.prog⟩, gadget := c }

/-- Both services at their start, with the controller the gadget is bound to. -/
def start (udc : Option String) (functions : UInt64) (applied : Bool) : System where
  usb := Usb.service.start udc
  gadget := ⟨{ functions, applied, udc }, fun _ => .ret ()⟩

/-- `p` is reached from `p₀` by steps that all satisfy `G`. -/
inductive Run (G : Move → Prop) (p₀ : System) : System → Prop where
  | refl : Run G p₀ p₀
  | tail {p p' l} :
    Run G p₀ p →
    G l →
    p.step l = some p' →
    Run G p₀ p'

/-- `p` is reached from `p₀` by any steps. -/
abbrev Reach : System → System → Prop := Run fun _ => True

/-- Take the listed steps one after the other. -/
def play (ls : List Move) (p : System) : Option System := ls.foldlM step p

/-- A played move extends a run. -/
lemma reach_play {ls : List Move} {p₀ p p' : System} (hp : Reach p₀ p)
    (h : p.play ls = some p') : Reach p₀ p' := by
  induction ls generalizing p with
  | nil =>
    cases h
    exact hp
  | cons l ls ih =>
    obtain ⟨p₁, h₁, h₂⟩ := Option.bind_eq_some_iff.mp h
    exact ih (hp.tail trivial h₁) h₂

variable {p p' : System}

/-- A step of the USB HAL is one of its service. -/
lemma step_usb {l : Label Usb.sig Usb.Thread Usb.Turn Usb.EnvEvent}
    (h : p.step (.usb l) = some p') :
    standIn l = false ∧ Usb.service.step p.usb l = some p'.usb ∧
      p'.gadget.shared.udc = p'.usb.shared.udc := by
  obtain ⟨own, e⟩ := Option.ite_none_left_eq_some.mp h
  obtain ⟨c, hc, rfl⟩ := Option.map_eq_some_iff.mp e
  exact ⟨Bool.eq_false_iff.mpr own, hc, rfl⟩

/-- A step of the gadget HAL is one of its service. -/
lemma step_gadget {l : Label Gadget.sig (Fin 2) Gadget.Call Gadget.MonitorEvent}
    (h : p.step (.gadget l) = some p') :
    Gadget.service.step p.gadget l = some p'.gadget ∧
      p'.usb = ⟨{ p.usb.shared with udc := p'.gadget.shared.udc }, p.usb.prog⟩ := by
  obtain ⟨c, hc, rfl⟩ := Option.map_eq_some_iff.mp h
  exact ⟨hc, rfl⟩

/-- A run of the system is a run of the USB service. -/
lemma Run.usb {G : Move → Prop} {p₀ : System} (run : Run G p₀ p) :
    Usb.service.Reach p₀.usb p.usb := by
  induction run with
  | refl => exact .refl
  | @tail p p' l _ _ st ih =>
    cases l with
    | usb l =>
      obtain ⟨-, hs, -⟩ := step_usb st
      exact ih.tail trivial hs
    | gadget l =>
      obtain ⟨-, hu⟩ := step_gadget st
      have env : Usb.service.step p.usb (.env (.pullup p'.gadget.shared.udc)) = some p'.usb := by
        rw [hu]
        rfl
      exact ih.tail trivial env

end System

/-! ## The node while the data is disabled -/

/-- An operation of the gadget HAL that does not write the name leaves an unbound node unbound. -/
lemma udc_gadget_act {t : Fin 2} {o : Gadget.Op} {r : o.Res} {s s' : Gadget.Shared}
    (h : ¬(Move.gadget (.act t o r)).pullsUp) (st : Gadget.act t o r s = some s')
    (hu : s.udc = none) : s'.udc = none := by
  cases o with
  | writePullup content =>
    cases st
    -- the only write that is no pull-up
    have none : content = "none" := not_not.mp h
    subst none
    rw [Gadget.Shared.writePullup_none]
    cases r with
    | true => rfl
    | false => exact hu
  | lock =>
    obtain ⟨-, rfl⟩ := of_enabled st
    exact hu
  | readFunctions | readApplied =>
    obtain ⟨-, rfl⟩ := of_enabled st
    exact hu
  | resetGadget =>
    obtain ⟨-, rfl⟩ := of_enabled st
    obtain ⟨status, down⟩ := r
    cases down with
    | true => rfl
    | false => exact hu
  | isMonitorRunning =>
    obtain ⟨-, rfl⟩ := of_enabled st
    cases r with
    | true => exact hu
    | false => exact hu
  | writeApplied applied =>
    cases st
    cases applied with
    | true => exact hu
    | false => exact hu
  | setCurrentUsbFunctionsCb functions status =>
    cases st
    split
    · exact hu
    · exact hu
  | _ =>
    cases st
    exact hu

/-- A step of the gadget service that is no pull-up leaves the controller unbound. -/
lemma udc_gadget_step {l : Label Gadget.sig (Fin 2) Gadget.Call Gadget.MonitorEvent}
    {c c' : Config Gadget.sig (Fin 2) Unit Gadget.Shared} (h : ¬(Move.gadget l).pullsUp)
    (st : Gadget.service.step c l = some c') (hu : c.shared.udc = none) : c'.shared.udc = none := by
  cases l with
  | act t o r =>
    obtain ⟨k, s, -, hs, rfl⟩ := Machine.step_act st
    exact udc_gadget_act h hs hu
  | go t x =>
    obtain ⟨l, p, s, -, hs, rfl⟩ := Machine.step_go st
    cases hs
    exact hu
  | env e =>
    obtain ⟨s, hs, rfl⟩ := Machine.step_env st
    obtain ⟨n, -, rfl⟩ := Option.map_eq_some_iff.mp hs
    cases e with
    | callback applied =>
      cases applied with
      | true => exact hu
      | false => exact hu
    | pullUp => exact absurd trivial h
    | pullDown => exact rfl

/-- A step of the USB service that is no pull-up leaves the controller unbound. -/
lemma udc_usb_step {l : Label Usb.sig Usb.Thread Usb.Turn Usb.EnvEvent}
    {c c' : Config Usb.sig Usb.Thread Usb.Next Usb.Shared} (h : ¬(Move.usb l).pullsUp)
    (own : standIn l = false) (st : Usb.service.step c l = some c') (hu : c.shared.udc = none) :
    c'.shared.udc = none := by
  cases l with
  | act t o r =>
    obtain ⟨k, s, -, hs, rfl⟩ := Machine.step_act st
    exact (Usb.effect_act hs).udc h hu
  | go t x =>
    obtain ⟨l, p, s, -, hs, rfl⟩ := Machine.step_go st
    cases Usb.goes_of_go hs with
    | _ => exact hu
  | env e =>
    obtain ⟨s, hs, rfl⟩ := Machine.step_env st
    cases e with
    | uevent packet =>
      cases hs
      exact hu
    | deliverSignal =>
      obtain ⟨-, rfl⟩ := of_enabled hs
      exact hu
    | pullup udc => cases own

/-- The data stays disabled until `enableUsbData(true)` begins. -/
lemma disabled_usb_step {l : Label Usb.sig Usb.Thread Usb.Turn Usb.EnvEvent}
    {c c' : Config Usb.sig Usb.Thread Usb.Next Usb.Shared} (h : ¬(Move.usb l).enables)
    (st : Usb.service.step c l = some c') (hd : c.shared.dataDisabled = true) :
    c'.shared.dataDisabled = true := by
  cases l with
  | act t o r =>
    obtain ⟨k, s, -, hs, rfl⟩ := Machine.step_act st
    show s.dataDisabled = true
    rw [(Usb.effect_act hs).dataDisabled, hd, Bool.true_or]
  | go t x =>
    obtain ⟨l, p, s, -, hs, rfl⟩ := Machine.step_go st
    cases Usb.goes_of_go hs with
    | serve call =>
      have hc : call.enables = false := Bool.eq_false_iff.mpr h
      show (c.shared.dataDisabled && !call.enables) = true
      rw [hd, hc]
      rfl
    | waitAgain portName role id => exact hd
    | start created => exact hd
    | loop => exact hd
  | env e =>
    obtain ⟨s, hs, rfl⟩ := Machine.step_env st
    cases e with
    | uevent packet =>
      cases hs
      exact hd
    | deliverSignal =>
      obtain ⟨-, rfl⟩ := of_enabled hs
      exact hd
    | pullup udc =>
      cases hs
      exact hd

section

variable {udc : Option String} {functions : UInt64} {applied : Bool} {p p' : System}

/-- The processes see one node. -/
lemma udc_eq (run : System.Reach (System.start udc functions applied) p) :
    p.gadget.shared.udc = p.usb.shared.udc := by
  cases run with
  | refl => exact rfl
  | @tail _ _ l _ _ st =>
    cases l with
    | usb l =>
      obtain ⟨-, -, hu⟩ := System.step_usb st
      exact hu
    | gadget l =>
      obtain ⟨-, hu⟩ := System.step_gadget st
      rw [hu]

/-- As long as the data is disabled only the gadget HAL writes the name of a controller. -/
lemma ofGadget_of_pullsUp (run : System.Reach (System.start udc functions applied) p)
    (disabled : p.usb.shared.dataDisabled = true) {l : Move} (st : p.step l = some p')
    (h : l.pullsUp) : l.ofGadget := by
  cases l with
  | gadget l => exact trivial
  | usb l =>
    obtain ⟨-, hs, -⟩ := System.step_usb st
    cases l with
    | act t o r =>
      obtain ⟨k, s, e, -, -⟩ := Machine.step_act hs
      exact absurd h (Usb.quiet_while_disabled run.usb disabled e)
    | go t x => exact h.elim
    | env e => exact h.elim

/-- The condition on the steps in which the gadget stays pulled down. -/
def KeepsDown (l : Move) : Prop := ¬l.enables ∧ (l.ofGadget → ¬l.pullsUp)

/-- What one step of a time with disabled data preserves. -/
lemma unbound_step (run : System.Reach (System.start udc functions applied) p)
    (disabled : p.usb.shared.dataDisabled = true) (unbound : p.usb.shared.udc = none) {l : Move}
    (g : KeepsDown l) (st : p.step l = some p') :
    p'.usb.shared.dataDisabled = true ∧ p'.usb.shared.udc = none := by
  have quiet : ¬l.pullsUp := fun h => g.2 (ofGadget_of_pullsUp run disabled st h) h
  cases l with
  | usb l =>
    obtain ⟨own, hs, -⟩ := System.step_usb st
    exact ⟨disabled_usb_step g.1 hs disabled, udc_usb_step quiet own hs unbound⟩
  | gadget l =>
    obtain ⟨hs, hu⟩ := System.step_gadget st
    have down := udc_gadget_step quiet hs ((udc_eq run).trans unbound)
    rw [hu]
    exact ⟨disabled, down⟩

/-- From the report that the data is disabled to the next `enableUsbData(true)`, only the gadget HAL
writes the name of a controller to the UDC node, and as long as it does not, an unbound node stays
unbound. -/
theorem pullUps_while_disabled (run : System.Reach (System.start udc functions applied) p)
    (disabled : p.usb.shared.dataDisabled = true) :
    (∀ l p', p.step l = some p' → l.pullsUp → l.ofGadget) ∧
      ∀ p', p.usb.shared.udc = none → p.Run KeepsDown p' → p'.usb.shared.udc = none := by
  refine ⟨fun l p' st => ofGadget_of_pullsUp run disabled st, fun p' unbound rest => ?_⟩
  have all : System.Reach (System.start udc functions applied) p' ∧
      p'.usb.shared.dataDisabled = true ∧ p'.usb.shared.udc = none := by
    induction rest with
    | refl => exact ⟨run, disabled, unbound⟩
    | tail _ g st ih =>
      obtain ⟨run', disabled', unbound'⟩ := ih
      exact ⟨run'.tail trivial st, unbound_step run' disabled' unbound' g st⟩
  exact all.2.2

end

end

/-- A schedule: the framework sets a callback and disables the data of a bound gadget. -/
def disableSchedule : List Move :=
  [.usb (.go .binder (.serve (.setCallback true))), .usb (.act .binder (.lock .mLock) ()),
    .usb (.act .binder .readCallback false), .usb (.act .binder (.writeCallback true) ()),
    .usb (.act .binder (.writeDestroyThread false) ()), .usb (.act .binder .signal ()),
    .usb (.act .binder .pthreadCreate true), .usb (.act .binder (.unlock .mLock) ()),
    .usb (.go .binder (.serve (.enableUsbData "port0" false 1))),
    .usb (.act .binder (.readFile Usb.pullupPath) (some "a600000.dwc3\n")),
    .usb (.act .binder (.writeFile Usb.pullupPath "none") true),
    .usb (.act .binder (.writeFile Usb.usbDataPath "0") true),
    .usb (.act .binder (.writeUsbDataEnabled false) ()), .usb (.act .binder (.lock .mLock) ()),
    .usb (.act .binder .readCallback true),
    .usb (.act .binder (.notify (.enableUsbDataStatus "port0" false .success 1)) ())]

open Libbase.Documented in
/-- After that schedule the data is disabled and the node is unbound. -/
theorem pullUps_after_disable :
    ∃ p, System.Reach (System.start (some Usb.kGadgetName) 0 false) p ∧
      p.usb.shared.dataDisabled = true ∧ p.usb.shared.udc = none ∧
      (∀ l p', p.step l = some p' → l.pullsUp → l.ofGadget) ∧
      ∀ p', p.usb.shared.udc = none → p.Run KeepsDown p' → p'.usb.shared.udc = none := by
  have h : ((System.start (some Usb.kGadgetName) 0 false).play disableSchedule).map
      (fun p => (p.usb.shared.dataDisabled, p.usb.shared.udc)) = some (true, none) := by
    decide +kernel
  obtain ⟨p, hp, e⟩ := Option.map_eq_some_iff.mp h
  simp only [Prod.mk.injEq] at e
  have run := System.reach_play .refl hp
  exact ⟨p, run, e.1, e.2, pullUps_while_disabled run e.1⟩

open Libbase.Documented in
/-- A request for RNDIS binds the controller while the data is disabled. -/
theorem bound_while_disabled :
    ∃ p l p', System.Reach (System.start (some Usb.kGadgetName) 0 false) p ∧
      p.usb.shared.dataDisabled = true ∧ p.usb.shared.udc = none ∧ l.pullsUp ∧
      p.step l = some p' ∧ p'.usb.shared.dataDisabled = true ∧
      p'.usb.shared.udc = some Usb.kGadgetName := by
  have h : ((System.start (some Usb.kGadgetName) 0 false).play
      (disableSchedule ++ ((Gadget.rndisSchedule 0).take 11).map .gadget)).bind (fun p =>
        (p.step (.gadget (.act 0 (.writePullup Gadget.kGadgetName) true))).map fun p' =>
          ((p.usb.shared.dataDisabled, p.usb.shared.udc),
            (p'.usb.shared.dataDisabled, p'.usb.shared.udc))) =
      some ((true, none), (true, some Usb.kGadgetName)) := by
    decide +kernel
  obtain ⟨p, hp, h'⟩ := Option.bind_eq_some_iff.mp h
  obtain ⟨p', st, e⟩ := Option.map_eq_some_iff.mp h'
  simp only [Prod.mk.injEq] at e
  obtain ⟨⟨disabled, unbound⟩, disabled', bound⟩ := e
  have up : (Move.gadget (.act 0 (.writePullup Gadget.kGadgetName) true)).pullsUp := by
    show Gadget.kGadgetName ≠ "none"
    decide
  exact ⟨p, _, p', System.reach_play .refl hp, disabled, unbound, up, st, disabled', bound⟩

end Redfin.Phone
