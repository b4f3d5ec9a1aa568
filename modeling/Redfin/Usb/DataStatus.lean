import Mathlib.Data.List.Induction
import Redfin.Usb.Calls

/-!
# The reported data status and the node

`enableUsbData` writes the UDC node and the `usb_data_enabled` node and stores the new value in
`mUsbDataEnabled` only if nothing failed; a new process starts with the value true. The data status
reported for a port comes from `mUsbDataEnabled`, not from the node. The two agree after every
event exactly if no call has its data write accepted and its UDC write refused with a value other
than the stored one, and no restart happens while the node holds 0 (`agrees_iff`).
-/

set_option linter.unusedSectionVars false

namespace Redfin.Usb

open Program

section

variable [Libbase]

/-- `mUsbDataEnabled`, and whether the last value that `usb_data_enabled` accepted is 1. -/
structure Data where
  usbDataEnabled : Bool
  node : Bool
deriving DecidableEq, Repr

/-- The reported status is not the opposite of what the node holds. -/
def Data.Agrees (s : Data) : Prop :=
  (s.node = true → dataStatus s.usbDataEnabled ≠ .disabledForce) ∧
    (s.node = false → dataStatus s.usbDataEnabled ≠ .enabled)

/-- The outcomes of a call: of its read and its write of the UDC node, of its write of
`usb_data_enabled`, and of every other operation. -/
structure Outcomes where
  pullup : Option String
  pullupWritten : Bool
  dataWritten : Bool
  rest : (o : Op) → Option o.Res

def Outcomes.handle (x : Outcomes) : Handler sig Data
  | .readFile path, s => (if path = pullupPath then some x.pullup else x.rest (.readFile path), s)
  | .writeFile path content, s =>
    if path = usbDataPath then
      (some x.dataWritten, if x.dataWritten then { s with node := content = "1" } else s)
    else if path = pullupPath then (some x.pullupWritten, s)
    else (x.rest (.writeFile path content), s)
  | .readUsbDataEnabled, s => (some s.usbDataEnabled, s)
  | .writeUsbDataEnabled enabled, s => (some (), { s with usbDataEnabled := enabled })
  | o, s => (x.rest o, s)

/-- The UDC node is as the call wants it, could not be read, or was written. -/
def Outcomes.pulled (x : Outcomes) (enable : Bool) : Bool :=
  match x.pullup with
  | none => true
  | some pullup => decide (trim pullup = kGadgetName) == enable || x.pullupWritten

inductive Event where
  | enableUsbData (portName : String) (enable : Bool) (id : ℤ) (x : Outcomes)
  | restart

/-- The state after an event; the constructor of `Usb` sets `mUsbDataEnabled`. -/
def Data.step (s : Data) : Event → Data
  | .enableUsbData portName enable id x => ((enableUsbData portName enable id).exec x.handle s).2
  | .restart => { s with usbDataEnabled := true }

/-- The start of the system: the node holds 1, as the new process takes it. -/
def Data.start : Data := ⟨true, true⟩

/-- The condition on an event, in the state it happens in. -/
def Faithful (s : Data) : Event → Prop
  | .enableUsbData _ enable _ x =>
    x.dataWritten = true → x.pulled enable = false → enable = s.usbDataEnabled
  | .restart => s.node = true

/-! ## What a call does to the two values -/

/-- An operation that touches neither value. -/
def Untouched : Op → Prop
  | .writeFile path _ => path ≠ usbDataPath
  | .writeUsbDataEnabled _ => False
  | _ => True

/-- An operation that touches neither value leaves both alone. -/
lemma handle_untouched (x : Outcomes) (o : Op) (s : Data) (h : Untouched o) :
    (x.handle o s).2 = s := by
  cases o with
  | writeFile path content =>
    simp only [Outcomes.handle, if_neg h]
    split <;> rfl
  | writeUsbDataEnabled b => exact h.elim
  | _ => rfl

/-- The query for the port status touches neither value. -/
lemma queries_untouched : Queries Untouched where
  readFile _ := trivial
  listDir _ := trivial
  hashOrder _ := trivial
  readUsbDataEnabled := trivial
  abort := trivial
  access _ _ := trivial
  readCallback := trivial
  notify _ _ := trivial

/-- A write to the controller succeeds unless it was needed and has failed. -/
lemma exec_writeIf (x : Outcomes) (needed : Bool) (content : String) (s : Data) :
    (writeIf needed pullupPath content).exec x.handle s =
      (some (!needed || x.pullupWritten), s) := by
  cases needed with
  | false => rfl
  | true =>
    have h : x.handle (.writeFile pullupPath content) s = (some x.pullupWritten, s) := by
      simp only [Outcomes.handle]
      rw [if_neg (by decide), if_pos trivial]
    exact Prog.exec_op _ h

/-- Setting the pull-up returns as its writes say. -/
lemma exec_setPullup (x : Outcomes) (enable : Bool) (s : Data) :
    (setPullup enable).exec x.handle s = (some (x.pulled enable), s) := by
  have h : x.handle (.readFile pullupPath) s = (some x.pullup, s) := by
    simp only [Outcomes.handle, if_true]
  simp only [setPullup, Prog.call, Prog.op_bind, Prog.ret_bind]
  rw [Prog.exec_op _ h, Outcomes.pulled]
  cases x.pullup with
  | none => rfl
  | some pullup =>
    cases enable with
    | true => simp [exec_writeIf]
    | false => simp [exec_writeIf]

/-- A call stores its value if nothing failed, and changes the node if the node accepted it. -/
lemma exec_enableUsbData (x : Outcomes) (portName : String) (enable : Bool) (id : ℤ) (s : Data) :
    ((enableUsbData portName enable id).exec x.handle s).2 =
      { usbDataEnabled := if x.pulled enable && x.dataWritten then enable else s.usbDataEnabled
        node := if x.dataWritten then enable else s.node } := by
  -- once both values are written nothing touches them
  have rest (n : Notification) (s : Data) :
      ((do
        notify n
        let _ ← queryVersionHelper []).exec x.handle s).2 = s := by
    have all : (do
        notify n
        let _ ← queryVersionHelper [] : Hal Unit).All Untouched := by
      refine (all_notify trivial trivial trivial trivial).bind fun _ => ?_
      exact (all_queryVersionHelper queries_untouched trivial trivial []).bind fun _ => trivial
    exact all.exec_state (handle_untouched x) s
  have write : x.handle (.writeFile usbDataPath (if enable then "1" else "0")) s =
      (some x.dataWritten, if x.dataWritten then { s with node := enable } else s) := by
    simp only [Outcomes.handle, if_true]
    cases enable with
    | true => rfl
    | false => rfl
  rw [enableUsbData, Prog.exec_bind_of _ (exec_setPullup x enable s)]
  simp only [Prog.call, Prog.op_bind, Prog.ret_bind]
  rw [Prog.exec_op _ write]
  cases hd : x.dataWritten with
  | false =>
    simp only [Bool.and_false, Bool.false_eq_true, if_false]
    exact rest _ s
  | true =>
    cases hp : x.pulled enable with
    | false =>
      simp only [Bool.and_true, Bool.false_eq_true, if_false, if_true]
      exact rest _ _
    | true =>
      simp only [Bool.and_true, if_true, Prog.exec, Outcomes.handle]
      exact rest _ _

/-! ## Runs -/

/-- What agreement means. -/
lemma agrees_def (s : Data) : s.Agrees ↔ s.usbDataEnabled = s.node := by
  obtain ⟨enabled, node⟩ := s
  cases enabled <;> cases node <;> simp [Data.Agrees, dataStatus]

/-- An event keeps the agreement exactly if it meets the condition. -/
lemma agrees_step {s : Data} (hs : s.Agrees) (e : Event) : (s.step e).Agrees ↔ Faithful s e := by
  rw [agrees_def] at hs ⊢
  cases e with
  | restart => exact eq_comm
  | enableUsbData portName enable id x =>
    rw [Data.step, exec_enableUsbData]
    simp only [Faithful]
    cases hd : x.dataWritten with
    | false => simp [hs]
    | true =>
      cases hp : x.pulled enable with
      | false => simp [eq_comm]
      | true => simp

/-- The reported status agrees with the node after every event if and only if every event meets the
condition in the state it happens in. -/
theorem agrees_iff (es : List Event) :
    (∀ pre, pre <+: es → (pre.foldl Data.step .start).Agrees) ↔
      ∀ pre e, pre ++ [e] <+: es → Faithful (pre.foldl Data.step .start) e := by
  constructor
  · intro h pre e he
    have before := h pre ((List.prefix_append pre [e]).trans he)
    have after := h _ he
    rw [List.foldl_append] at after
    exact (agrees_step before e).mp after
  · intro h pre
    induction pre using List.reverseRecOn with
    | nil => exact fun _ => (agrees_def _).mpr rfl
    | append_singleton pre e ih =>
      intro he
      have before := ih ((List.prefix_append pre [e]).trans he)
      rw [List.foldl_append]
      exact (agrees_step before e).mpr (h pre e he)

/-- The UDC refuses the write of `none`, and `usb_data_enabled` accepts the 0. -/
def refusedOutcomes : Outcomes where
  pullup := some "a600000.dwc3\n"
  pullupWritten := false
  dataWritten := true
  rest := answer (some [⟨"port0", true⟩])

end

open Libbase.Documented in
/-- The node then holds 0, and the status reported is still enabled. -/
theorem disagrees_after_refused_pullup :
    ¬∀ pre, pre <+: [Event.enableUsbData "port0" false 1 refusedOutcomes] →
      (pre.foldl Data.step .start).Agrees := by
  intro h
  have after := h _ (List.prefix_refl _)
  have state : [Event.enableUsbData "port0" false 1 refusedOutcomes].foldl Data.step .start =
      ⟨true, false⟩ := by decide +kernel
  rw [state] at after
  exact after.2 rfl rfl

end Redfin.Usb
