import Redfin.Usb.Calls
import Redfin.Usb.Service

/-!
# The UDC node while the data is disabled

From the report of a successful `enableUsbData(false)` to the next `enableUsbData(true)` no thread
of the USB HAL is about to write the name of a controller to the UDC node.
-/

set_option linter.unusedSectionVars false

namespace Redfin.Usb

open Function Program

variable [Libbase]

/-- The operation does neither. -/
def Op.Plain (o : Op) : Prop := ¬o.pullsUp ∧ o.disables = false

/-- An appended text gives the last character. -/
lemma getLast_append (s : String) {t : String} {c : Char} (h : t.toList.getLast? = some c) :
    (s ++ t).toList.getLast? = some c := by
  rw [String.toList_append, List.getLast?_append, h, Option.some_or]

/-- No role node is the UDC node. -/
lemma roleNode_ne (portName : String) (tag : PortRole.Tag) :
    appendRoleNodeHelper portName tag ≠ pullupPath := by
  have role : (appendRoleNodeHelper portName tag).toList.getLast? = some 'e' := by
    cases tag with
    | dataRole => exact getLast_append _ (by decide)
    | powerRole => exact getLast_append _ (by decide)
    | mode => exact getLast_append _ (by decide)
  have udc : pullupPath.toList.getLast? = some 'C' := by decide
  intro h
  rw [h, udc] at role
  exact absurd role (by decide)

/-- Writing `none` binds no controller. -/
lemma not_pullsUp_none (path : String) : ¬(Op.writeFile path "none").pullsUp := fun h => h.2 rfl

/-- Writing elsewhere binds no controller. -/
lemma not_pullsUp_path {path : String} (h : path ≠ pullupPath) (content : String) :
    ¬(Op.writeFile path content).pullsUp := fun e => h e.1

/-- Writing a role binds no controller: the node is another one. -/
lemma not_pullsUp_fputs (portName : String) (tag : PortRole.Tag) (content : String) :
    ¬(Op.fputs (appendRoleNodeHelper portName tag) content).pullsUp := roleNode_ne portName tag

/-! ## The worker -/

/-- Going back to dual role is plain. -/
lemma plain_switchToDrp (portName : String) : (switchToDrp portName).All Op.Plain :=
  all_switchToDrp (fun _ => ⟨id, rfl⟩) (fun portName tag => ⟨not_pullsUp_fputs portName tag _, rfl⟩)
    (fun _ => ⟨id, rfl⟩) portName

/-- The operations of the query are plain. -/
lemma queries_plain : Queries Op.Plain where
  readFile _ := ⟨id, rfl⟩
  listDir _ := ⟨id, rfl⟩
  hashOrder _ := ⟨id, rfl⟩
  readUsbDataEnabled := ⟨id, rfl⟩
  abort := ⟨id, rfl⟩
  access _ _ := ⟨id, rfl⟩
  readCallback := ⟨id, rfl⟩
  notify _ _ := ⟨id, rfl⟩

/-- The query is plain. -/
lemma plain_queryVersionHelper (v : List PortStatus) : (queryVersionHelper v).All Op.Plain :=
  all_queryVersionHelper queries_plain ⟨id, rfl⟩ ⟨id, rfl⟩ v

/-- The records of one message are plain. -/
lemma plain_handleRecords (cps : List (List Char)) : (handleRecords cps).All Op.Plain := by
  induction cps with
  | nil => exact trivial
  | cons cp cps ih =>
    rw [handleRecords]
    split
    · have added : partnerAdded.All Op.Plain :=
        ⟨⟨id, rfl⟩, fun _ => ⟨⟨id, rfl⟩, fun _ => ⟨⟨id, rfl⟩, fun _ =>
          ⟨⟨id, rfl⟩, fun _ => trivial⟩⟩⟩⟩
      exact added.bind fun _ => ih
    · split
      · refine (plain_queryVersionHelper []).bind fun ports => ⟨⟨id, rfl⟩, fun taken => ?_⟩
        cases taken with
        | false => exact trivial
        | true =>
          have switch := all_switchDisconnected (P := Op.Plain) (fun _ => ⟨id, rfl⟩)
            plain_switchToDrp ports
          exact switch.bind fun _ => ⟨⟨id, rfl⟩, fun _ => trivial⟩
      · exact ih

/-- The end of the worker is plain. -/
lemma plain_exitWorker : exitWorker.All Op.Plain :=
  ⟨⟨id, rfl⟩, fun _ => ⟨⟨id, rfl⟩, fun _ => trivial⟩⟩

/-- The worker's loop is plain. -/
lemma plain_work : work.All Op.Plain := by
  refine ⟨⟨id, rfl⟩, fun opened => ?_⟩
  cases opened with
  | false => exact ⟨⟨id, rfl⟩, fun _ => trivial⟩
  | true =>
    refine ⟨⟨id, rfl⟩, fun created => ?_⟩
    cases created with
    | false => exact plain_exitWorker
    | true =>
      refine ⟨⟨id, rfl⟩, fun added => ?_⟩
      cases added with
      | false => exact plain_exitWorker
      | true => exact trivial

/-- A turn of the worker is plain. -/
lemma plain_workTurn : workTurn.All Op.Plain := by
  refine ⟨⟨id, rfl⟩, fun destroy => ?_⟩
  cases destroy with
  | true => exact plain_exitWorker
  | false =>
    refine ⟨⟨id, rfl⟩, fun _ => ⟨⟨id, rfl⟩, fun r => ?_⟩⟩
    cases r with
    | interrupted => exact trivial
    | failed => exact plain_exitWorker
    | ready =>
      refine ⟨⟨id, rfl⟩, fun packet => ?_⟩
      cases packet with
      | none => exact trivial
      | some msg =>
        have handle : (if msg.length ≥ ueventMsgLen then return () else
            handleRecords (records msg) : Hal Unit).All Op.Plain := by
          split
          · exact trivial
          · exact plain_handleRecords _
        exact handle.bind fun _ => trivial

/-! ## The calls -/

/-- The program binds no controller. -/
abbrev Quiet {α : Type} (p : Hal α) : Prop := p.All fun o : Op => ¬o.pullsUp

/-- The query binds no controller. -/
lemma quiet_queryVersionHelper (v : List PortStatus) : Quiet (queryVersionHelper v) :=
  (plain_queryVersionHelper v).mono fun _ h => h.1

/-- Telling the callback binds no controller. -/
lemma quiet_notify (n : Notification) : Quiet (notify n) := all_notify id id id id

/-- `limitPowerTransfer` binds no controller. -/
lemma quiet_limitPowerTransfer (portName : String) (limit : Bool) (id : ℤ) :
    Quiet (limitPowerTransfer portName limit id) :=
  all_limitPowerTransfer nofun nofun (not_pullsUp_path (by decide)) (not_pullsUp_path (by decide))
    (not_pullsUp_path (by decide)) nofun (fun _ => nofun) (quiet_queryVersionHelper [])

/-- `setCallback` binds no controller. -/
lemma quiet_setCallback (isSet : Bool) : Quiet (setCallback isSet) :=
  all_setCallback nofun nofun nofun (fun _ => nofun) nofun nofun nofun nofun nofun

/-- The end of a mode switch binds no controller. -/
lemma quiet_finishModeSwitch (portName : String) (role : PortRole) (id : ℤ) (roleSwitch : Bool) :
    Quiet (finishModeSwitch portName role id roleSwitch) := by
  have finish : Quiet (finishRoleSwitch portName role id roleSwitch) :=
    (quiet_notify _).bind fun _ => ⟨nofun, fun _ => trivial⟩
  cases roleSwitch with
  | true => exact finish
  | false => exact ((plain_switchToDrp portName).mono fun _ h => h.1).bind fun _ => finish

/-- The wait for the partner binds no controller. -/
lemma quiet_waitAgain (portName : String) (role : PortRole) (id : ℤ) :
    Quiet (waitAgain portName role id) := by
  refine ⟨nofun, fun _ => ⟨nofun, fun timedOut => ⟨nofun, fun _ => ?_⟩⟩⟩
  cases timedOut with
  | true => exact ⟨nofun, fun _ => quiet_finishModeSwitch portName role id false⟩
  | false =>
    refine ⟨nofun, fun up => ?_⟩
    cases up with
    | false => exact trivial
    | true => exact ⟨nofun, fun _ => quiet_finishModeSwitch portName role id true⟩

/-- `switchRole` binds no controller. -/
lemma quiet_switchRole (portName : String) (role : PortRole) (id : ℤ) :
    Quiet (switchRole portName role id) := by
  refine ⟨nofun, fun _ => ?_⟩
  show Quiet (if role.getTag = .mode then _ else _)
  split
  · refine ⟨nofun, fun opened => ?_⟩
    have failed := quiet_finishModeSwitch portName role id false
    cases opened with
    | false => exact failed
    | true =>
      refine ⟨nofun, fun _ => ⟨nofun, fun _ => ⟨not_pullsUp_fputs _ _ _, fun written => ?_⟩⟩⟩
      refine ⟨nofun, fun _ => ?_⟩
      cases written with
      | true => exact trivial
      | false => exact ⟨nofun, fun _ => failed⟩
  · have write : Quiet (writeRole portName role) :=
      all_writeRole (fun _ => nofun) (fun portName tag => not_pullsUp_fputs portName tag _)
        (fun _ => nofun) (fun _ => nofun) portName
    exact write.bind fun roleSwitch => (quiet_notify _).bind fun _ => ⟨nofun, fun _ => trivial⟩

/-- Every call but `enableUsbData(true)` binds no controller. -/
lemma quiet_call {call : Call} (h : call.enables = false) : Quiet call.program := by
  cases call with
  | enableUsbData portName enable id =>
    cases enable with
    | true => cases h
    | false =>
      exact all_serve (all_enableUsbData (all_setPullup nofun nofun (not_pullsUp_none _))
        (not_pullsUp_path (by decide)) nofun (fun _ => quiet_notify _)
        (quiet_queryVersionHelper []))
  | enableUsbDataWhileDocked portName id =>
    exact all_serve ((quiet_notify _).bind fun _ =>
      (quiet_queryVersionHelper []).bind fun _ => trivial)
  | resetUsbPort portName id =>
    exact all_serve ⟨not_pullsUp_none _, fun _ => quiet_notify _⟩
  | limitPowerTransfer portName limit id =>
    exact all_serve (quiet_limitPowerTransfer portName limit id)
  | switchRole portName role id => exact quiet_switchRole portName role id
  | queryPortStatus id =>
    exact all_serve ((quiet_queryVersionHelper []).bind fun _ => quiet_notify _)
  | enableContaminantPresenceDetection portName enable id =>
    exact all_serve (all_enableContaminantPresenceDetection (fun _ => nofun)
      (not_pullsUp_path (by decide)) (fun _ => quiet_notify _) (quiet_queryVersionHelper []))
  | setCallback isSet => exact all_serve (quiet_setCallback isSet)

/-- `enableUsbData(true)` does not report that the data is disabled. -/
lemma enables_call {call : Call} (h : call.enables = true) :
    call.program.All fun o : Op => o.disables = false := by
  cases call with
  | enableUsbData portName enable id =>
    cases enable with
    | false => cases h
    | true =>
      exact all_serve (all_enableUsbData (all_setPullup rfl (fun _ => rfl) rfl) (fun _ => rfl) rfl
        (fun _ => all_notify rfl rfl rfl rfl)
        ((plain_queryVersionHelper []).mono fun _ h => h.2))
  | _ => cases h

/-! ## Every run -/

/-- What is left of the worker's program binds nothing; what is left of the binder thread's program
binds nothing either, except in an `enableUsbData(true)`, in which the data is not disabled. -/
structure DisabledInv (c : Config sig Thread Next Shared) : Prop where
  worker : (c.prog .worker).All Op.Plain
  binder : Quiet (c.prog .binder) ∨
    c.shared.dataDisabled = false ∧ (c.prog .binder).All fun o : Op => o.disables = false

section

variable {c c' : Config sig Thread Next Shared}

/-- The binder thread may go on to a quiet program, or to any that disables nothing while data is
enabled. -/
lemma DisabledInv.update_binder (h : DisabledInv c) {s : Shared} {p : Hal Next}
    (hp : Quiet p ∨ s.dataDisabled = false ∧ p.All fun o : Op => o.disables = false) :
    DisabledInv ⟨s, update c.prog .binder p⟩ where
  worker := h.worker
  binder := hp

/-- The worker may go on to a plain program. -/
lemma DisabledInv.update_worker (h : DisabledInv c) {s : Shared} {p : Hal Next}
    (hs : s.dataDisabled = c.shared.dataDisabled) (hp : p.All Op.Plain) :
    DisabledInv ⟨s, update c.prog .worker p⟩ where
  worker := hp
  binder := by
    show Quiet (c.prog .binder) ∨ s.dataDisabled = false ∧ _
    rw [hs]
    exact h.binder

/-- Every step keeps the invariant. -/
lemma disabledInv_step {l : Label sig Thread Turn EnvEvent} (h : DisabledInv c)
    (st : service.step c l = some c') : DisabledInv c' := by
  cases l with
  | act t o r =>
    obtain ⟨k, s, e, hs, rfl⟩ := Machine.step_act st
    have effect := (effect_act hs).dataDisabled
    cases t with
    | binder =>
      have binder := h.binder
      rw [e] at binder
      -- only an `enableUsbData(true)` may bind, and it does not report that the data is disabled
      rcases binder with quiet | ⟨enabled, silent⟩
      · exact h.update_binder (.inl (quiet.2 r))
      · refine h.update_binder (.inr ⟨?_, silent.2 r⟩)
        rw [effect, enabled, silent.1, Bool.or_false]
    | worker =>
      have worker := h.worker
      rw [e] at worker
      refine h.update_worker ?_ (worker.2 r)
      rw [effect, worker.1.2, Bool.or_false]
  | go t x =>
    obtain ⟨l, p, s, -, hs, rfl⟩ := Machine.step_go st
    cases goes_of_go hs with
    | serve call =>
      cases hc : call.enables with
      | true => exact h.update_binder (.inr ⟨Bool.and_false _, enables_call hc⟩)
      | false => exact h.update_binder (.inl (quiet_call hc))
    | waitAgain portName role id => exact h.update_binder (.inl (quiet_waitAgain portName role id))
    | start created => exact h.update_worker rfl plain_work
    | loop => exact h.update_worker rfl plain_workTurn
  | env e =>
    obtain ⟨s, hs, rfl⟩ := Machine.step_env st
    have same : s.dataDisabled = c.shared.dataDisabled := by
      cases e with
      | uevent packet =>
        cases hs
        exact rfl
      | deliverSignal =>
        obtain ⟨-, rfl⟩ := of_enabled hs
        exact rfl
      | pullup udc =>
        cases hs
        exact rfl
    exact ⟨h.worker, same ▸ h.binder⟩

/-- The invariant holds in every state reached. -/
lemma disabledInv_reach {udc : Option String} (run : service.Reach (service.start udc) c) :
    DisabledInv c := by
  induction run with
  | refl => exact ⟨trivial, .inl trivial⟩
  | tail _ _ st ih => exact disabledInv_step ih st

/-- In every run, as long as the data is disabled no thread is about to bind a controller. -/
theorem quiet_while_disabled {udc : Option String} (run : service.Reach (service.start udc) c)
    (disabled : c.shared.dataDisabled = true) {t : Thread} {o : Op} {k : o.Res → Hal Next}
    (e : c.prog t = .op o k) : ¬o.pullsUp := by
  have h := disabledInv_reach run
  cases t with
  | binder =>
    have binder := h.binder
    rw [e] at binder
    rcases binder with quiet | ⟨enabled, -⟩
    · exact quiet.1
    · rw [disabled] at enabled
      cases enabled
  | worker =>
    have worker := h.worker
    rw [e] at worker
    exact worker.1.1

end

end Redfin.Usb
