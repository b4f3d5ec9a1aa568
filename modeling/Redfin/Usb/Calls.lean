import Redfin.Usb.Query
import Redfin.Usb.Service

/-!
# What the calls perform

The parts of the calls and of the worker that several proofs go through, for any property of
operations: if it holds of what the part may perform, it holds of all its operations.
-/

set_option linter.unusedSectionVars false

namespace Redfin.Usb

open Program

variable [Libbase]

variable {P : Op → Prop}

/-- The operations of telling the callback. -/
lemma all_notify {n : Notification} (lock : P (.lock .mLock)) (read : P .readCallback)
    (hn : P (.notify n)) (unlock : P (.unlock .mLock)) : (notify n).All P := by
  refine ⟨lock, fun _ => ⟨read, fun isSet => ?_⟩⟩
  cases isSet with
  | true => exact ⟨hn, fun _ => ⟨unlock, fun _ => trivial⟩⟩
  | false => exact ⟨unlock, fun _ => trivial⟩

/-- The operation of a write that may not be needed. -/
lemma all_writeIf {path content : String} (write : P (.writeFile path content)) (needed : Bool) :
    (writeIf needed path content).All P := by
  cases needed with
  | true => exact ⟨write, fun _ => trivial⟩
  | false => exact trivial

/-- Only to enable the data the name of the controller is written. -/
lemma all_setPullup {enable : Bool} (read : P (.readFile pullupPath))
    (up : enable = true → P (.writeFile pullupPath kGadgetName))
    (down : P (.writeFile pullupPath "none")) : (setPullup enable).All P := by
  refine ⟨read, fun pullup => ?_⟩
  cases pullup with
  | none => exact trivial
  | some pullup =>
    show Prog.All (S := sig) P (if enable = true then _ else _)
    generalize trim pullup = text
    split
    · rename_i enable
      exact all_writeIf (up enable) _
    · exact all_writeIf down _

/-- The operations of going back to dual role. -/
lemma all_switchToDrp (opens : ∀ path, P (.fopen path))
    (writes : ∀ portName tag, P (.fputs (appendRoleNodeHelper portName tag) "dual"))
    (closes : ∀ path, P (.fclose path)) (portName : String) : (switchToDrp portName).All P := by
  refine ⟨opens _, fun opened => ?_⟩
  cases opened with
  | true => exact ⟨writes _ _, fun _ => ⟨closes _, fun _ => trivial⟩⟩
  | false => exact trivial

/-- The operations of writing a role and reading it back. -/
lemma all_writeRole {role : PortRole} (opens : ∀ path, P (.fopen path))
    (writes : ∀ portName tag, P (.fputs (appendRoleNodeHelper portName tag)
      (convertRoletoString role)))
    (closes : ∀ path, P (.fclose path)) (reads : ∀ path, P (.readFile path))
    (portName : String) : (writeRole portName role).All P := by
  refine ⟨opens _, fun opened => ?_⟩
  cases opened with
  | false => exact trivial
  | true =>
    refine ⟨writes _ _, fun ok => ⟨closes _, fun _ => ?_⟩⟩
    cases ok with
    | false => exact trivial
    | true =>
      refine ⟨reads _, fun written => ?_⟩
      cases written with
      | none => exact trivial
      | some written => exact trivial

/-- The operations of going back to dual role on every port without a partner. -/
lemma all_switchDisconnected (opendir : ∀ path, P (.opendir path))
    (drp : ∀ portName, (switchToDrp portName).All P) (ports : List PortStatus) :
    (switchDisconnected ports).All P := by
  induction ports with
  | nil => exact trivial
  | cons port ports ih =>
    refine ⟨opendir _, fun present => ?_⟩
    cases present with
    | true => exact ih
    | false => exact (drp port.portName).bind fun _ => ih

/-! ## The calls that are served without a wait -/

/-- A call that is served at once has the operations of its body. -/
lemma all_serve {p : Hal Unit} (h : p.All P) : (serve p).All P := h.bind fun _ => trivial

/-- The operations of `enableUsbData`. -/
lemma all_enableUsbData {portName : String} {enable : Bool} {id : ℤ}
    (pull : (setPullup enable).All P) (write : ∀ content, P (.writeFile usbDataPath content))
    (store : P (.writeUsbDataEnabled enable))
    (tell : ∀ status, (notify (.enableUsbDataStatus portName enable status id)).All P)
    (query : (queryVersionHelper []).All P) : (enableUsbData portName enable id).All P := by
  refine pull.bind fun pulled => ⟨write _, fun written => ?_⟩
  have rest : (do
      notify (.enableUsbDataStatus portName enable (result (pulled && written)) id)
      let _ ← queryVersionHelper []).All P :=
    (tell _).bind fun _ => query.bind fun _ => trivial
  show Prog.All (S := sig) P (if (pulled && written) = true then _ else _)
  split
  · exact ⟨store, fun _ => rest⟩
  · exact rest

/-- The operations of `limitPowerTransfer`. -/
lemma all_limitPowerTransfer {portName : String} {limit : Bool} {id : ℤ}
    (lock : P (.lock .mLock)) (unlock : P (.unlock .mLock))
    (current : ∀ content, P (.writeFile sinkCurrentLimitPath content))
    (sink : ∀ content, P (.writeFile sinkLimitEnablePath content))
    (source : ∀ content, P (.writeFile sourceLimitEnablePath content)) (read : P .readCallback)
    (tell : ∀ status, P (.notify (.limitPowerTransferStatus portName limit status id)))
    (query : (queryVersionHelper []).All P) : (limitPowerTransfer portName limit id).All P := by
  have rest : (do
      call (.unlock .mLock)
      let _ ← queryVersionHelper []).All P :=
    ⟨unlock, fun _ => query.bind fun _ => trivial⟩
  refine ⟨lock, fun _ => (all_writeIf (current _) _).bind fun limited => ?_⟩
  refine ⟨sink _, fun sunk => ⟨source _, fun sourced => ⟨read, fun isSet => ?_⟩⟩⟩
  show Prog.All (S := sig) P (if (isSet && decide (0 ≤ id)) = true then _ else _)
  split
  · exact ⟨tell _, fun _ => rest⟩
  · exact rest

/-- The operations of `enableContaminantPresenceDetection`. -/
lemma all_enableContaminantPresenceDetection {portName : String} {enable : Bool} {id : ℤ}
    (get : ∀ key, P (.getProperty key)) (write : ∀ content, P (.writeFile kEnabledPath content))
    (tell : ∀ status, (notify (.contaminantEnabledStatus portName enable status id)).All P)
    (query : (queryVersionHelper []).All P) :
    (enableContaminantPresenceDetection portName enable id).All P := by
  refine ⟨get _, fun disable => ⟨get _, fun status => ?_⟩⟩
  refine (all_writeIf (write _) _).bind fun success => ?_
  exact (tell _).bind fun _ => query.bind fun _ => trivial

/-- The operations of `setCallback`. -/
lemma all_setCallback {isSet : Bool} (lock : P (.lock .mLock)) (unlock : P (.unlock .mLock))
    (read : P .readCallback) (write : ∀ isSet, P (.writeCallback isSet)) (kill : P .pthreadKill)
    (join : P .pthreadJoin) (clear : P (.writeDestroyThread false)) (signal : P .signal)
    (create : P .pthreadCreate) : (setCallback isSet).All P := by
  have done : (call (.unlock .mLock)).All P := ⟨unlock, fun _ => trivial⟩
  refine ⟨lock, fun _ => ⟨read, fun wasSet => ⟨write isSet, fun _ => ?_⟩⟩⟩
  show Prog.All (S := sig) P (if wasSet ≠ isSet then _ else _)
  split
  · cases isSet with
    | false =>
      refine ⟨kill, fun killed => ?_⟩
      cases killed with
      | false => exact done
      | true => exact ⟨join, fun _ => done⟩
    | true =>
      refine ⟨clear, fun _ => ⟨signal, fun _ => ⟨create, fun created => ?_⟩⟩⟩
      cases created with
      | false => exact ⟨write false, fun _ => done⟩
      | true => exact done
  · exact done

/-! ## The worker -/

/-- The operations of a port event. -/
lemma all_portEvent (query : (queryVersionHelper []).All P) (tries : P (.trylock .mRoleSwitchLock))
    (switch : ∀ ports, (switchDisconnected ports).All P) (unlock : P (.unlock .mRoleSwitchLock)) :
    portEvent.All P := by
  apply query.bind
  intro ports
  refine ⟨tries, fun taken => ?_⟩
  cases taken with
  | false => exact trivial
  | true => exact (switch ports).bind fun _ => ⟨unlock, fun _ => trivial⟩

/-- The operations of the records of one message. -/
lemma all_handleRecords (added : partnerAdded.All P) (event : portEvent.All P)
    (cps : List (List Char)) : (handleRecords cps).All P := by
  induction cps with
  | nil => exact trivial
  | cons cp cps ih =>
    rw [handleRecords]
    split
    · exact added.bind fun _ => ih
    · split
      · exact event
      · exact ih

/-- The operations of the worker outside its handling of a message. -/
def Op.runsWorker : Op → Bool
  | .readDestroyThread | .openSocket | .epollCreate | .epollCtl | .epollEnter | .epollReturn | .recv
  | .close | .pthreadExit => true
  | _ => false

section

variable {Q : Type} {A : Protocol sig Q} {q : Q} {post : Next → Q → Prop}

/-- The end of the worker, in any protocol to which it is neutral. -/
lemma follows_exitWorker (neutral : ∀ o : Op, o.runsWorker = true → A.Neutral q o)
    (gone : post .gone q) : exitWorker.Follows A q post :=
  Prog.follows_neutral (neutral _ rfl) fun _ => Prog.follows_neutral (neutral _ rfl) fun _ => gone

/-- A turn of the worker begins at the test of `destroyThread` or in its wait. -/
lemma follows_work (neutral : ∀ o : Op, o.runsWorker = true → A.Neutral q o) (gone : post .gone q)
    (loop : post .loop q) : work.Follows A q post := by
  apply Prog.follows_neutral (neutral _ rfl)
  intro opened
  cases opened with
  | false => exact Prog.follows_neutral (neutral _ rfl) fun _ => gone
  | true =>
    apply Prog.follows_neutral (neutral _ rfl)
    intro created
    cases created with
    | false => exact follows_exitWorker neutral gone
    | true =>
      apply Prog.follows_neutral (neutral _ rfl)
      intro added
      cases added with
      | false => exact follows_exitWorker neutral gone
      | true => exact loop

/-- A turn of the loop keeps to a protocol if the handling of a message does. -/
lemma follows_workTurn (neutral : ∀ o : Op, o.runsWorker = true → A.Neutral q o)
    (handle : ∀ cps, (handleRecords cps).Follows A q fun _ q' => q' = q) (gone : post .gone q)
    (loop : post .loop q) : workTurn.Follows A q post := by
  apply Prog.follows_neutral (neutral _ rfl)
  intro destroy
  cases destroy with
  | true => exact follows_exitWorker neutral gone
  | false =>
    apply Prog.follows_neutral (neutral _ rfl)
    intro _
    apply Prog.follows_neutral (neutral _ rfl)
    intro r
    cases r with
    | interrupted => exact loop
    | failed => exact follows_exitWorker neutral gone
    | ready =>
      have event : ueventEvent.Follows A q fun _ q' => q' = q := by
        apply Prog.follows_neutral (neutral _ rfl)
        intro packet
        cases packet with
        | none => exact rfl
        | some msg =>
          show Prog.Follows A (if msg.length ≥ ueventMsgLen then _ else _) q _
          split
          · exact rfl
          · exact handle _
      apply event.bind
      rintro _ _ rfl
      exact loop

end

end Redfin.Usb
