import Redfin.Gadget.Links
import Redfin.Gadget.Service

/-!
# The phases of a thread of the gadget service

The protocol that every call of the interface follows: which operations a thread performs in which
phase of a request. The programs are looked at here once; what holds of the service is proved over
the phases.
-/

namespace Redfin.Gadget

open Program

/-- Where a thread is. From `locked` to the release of the lock it serves a request for the
functions the phase carries. -/
inductive Phase where
  | idle
  | resetDown
  | locked
  | begun (f : UInt64)
  | cleared (f : UInt64)
  | failed (f : UInt64)
  | torn (f : UInt64)
  | running (f : UInt64)
  | stopped (f : UInt64)
  | pulled (f : UInt64)
  | started (f : UInt64)
deriving DecidableEq

namespace Phase

/-- The thread holds the request lock. -/
def holds : Phase → Prop
  | idle | resetDown => False
  | _ => True

/-- The request may end here. -/
def CanEnd (q : Phase) : Prop :=
  ∃ f, q = .failed f ∨ q = .stopped f ∨ q = .pulled f ∨ q = .started f

/-- The gadget has been pulled up or handed to the monitor. -/
def IsUp (q : Phase) : Prop := ∃ f ≠ GadgetFunction.none, q = .pulled f ∨ q = .started f

/-- The operations a thread performs in a phase. -/
def ok (q : Phase) : Op → Prop
  | .lock => q = .idle
  | .unlock => q.CanEnd
  | .writeFunctions _ => q = .locked
  | .writeApplied true => ∃ f, q = .pulled f
  | .writeApplied false => ∃ f, q = .begun f
  | .readFunctions => q = .idle
  | .readApplied => q = .idle
  | .getCurrentUsbFunctionsCb _ _ => q = .idle
  | .resetGadget => ∃ f, q = .cleared f
  | .isMonitorRunning => ∃ f, q = .torn f
  | .monitorReset => ∃ f, q = .running f
  | .startMonitor => ∃ f ≠ GadgetFunction.none, q = .stopped f
  | .writePullup content =>
    content = "none" ∧ q = .idle ∨
      content = kGadgetName ∧ (q = .resetDown ∨ ∃ f ≠ GadgetFunction.none, q = .stopped f)
  | .setCurrentUsbFunctionsCb f status =>
    status ≠ .success ∧ (q = .failed f ∨ q = .stopped f) ∨
      f = GadgetFunction.none ∧ q = .stopped f ∨
      f ≠ GadgetFunction.none ∧ (q = .pulled f ∨ q = .started f)
  | .usleep => q = .resetDown ∨ ∃ f, q = .stopped f
  | _ => ∃ f, q = .stopped f ∨ q = .started f

/-- The phase after an operation with its result. -/
def next : Phase → (o : Op) → o.Res → Phase
  | _, .lock, _ => .locked
  | _, .unlock, _ => .idle
  | _, .writeFunctions f, _ => .begun f
  | .begun f, .writeApplied _, _ => .cleared f
  | .cleared f, .resetGadget, (status, _) => if status = .success then .torn f else .failed f
  | .torn f, .isMonitorRunning, b => if b then .running f else .stopped f
  | .running f, .monitorReset, _ => .stopped f
  | .stopped f, .startMonitor, _ => .started f
  | .stopped f, .writePullup _, ok => if ok then .pulled f else .stopped f
  | .idle, .writePullup _, ok => if ok then .resetDown else .idle
  | .resetDown, .writePullup _, _ => .idle
  | q, _, _ => q

end Phase

/-- The protocol of the threads of the service. -/
def protocol : Protocol sig Phase where
  ok := Phase.ok
  next := Phase.next

/-! ## The programs follow the protocol -/

/-- Linking functions is no change of phase. -/
lemma neutral_linkAll (fs : List String) (i : ℕ) (f : UInt64) :
    (linkAll fs i).All (protocol.Neutral (.stopped f)) :=
  all_linkAll (fun _ _ => ⟨⟨f, .inl rfl⟩, fun _ => rfl⟩) fs i

/-- Setting the ids is no change of phase. -/
lemma neutral_validateAndSetVidPid (f : UInt64) :
    (validateAndSetVidPid f).All (protocol.Neutral (.stopped f)) :=
  all_validateAndSetVidPid ⟨⟨f, .inl rfl⟩, fun _ => rfl⟩
    (fun _ _ => ⟨⟨f, .inl rfl⟩, fun _ => rfl⟩) f

/-- The callback is told where the phase allows it. -/
lemma follows_notify {b : Bool} {f : UInt64} {status : Status} {q : Phase}
    {post : Unit → Phase → Prop} (ok : q.ok (.setCurrentUsbFunctionsCb f status))
    (hq : q.next (.setCurrentUsbFunctionsCb f status) () = q) (h : post () q) :
    (notify b f status).Follows protocol q post := by
  cases b with
  | false => exact h
  | true =>
    refine ⟨ok, fun r => ?_⟩
    have e : protocol.next q (.setCurrentUsbFunctionsCb f status) r = q := hq
    rw [e]
    exact h

/-- After the tear-down the request is stopped, or has failed. -/
lemma follows_tearDownGadget (f : UInt64) :
    tearDownGadget.Follows protocol (.cleared f) fun status q =>
      status = .success ∧ q = .stopped f ∨ status ≠ .success ∧ q = .failed f := by
  simp only [tearDownGadget, Prog.call, Prog.op_bind, Prog.ret_bind, Prog.follows_op]
  refine ⟨⟨f, rfl⟩, fun r => ?_⟩
  by_cases h : r.1 = .success
  · rw [if_neg (not_not.mpr h)]
    have e : protocol.next (.cleared f) .resetGadget r = .torn f := if_pos h
    rw [e]
    refine ⟨⟨f, rfl⟩, fun b => ?_⟩
    cases b with
    | true => exact ⟨⟨f, rfl⟩, fun _ => .inl ⟨rfl, rfl⟩⟩
    | false => exact .inl ⟨rfl, rfl⟩
  · rw [if_pos h]
    have e : protocol.next (.cleared f) .resetGadget r = .failed f := if_neg h
    rw [e]
    exact .inr ⟨fun success => Status.noConfusion success, rfl⟩

/-- Pulling up without the monitor ends pulled up or stopped. -/
lemma follows_pullUpNow (b : Bool) {f : UInt64} (hf : f ≠ GadgetFunction.none) :
    (pullUpNow f b).Follows protocol (.stopped f) fun status q =>
      status = .success ∧ q.IsUp ∨ status ≠ .success ∧ q = .stopped f := by
  have up : Phase.IsUp (.pulled f) := ⟨f, hf, .inl rfl⟩
  simp only [pullUpNow, Prog.call, Prog.op_bind, Prog.ret_bind, Prog.follows_op]
  refine ⟨.inr ⟨rfl, .inr ⟨f, hf, rfl⟩⟩, fun ok => ?_⟩
  cases ok with
  | false => exact .inr ⟨fun success => Status.noConfusion success, rfl⟩
  | true =>
    refine ⟨⟨f, rfl⟩, fun _ => ?_⟩
    cases b with
    | true => exact ⟨.inr (.inr ⟨hf, .inl rfl⟩), fun _ => .inl ⟨rfl, up⟩⟩
    | false => exact .inl ⟨rfl, up⟩

/-- Pulling up through the monitor succeeds, whatever the wait for it gives. -/
lemma follows_pullUpLater (b : Bool) (timeout : UInt64) {f : UInt64}
    (hf : f ≠ GadgetFunction.none) :
    (pullUpLater f b timeout).Follows protocol (.stopped f) fun status q =>
      status = .success ∧ q.IsUp := by
  have up : Phase.IsUp (.started f) := ⟨f, hf, .inr rfl⟩
  simp only [pullUpLater, Prog.call, Prog.op_bind, Prog.ret_bind, Prog.follows_op]
  refine ⟨⟨f, .inl rfl⟩, fun _ => ⟨⟨f, hf, rfl⟩, fun _ => ?_⟩⟩
  cases b with
  | true =>
    exact ⟨⟨f, .inr rfl⟩, fun _ => ⟨.inr (.inr ⟨hf, .inr rfl⟩), fun _ => ⟨rfl, up⟩⟩⟩
  | false => exact ⟨rfl, up⟩

/-- Either way of pulling up. -/
lemma follows_pullUp (b ffs : Bool) (timeout : UInt64) {f : UInt64}
    (hf : f ≠ GadgetFunction.none) :
    (pullUp f b timeout ffs).Follows protocol (.stopped f) fun status q =>
      status = .success ∧ q.IsUp ∨ status ≠ .success ∧ q = .stopped f := by
  cases ffs with
  | false => exact follows_pullUpNow b hf
  | true => exact (follows_pullUpLater b timeout hf).mono fun _ _ h => .inl h

/-- The end of the set-up, from the links on. -/
lemma follows_finishSetup (b ffs : Bool) (timeout : UInt64) (i : ℕ) {f : UInt64}
    (hf : f ≠ GadgetFunction.none) :
    (finishSetup f b timeout ffs i).Follows protocol (.stopped f) fun status q =>
      status = .success ∧ q.IsUp ∨ status ≠ .success ∧ q = .stopped f := by
  simp only [finishSetup, Prog.call, Prog.op_bind, Prog.ret_bind]
  split
  · refine ⟨⟨f, .inl rfl⟩, fun r => ?_⟩
    have e : protocol.next (.stopped f) (.addAdb i) r = .stopped f := rfl
    rw [e]
    dsimp only
    split
    · exact .inr ⟨by decide, rfl⟩
    · exact follows_pullUp b true timeout hf
  · exact follows_pullUp b ffs timeout hf

/-- The whole set-up. -/
lemma follows_setupFunctions (b : Bool) (timeout : UInt64) {f : UInt64}
    (hf : f ≠ GadgetFunction.none) :
    (setupFunctions f b timeout).Follows protocol (.stopped f) fun status q =>
      status = .success ∧ q.IsUp ∨ status ≠ .success ∧ q = .stopped f := by
  simp only [setupFunctions, linkVendorFunctions_eq, Prog.call, Prog.op_bind, Prog.ret_bind,
    Prog.follows_op]
  refine ⟨⟨f, .inl rfl⟩, fun r => ?_⟩
  have e : protocol.next (.stopped f) (.addGenericAndroidFunctions f) r = .stopped f := rfl
  rw [e]
  split
  · exact .inr ⟨fun success => Status.noConfusion success, rfl⟩
  · refine ⟨⟨f, .inl rfl⟩, fun v => ?_⟩
    refine (neutral_linkAll _ _ f).follows_bind fun i => ?_
    cases i with
    | none => exact .inr ⟨fun success => Status.noConfusion success, rfl⟩
    | some i => exact follows_finishSetup b r.ffsEnabled timeout i hf

/-- A request comes from the phase in which it has cleared the flag to one in which it may end. -/
lemma follows_applyFunctions (f : UInt64) (b : Bool) (timeout : UInt64) :
    (applyFunctions f b timeout).Follows protocol (.cleared f) fun _ q => q.CanEnd := by
  have stopped : Phase.CanEnd (.stopped f) := ⟨f, .inr (.inl rfl)⟩
  refine (follows_tearDownGadget f).bind fun status q h => ?_
  obtain ⟨hs, rfl⟩ | ⟨hs, rfl⟩ := h
  · rw [if_neg (not_not.mpr hs)]
    refine ⟨.inr ⟨f, rfl⟩, fun _ => ?_⟩
    dsimp only
    split
    · rename_i hf
      exact follows_notify (.inr (.inl ⟨hf, rfl⟩)) rfl stopped
    · rename_i hf
      refine (neutral_validateAndSetVidPid f).follows_bind fun status => ?_
      by_cases hs : status = .success
      · rw [if_neg (not_not.mpr hs)]
        refine (follows_setupFunctions b timeout hf).bind fun status q h => ?_
        obtain ⟨hs, f', hf', hq⟩ | ⟨hs, rfl⟩ := h
        · rw [if_neg (not_not.mpr hs)]
          exact ⟨f', .inr (.inr hq)⟩
        · rw [if_pos hs]
          exact follows_notify (.inl ⟨hs, .inr rfl⟩) rfl stopped
      · rw [if_pos hs]
        exact follows_notify (.inl ⟨hs, .inr rfl⟩) rfl stopped
  · rw [if_pos hs]
    exact follows_notify (.inl ⟨hs, .inl rfl⟩) rfl ⟨f, .inl rfl⟩

/-- A request begins and ends idle. -/
lemma follows_setCurrentUsbFunctions (f : UInt64) (b : Bool) (timeout : UInt64) :
    (setCurrentUsbFunctions f b timeout).Follows protocol .idle fun _ q => q = .idle := by
  simp only [setCurrentUsbFunctions, Prog.call, Prog.op_bind, Prog.ret_bind, Prog.follows_op]
  refine ⟨rfl, fun _ => ⟨rfl, fun _ => ⟨⟨f, rfl⟩, fun _ => ?_⟩⟩⟩
  exact (follows_applyFunctions f b timeout).bind fun _ q h => ⟨h, fun _ => rfl⟩

/-- A query begins and ends idle. -/
lemma follows_getCurrentUsbFunctions :
    getCurrentUsbFunctions.Follows protocol .idle fun _ q => q = .idle :=
  ⟨rfl, fun _ => ⟨rfl, fun _ => ⟨rfl, fun _ => rfl⟩⟩⟩

/-- A reset begins and ends idle. -/
lemma follows_reset : reset.Follows protocol .idle fun _ q => q = .idle := by
  simp only [reset, Prog.call, Prog.op_bind, Prog.ret_bind, Prog.follows_op]
  refine ⟨.inl ⟨rfl, rfl⟩, fun ok => ?_⟩
  cases ok with
  | false => exact rfl
  | true =>
    refine ⟨.inl rfl, fun _ => ⟨.inr ⟨rfl, .inl rfl⟩, fun ok => ?_⟩⟩
    cases ok with
    | false => exact rfl
    | true => exact rfl

/-- Every call of the interface follows the protocol. -/
theorem service_obeys : service.Obeys (fun _ => protocol) fun _ _ => .idle := by
  intro t l call s p s' h
  obtain ⟨rfl, rfl⟩ : call.program = p ∧ s = s' := by
    simpa [service] using h
  cases call with
  | setCurrentUsbFunctions f b timeout => exact follows_setCurrentUsbFunctions f b timeout
  | getCurrentUsbFunctions => exact follows_getCurrentUsbFunctions
  | reset => exact follows_reset.bind fun _ _ h => h

end Redfin.Gadget
