import Redfin.Gadget.Leftover

/-!
# The callback of a request

Three functions share the duty to invoke `setCurrentUsbFunctionsCb`: `setupFunctions` does so where
it has pulled up or waited for it, `setCurrentUsbFunctions` for the request for nothing and at its
label `error`. Together they invoke it exactly once, and with a success exactly where the whole
request succeeded (`callback_once`).
-/

namespace Redfin.Gadget

open Program Bytes

/-- What an invocation of `setCurrentUsbFunctionsCb` tells the client. -/
def Op.callback? : Op → Option (UInt64 × Status)
  | .setCurrentUsbFunctionsCb functions status => some (functions, status)
  | _ => none

/-- The program does not invoke the callback. -/
abbrev Silent {α : Type} (p : Hal α) : Prop := p.All fun o : Op => o.callback? = none

namespace Request

/-- The invocations of the callback during the request. -/
def callbacks (r : Request) (m : Monitor) : List (UInt64 × Status) :=
  (r.trace m).filterMap fun e => e.2.callback?

/-- The gadget was pulled up: by the monitor, or right away where there is no FunctionFS
function. -/
def pulledUp (r : Request) : Bool :=
  if r.hasAdb ∨ r.generic.ffsEnabled then r.waitForPullUp else r.writePullup

/-- Every step of `setupFunctions` succeeds. -/
def SetsUp (r : Request) : Prop :=
  r.Links ∧ (r.hasAdb → r.addAdb.status = .success) ∧ r.pulledUp = true

/-- The ids are selected. -/
def SelectsIds (r : Request) : Prop :=
  vidPid r.functions (r.vendorFunctions 0) ≠ none ∧ r.setVidPid = .success

/-- The tear-down succeeds, and so does all the rest if any function is requested. -/
def Succeeds (r : Request) : Prop :=
  r.resetGadget.1 = .success ∧
    (r.functions = GadgetFunction.none ∨ r.SelectsIds ∧ r.SetsUp)

instance (r : Request) : Decidable r.SetsUp := instDecidableAnd

/-! ## The part that may notify by itself -/

/-- The end of the request by the status of `setupFunctions`: only an error is told here. -/
def report (r : Request) (status : Status) : Hal Unit :=
  if status ≠ .success then notify r.callback r.functions status else return ()

/-- What a part of the request tells the client. -/
abbrev told {α : Type} (r : Request) (p : Hal α) (s : Monitor × ℕ) : List (UInt64 × Status) :=
  p.outputs Op.callback? r.handle s

section

variable {r : Request}

/-- With a callback `notify` tells the functions and the status once. -/
lemma told_notify (hc : r.callback = true) (status : Status) (s : Monitor × ℕ) :
    r.told (notify r.callback r.functions status) s = [(r.functions, status)] := by
  rw [hc]
  rfl

/-- With a callback a failure is told once. -/
lemma told_report {status : Status} (hc : r.callback = true) (h : status ≠ .success)
    (s : Monitor × ℕ) : r.told (r.report status) s = [(r.functions, status)] := by
  rw [report, if_pos h]
  exact told_notify hc status s

/-- An error is told once. -/
lemma told_error (hc : r.callback = true) (s : Monitor × ℕ) :
    r.told (r.report .error) s = [(r.functions, .error)] :=
  told_report hc Status.noConfusion s

/-- A failed write is left to the end of the request. -/
lemma told_pullUpNow (hc : r.callback = true) (s : Monitor × ℕ) :
    r.told (pullUpNow r.functions r.callback >>= r.report) s =
      [(r.functions, if r.writePullup then .success else .error)] := by
  cases h : r.writePullup with
  | false =>
    have pulled : r.handle (.writePullup kGadgetName) s = (some false, s) :=
      congrArg (fun ok => (some ok, s)) h
    apply (Prog.outputs_silent rfl pulled).trans
    exact told_error hc s
  | true =>
    simp [pullUpNow, Prog.call, report, Prog.outputs, Prog.trace, handle, h, hc, Op.callback?]

/-- A failed wait is told here, and the status is a success. -/
lemma told_pullUpLater (hc : r.callback = true) (s : Monitor × ℕ) :
    r.told (pullUpLater r.functions r.callback r.timeout >>= r.report) s =
      [(r.functions, if r.waitForPullUp then .success else .error)] := by
  simp [pullUpLater, Prog.call, report, Prog.outputs, Prog.trace, handle, hc, Op.callback?]

/-- Either way of pulling up tells one status, which says whether it succeeded. -/
lemma told_pullUp (hc : r.callback = true) (ffs : Bool) (s : Monitor × ℕ) :
    r.told (pullUp r.functions r.callback r.timeout ffs >>= r.report) s =
      [(r.functions,
        if (if ffs then r.waitForPullUp else r.writePullup) then .success else .error)] := by
  cases ffs with
  | false => exact told_pullUpNow hc s
  | true => exact told_pullUpLater hc s

/-- What follows the links tells an error exactly if `addAdb` or the pull-up fails. -/
lemma told_finishSetup (hc : r.callback = true) (hl : r.Links) (i : ℕ) (s : Monitor × ℕ) :
    r.told (finishSetup r.functions r.callback r.timeout r.generic.ffsEnabled i >>= r.report) s =
      [(r.functions, if r.SetsUp then .success else .error)] := by
  by_cases ha : r.hasAdb
  · have hf : finishSetup r.functions r.callback r.timeout r.generic.ffsEnabled i = _ := if_pos ha
    have hp : r.pulledUp = r.waitForPullUp := if_pos (.inl ha)
    rw [hf]
    simp only [Prog.call, Prog.op_bind, Prog.ret_bind]
    apply (Prog.outputs_silent rfl rfl).trans
    by_cases hs : r.addAdb.status = .success
    · rw [if_neg (not_not.mpr hs)]
      have hx : r.SetsUp ↔ r.waitForPullUp = true :=
        ⟨fun x => hp ▸ x.2.2, fun x => ⟨hl, fun _ => hs, hp ▸ x⟩⟩
      simp only [hx]
      exact told_pullUp hc true _
    · have hx : ¬r.SetsUp := fun x => hs (x.2.1 ha)
      rw [if_pos hs, if_neg hx]
      exact told_error hc _
  · have hf : finishSetup r.functions r.callback r.timeout r.generic.ffsEnabled i = _ := if_neg ha
    have hp : r.pulledUp = if r.generic.ffsEnabled then r.waitForPullUp else r.writePullup := by
      simp only [pulledUp, ha, false_or]
    have hx : r.SetsUp ↔ (if r.generic.ffsEnabled then r.waitForPullUp else r.writePullup) = true :=
      ⟨fun x => hp ▸ x.2.2, fun x => ⟨hl, fun h => absurd h ha, hp ▸ x⟩⟩
    rw [hf]
    simpa only [hx] using told_pullUp hc r.generic.ffsEnabled s

/-- Linking functions invokes no callback. -/
lemma silent_linkAll (fs : List String) (i : ℕ) : Silent (linkAll fs i) :=
  all_linkAll (fun _ _ => rfl) fs i

/-- `setupFunctions` and what follows it tell the client once. -/
lemma told_setupFunctions (hc : r.callback = true) (m : Monitor) :
    r.told (setupFunctions r.functions r.callback r.timeout >>= r.report) (m, 1) =
      [(r.functions, if r.SetsUp then .success else .error)] := by
  have error (hx : ¬r.Links) (s : Monitor × ℕ) : r.told (r.report .error) s =
      [(r.functions, if r.SetsUp then .success else .error)] := by
    rw [if_neg fun x => hx x.1]
    exact told_error hc s
  simp only [setupFunctions, linkVendorFunctions_eq, Prog.call, Prog.op_bind, Prog.ret_bind]
  apply (Prog.outputs_silent rfl rfl).trans
  by_cases hg : r.generic.status = .success
  · rw [if_neg (not_not.mpr hg)]
    apply (Prog.outputs_silent rfl rfl).trans
    set s : Monitor × ℕ := (⟨m.running, m.watches ++ r.generic.endpoints⟩, 2)
    have he := exec_linkAll r (vendorLinks (r.vendorFunctions 1)) r.generic.i s
    show r.told ((linkAll (vendorLinks (r.vendorFunctions 1)) r.generic.i >>= _) >>= r.report) s = _
    rw [Prog.bind_assoc, told, Prog.outputs_bind _ he, (silent_linkAll _ _).outputs]
    by_cases hx : ∀ x ∈ (vendorLinks (r.vendorFunctions 1)).zipIdx r.generic.i,
        r.linkFunction x.1 x.2 = 0
    · simp only [if_pos hx, List.nil_append]
      exact told_finishSetup hc ⟨hg, hx⟩ _ s
    · simp only [if_neg hx, List.nil_append]
      exact error (fun x => hx x.2) s
  · rw [if_pos hg]
    exact error (fun x => hg x.1) _

end

/-! ## The whole request -/

section

variable {r : Request}

/-- Tearing down invokes no callback. -/
lemma silent_tearDownGadget : Silent tearDownGadget := all_tearDownGadget rfl rfl rfl

/-- Setting the ids invokes no callback. -/
lemma silent_validateAndSetVidPid (functions : UInt64) :
    Silent (validateAndSetVidPid functions) :=
  all_validateAndSetVidPid (P := fun o => o.callback? = none) rfl (fun _ _ => rfl) functions

/-- The status that the request tells once. -/
def Reports (r : Request) (p : Hal Unit) (s : Monitor × ℕ) : Prop :=
  ∃ status, r.told p s = [(r.functions, status)] ∧ (status = .success ↔ r.Succeeds)

/-- The ids and the set-up of a request that is to enable functions. -/
lemma reports_setup (hc : r.callback = true) (hr : r.resetGadget.1 = .success)
    (hf : r.functions ≠ GadgetFunction.none) (m : Monitor) :
    r.Reports (do
      let status ← validateAndSetVidPid r.functions
      if status ≠ .success then return ← notify r.callback r.functions status
      let status ← setupFunctions r.functions r.callback r.timeout
      r.report status) (m, 0) := by
  obtain ⟨status, he, hs⟩ := exec_validateAndSetVidPid r m
  have succeeds : r.Succeeds ↔ status = .success ∧ r.SetsUp := by
    rw [Succeeds, and_iff_right hr, or_iff_right hf, hs]
    rfl
  rw [Reports, told, Prog.outputs_bind _ he, (silent_validateAndSetVidPid _).outputs]
  by_cases ok : status = .success
  · rw [if_neg (not_not.mpr ok)]
    refine ⟨if r.SetsUp then .success else .error, told_setupFunctions hc m, ?_⟩
    rw [succeeds, and_iff_right ok]
    by_cases hx : r.SetsUp
    · exact iff_of_true (if_pos hx) hx
    · rw [if_neg hx]
      exact iff_of_false Status.noConfusion hx
  · rw [if_pos ok]
    exact ⟨status, told_notify hc status (m, 1), iff_of_false ok fun x => ok (succeeds.mp x).1⟩

/-- `setCurrentUsbFunctions` without its lock: each of its ends is reached with one report. -/
lemma reports_applyFunctions (hc : r.callback = true) (m : Monitor) :
    r.Reports (applyFunctions r.functions r.callback r.timeout) (m, 0) := by
  have he := exec_tearDownGadget r m 0
  by_cases hr : r.resetGadget.1 = .success
  · rw [if_pos hr] at he
    rw [Reports, told, applyFunctions, Prog.outputs_bind _ he, silent_tearDownGadget.outputs]
    simp only [ne_eq, not_true_eq_false, if_false, Prog.call, Prog.op_bind, Prog.ret_bind,
      List.nil_append]
    rw [Prog.outputs_silent rfl rfl]
    by_cases hf : r.functions = GadgetFunction.none
    · rw [if_pos hf]
      exact ⟨.success, told_notify hc .success _, iff_of_true rfl ⟨hr, .inl hf⟩⟩
    · rw [if_neg hf]
      exact reports_setup hc hr hf _
  · rw [if_neg hr] at he
    rw [Reports, told, applyFunctions, Prog.outputs_bind _ he, silent_tearDownGadget.outputs]
    exact ⟨.error, told_notify hc .error _, iff_of_false Status.noConfusion fun x => hr x.1⟩

/-- Whatever the outcomes of the primitives, a request with a callback invokes it exactly once, for
the functions it requests, and with a success if and only if everything succeeded. -/
theorem callback_once (r : Request) (m : Monitor) (hc : r.callback = true) :
    ∃ status, r.callbacks m = [(r.functions, status)] ∧ (status = .success ↔ r.Succeeds) := by
  obtain ⟨status, told, succeeds⟩ := reports_applyFunctions hc m
  refine ⟨status, ?_, succeeds⟩
  have he : ∃ s, (applyFunctions r.functions r.callback r.timeout).exec r.handle (m, 0) =
      (some (), s) := by
    by_cases hr : r.resetGadget.1 = .success
    · obtain ⟨⟨n, h⟩, -⟩ := run_applyFunctions r m hr
      exact ⟨_, h⟩
    · exact ⟨_, (run_failed r m hr).1⟩
  obtain ⟨s, he⟩ := he
  have callbacks : r.callbacks m = r.told r.program (m, 0) := by
    rw [Request.callbacks, trace, List.filterMap_map]
    rfl
  rw [callbacks, Request.told, program, setCurrentUsbFunctions]
  simp only [Prog.call, Prog.op_bind, Prog.ret_bind]
  rw [Prog.outputs_silent rfl rfl, Prog.outputs_silent rfl rfl, Prog.outputs_silent rfl rfl,
    Prog.outputs_bind _ he]
  exact congrArg (· ++ []) told

end

end Request

/-- A request whose last wait fails although every step before it succeeded. -/
def timedOutRequest : Request where
  functions := GadgetFunction.adb
  timeout := 1000
  generic := ⟨.success, false, 0, []⟩
  addAdb := ⟨.success, ["/dev/usb-ffs/adb/ep1"]⟩
  waitForPullUp := false

/-- A request whose wait for the monitor times out is told once. -/
theorem callback_once_timedOut :
    timedOutRequest.callback = true ∧
      ∃ status, timedOutRequest.callbacks {} = [(GadgetFunction.adb, status)] ∧
        (status = .success ↔ timedOutRequest.Succeeds) :=
  ⟨rfl, Request.callback_once timedOutRequest {} rfl⟩

end Redfin.Gadget
