import Redfin.Gadget.Links

/-!
# What a failed request leaves in the monitor

`setupFunctions` registers endpoints and watches in `monitorFfs` early and starts the monitor as
its last step; the next request's `tearDownGadget` clears them, but only if the monitor is running.
Requests are run here one after the other, each with outcomes of its own for every primitive. A
request that registered something and returned before `startMonitor` leaves it there, and the next
request that gets as far as `setupFunctions` starts with it (`ownsWatches_iff`).
-/

namespace Redfin.Gadget

open Program Bytes

/-- `monitorFfs`: whether it is running, and the endpoints and watches registered in it. -/
structure Monitor where
  running : Bool := false
  watches : List String := []
deriving DecidableEq, Repr

/-- A call of `setCurrentUsbFunctions` with the outcomes of the primitives in it. The vendor
functions are read up to two times. -/
structure Request where
  functions : UInt64
  callback : Bool := true
  timeout : UInt64 := 0
  resetGadget : Status × Bool := (.success, true)
  vendorFunctions : ℕ → String := fun _ => ""
  setVidPid : Status := .success
  generic : GenericResult
  linkFunction : String → ℕ → ℤ := fun _ _ => 0
  addAdb : AdbResult := ⟨.success, []⟩
  writePullup : Bool := true
  waitForPullUp : Bool := true

namespace Request

/-- The answers to the operations of a request; the state is the monitor and the number of times
the vendor functions have been read. -/
def handle (r : Request) : Handler sig (Monitor × ℕ)
  | .lock, s => (some (), s)
  | .unlock, s => (some (), s)
  | .writeFunctions _, s => (some (), s)
  | .readFunctions, s => (some r.functions, s)
  | .writeApplied _, s => (some (), s)
  | .readApplied, s => (some false, s)
  | .resetGadget, s => (some r.resetGadget, s)
  | .isMonitorRunning, s => (some s.1.running, s)
  | .monitorReset, s => (some (), ({}, s.2))
  | .usleep, s => (some (), s)
  | .getVendorFunctions, s => (some (r.vendorFunctions s.2), (s.1, s.2 + 1))
  | .setVidPid _ _, s => (some r.setVidPid, s)
  | .addGenericAndroidFunctions _, s =>
    (some r.generic, ({ s.1 with watches := s.1.watches ++ r.generic.endpoints }, s.2))
  | .linkFunction function i, s => (some (r.linkFunction function i), s)
  | .addAdb _, s =>
    (some r.addAdb, ({ s.1 with watches := s.1.watches ++ r.addAdb.endpoints }, s.2))
  | .writePullup _, s => (some r.writePullup, s)
  | .registerFunctionsAppliedCallback, s => (some (), s)
  | .startMonitor, s => (some (), ({ s.1 with running := true }, s.2))
  | .waitForPullUp _, s => (some r.waitForPullUp, s)
  | .setCurrentUsbFunctionsCb _ _, s => (some (), s)
  | .getCurrentUsbFunctionsCb _ _, s => (some (), s)

def program (r : Request) : Hal Unit :=
  setCurrentUsbFunctions r.functions r.callback r.timeout

/-- The operations of the request, each with the monitor it finds. -/
def trace (r : Request) (m : Monitor) : List (Monitor × Op) :=
  (r.program.trace r.handle (m, 0)).map fun e => (e.1.1, e.2)

/-- The monitor after the request. -/
def after (r : Request) (m : Monitor) : Monitor :=
  (r.program.exec r.handle (m, 0)).2.1

/-! ## What the outcomes decide -/

/-- The tear-down and the ids succeed, so that `setupFunctions` is called. -/
def ReachesSetup (r : Request) : Prop :=
  r.resetGadget.1 = .success ∧ r.functions ≠ GadgetFunction.none ∧
    vidPid r.functions (r.vendorFunctions 0) ≠ none ∧ r.setVidPid = .success

def hasAdb (r : Request) : Prop := r.functions &&& GadgetFunction.adb ≠ 0

/-- The generic functions are added and every vendor function is linked. -/
def Links (r : Request) : Prop :=
  r.generic.status = .success ∧
    ∀ x ∈ (vendorLinks (r.vendorFunctions 1)).zipIdx r.generic.i, r.linkFunction x.1 x.2 = 0

/-- `setupFunctions` ends with the start of the monitor. -/
def StartsMonitor (r : Request) : Prop :=
  r.Links ∧ (r.hasAdb → r.addAdb.status = .success) ∧ (r.hasAdb ∨ r.generic.ffsEnabled)

instance (r : Request) : Decidable r.ReachesSetup := instDecidableAnd
instance (r : Request) : Decidable r.hasAdb := instDecidableNot
instance (r : Request) : Decidable r.Links := instDecidableAnd
instance (r : Request) : Decidable r.StartsMonitor := instDecidableAnd

/-- What `setupFunctions` registers: `addAdb` is called only after every link. -/
def registered (r : Request) : List String :=
  if r.Links ∧ r.hasAdb then r.generic.endpoints ++ r.addAdb.endpoints else r.generic.endpoints

/-- The request registers something and returns before the monitor is started. -/
def LeavesWatches (r : Request) : Prop :=
  r.ReachesSetup ∧ ¬r.StartsMonitor ∧ r.registered ≠ []

/-! ## The run of one request -/

/-- An operation that neither begins `setupFunctions` nor starts the monitor. -/
def Plain : Op → Prop
  | .startMonitor => False
  | .addGenericAndroidFunctions _ => False
  | _ => True

/-- Where `setupFunctions` begins nothing is registered, and where the monitor is started exactly
what the request itself registered is. -/
def Owned (r : Request) (e : Monitor × Op) : Prop :=
  (∀ f, e.2 = .addGenericAndroidFunctions f → e.1.watches = []) ∧
    (e.2 = .startMonitor → e.1.watches = r.registered)

/-- A plain operation is always owned. -/
lemma Owned.of_plain {r : Request} {e : Monitor × Op} (h : Plain e.2) : Owned r e := by
  refine ⟨fun f hf => ?_, fun hs => ?_⟩
  · rw [hf] at h
    exact h.elim
  · rw [hs] at h
    exact h.elim

/-- Tearing down is plain. -/
lemma plain_tearDownGadget : tearDownGadget.All Plain :=
  all_tearDownGadget trivial trivial trivial

/-- Linking functions is plain. -/
lemma plain_linkAll (fs : List String) (i : ℕ) : (linkAll fs i).All Plain :=
  all_linkAll (fun _ _ => trivial) fs i

/-- Setting the ids is plain. -/
lemma plain_validateAndSetVidPid (f : UInt64) : (validateAndSetVidPid f).All Plain :=
  all_validateAndSetVidPid trivial (fun _ _ => trivial) f

/-- The callback is plain. -/
lemma plain_notify (b : Bool) (f : UInt64) (st : Status) : (notify b f st).All Plain :=
  all_notify (fun _ => trivial) b st

/-- Pulling up without the monitor is plain. -/
lemma plain_pullUpNow (f : UInt64) (b : Bool) : (pullUpNow f b).All Plain :=
  all_pullUpNow (fun _ => trivial) trivial trivial b

/-- Tearing down resets a monitor that runs, and leaves any other as it is. -/
lemma exec_tearDownGadget (r : Request) (m : Monitor) (n : ℕ) :
    tearDownGadget.exec r.handle (m, n) =
      if r.resetGadget.1 = .success then (some .success, (if m.running then {} else m, n))
      else (some .error, (m, n)) := by
  simp only [tearDownGadget, Prog.call, Prog.op_bind, Prog.ret_bind, Prog.exec, handle]
  by_cases h : r.resetGadget.1 = .success
  · cases hm : m.running with
    | true => simp [Prog.exec, handle, h, hm]
    | false => simp [Prog.exec, handle, h, hm]
  · rw [if_neg h, if_pos h]
    rfl

/-- Linking succeeds when every link does, and leaves the monitor alone. -/
lemma exec_linkAll (r : Request) (fs : List String) (i : ℕ) (s : Monitor × ℕ) :
    (linkAll fs i).exec r.handle s =
      (some (if ∀ x ∈ fs.zipIdx i, r.linkFunction x.1 x.2 = 0 then some (i + fs.length) else none),
        s) := by
  induction fs generalizing i with
  | nil => rfl
  | cons f fs ih =>
    have e : i + 1 + fs.length = i + (f :: fs).length := by
      rw [List.length_cons]
      omega
    simp only [linkAll, Prog.call, Prog.op_bind, Prog.ret_bind, Prog.exec, handle,
      List.zipIdx_cons, List.forall_mem_cons]
    by_cases h : r.linkFunction f i = 0
    · rw [if_neg (not_not.mpr h), ih, e]
      simp only [h, true_and]
    · rw [if_pos h, if_neg fun hx => h hx.1]
      rfl

/-- Setting the ids reads the vendor functions once and leaves the monitor alone. -/
lemma exec_validateAndSetVidPid (r : Request) (m : Monitor) :
    ∃ st, (validateAndSetVidPid r.functions).exec r.handle (m, 0) = (some st, (m, 1)) ∧
      (st = .success ↔
        vidPid r.functions (r.vendorFunctions 0) ≠ none ∧ r.setVidPid = .success) := by
  simp only [validateAndSetVidPid, Prog.call, Prog.op_bind, Prog.ret_bind, Prog.exec, handle]
  split
  · rename_i vid pid h
    exact ⟨r.setVidPid, rfl, by simp [h]⟩
  · rename_i h
    exact ⟨.configurationNotSupported, rfl, by simp [h]⟩

/-- The callback leaves the monitor alone. -/
lemma exec_notify (r : Request) (b : Bool) (f : UInt64) (st : Status) (s : Monitor × ℕ) :
    (notify b f st).exec r.handle s = (some (), s) := by
  cases b with
  | true => rfl
  | false => rfl

/-- Pulling up without the monitor leaves it alone. -/
lemma exec_pullUpNow (r : Request) (s : Monitor × ℕ) :
    ∃ st, (pullUpNow r.functions r.callback).exec r.handle s = (some st, s) := by
  simp only [pullUpNow, Prog.call, Prog.op_bind, Prog.ret_bind, Prog.exec, handle]
  cases r.writePullup with
  | false => exact ⟨.error, rfl⟩
  | true =>
    refine ⟨.success, ?_⟩
    cases r.callback with
    | true => rfl
    | false => rfl

/-- Pulling up through the monitor starts it. -/
lemma exec_pullUpLater (r : Request) (m : Monitor) (n : ℕ) :
    ∃ st, (pullUpLater r.functions r.callback r.timeout).exec r.handle (m, n) =
      (some st, ({ m with running := true }, n)) := by
  refine ⟨.success, ?_⟩
  simp only [pullUpLater, Prog.call, Prog.op_bind, Prog.ret_bind, Prog.exec, handle]
  cases r.callback with
  | true => rfl
  | false => rfl

/-- The monitor is started with what it holds at the end of `setupFunctions`. -/
lemma owned_pullUpLater (r : Request) (m : Monitor) (n : ℕ) :
    (∀ e ∈ (pullUpLater r.functions r.callback r.timeout).trace r.handle (m, n),
      r.Owned (e.1.1, e.2)) ↔ m.watches = r.registered := by
  simp only [pullUpLater, Prog.call, Prog.op_bind, Prog.ret_bind, Prog.trace, handle]
  cases r.callback with
  | true => simp [Prog.trace, handle, Owned]
  | false => simp [Owned]

/-- What `addAdb` registers, if it is called. -/
def adbEndpoints (r : Request) : List String := if r.hasAdb then r.addAdb.endpoints else []

/-- A request whose links succeed watches the endpoints of ADB too. -/
lemma registered_of_links {r : Request} (h : r.Links) :
    r.registered = r.generic.endpoints ++ r.adbEndpoints := by
  by_cases ha : r.hasAdb
  · rw [registered, adbEndpoints, if_pos ⟨h, ha⟩, if_pos ha]
  · rw [registered, adbEndpoints, if_neg fun x => ha x.2, if_neg ha, List.append_nil]

/-- Otherwise it watches those of the generic functions. -/
lemma registered_of_not_links {r : Request} (h : ¬r.Links) : r.registered = r.generic.endpoints :=
  if_neg fun x => h x.1

/-- Pulling up, either way: the monitor runs if it ran before or is started. -/
lemma run_pullUp (r : Request) (ffs : Bool) (m : Monitor) (n : ℕ) :
    (∃ st, (pullUp r.functions r.callback r.timeout ffs).exec r.handle (m, n) =
      (some st, ({ m with running := m.running || ffs }, n))) ∧
    ((∀ e ∈ (pullUp r.functions r.callback r.timeout ffs).trace r.handle (m, n),
      r.Owned (e.1.1, e.2)) ↔ (ffs → m.watches = r.registered)) := by
  cases ffs with
  | false =>
    obtain ⟨st, hst⟩ := exec_pullUpNow r (m, n)
    refine ⟨⟨st, by simpa [pullUp] using hst⟩, ?_⟩
    have h := (plain_pullUpNow r.functions r.callback).trace r.handle (m, n)
    exact iff_of_true (fun e he => .of_plain (h e he)) nofun
  | true =>
    obtain ⟨st, hst⟩ := exec_pullUpLater r m n
    refine ⟨⟨st, by simpa [pullUp] using hst⟩, ?_⟩
    simpa [pullUp] using owned_pullUpLater r m n

/-- The end of `setupFunctions` starts the monitor unless `addAdb` fails. -/
lemma run_finishSetup (r : Request) (i : ℕ) (m : Monitor) (n : ℕ) (hm : m.running = false)
    (hl : r.Links) :
    (∃ st, (finishSetup r.functions r.callback r.timeout r.generic.ffsEnabled i).exec r.handle
      (m, n) =
      (some st, (⟨decide r.StartsMonitor, m.watches ++ r.adbEndpoints⟩, n))) ∧
    ((∀ e ∈ (finishSetup r.functions r.callback r.timeout r.generic.ffsEnabled i).trace r.handle
      (m, n), r.Owned (e.1.1, e.2)) ↔
        (r.StartsMonitor → m.watches ++ r.adbEndpoints = r.registered)) := by
  by_cases ha : r.hasAdb
  · have hf : finishSetup r.functions r.callback r.timeout r.generic.ffsEnabled i = _ := if_pos ha
    have h₀ : r.Owned (m, .addAdb i) := .of_plain trivial
    rw [hf, adbEndpoints, if_pos ha]
    simp only [Prog.call, Prog.op_bind, Prog.ret_bind, Prog.exec, Prog.trace, handle,
      List.forall_mem_cons]
    rw [and_iff_right h₀]
    by_cases hs : r.addAdb.status = .success
    · have hst : r.StartsMonitor := ⟨hl, fun _ => hs, .inl ha⟩
      rw [if_neg (not_not.mpr hs)]
      simpa [hst, hm] using
        run_pullUp r true ⟨m.running, m.watches ++ r.addAdb.endpoints⟩ n
    · have hst : ¬r.StartsMonitor := fun x => hs (x.2.1 ha)
      rw [if_pos hs]
      simp [hst, hm]
  · have hf : finishSetup r.functions r.callback r.timeout r.generic.ffsEnabled i = _ := if_neg ha
    have hst : r.StartsMonitor ↔ r.generic.ffsEnabled = true :=
      ⟨fun x => x.2.2.resolve_left ha, fun x => ⟨hl, fun y => absurd y ha, .inr x⟩⟩
    rw [hf, adbEndpoints, if_neg ha, List.append_nil]
    simpa [hst, hm] using run_pullUp r r.generic.ffsEnabled m n

/-- `setupFunctions` adds what the request registers to what it finds. -/
lemma run_setupFunctions (r : Request) (m : Monitor) (hm : m.running = false) :
    (∃ st n, (setupFunctions r.functions r.callback r.timeout).exec r.handle (m, 1) =
      (some st, (⟨decide r.StartsMonitor, m.watches ++ r.registered⟩, n))) ∧
    ((∀ e ∈ (setupFunctions r.functions r.callback r.timeout).trace r.handle (m, 1),
      r.Owned (e.1.1, e.2)) ↔ m.watches = []) := by
  have h₀ : r.Owned (m, .addGenericAndroidFunctions r.functions) ↔ m.watches = [] :=
    ⟨fun h => h.1 _ rfl, fun h => ⟨fun _ _ => h, nofun⟩⟩
  have h₁ (m : Monitor) : r.Owned (m, .getVendorFunctions) := .of_plain trivial
  simp only [setupFunctions, linkVendorFunctions_eq, Prog.call, Prog.op_bind, Prog.ret_bind,
    Prog.exec, Prog.trace, handle, List.forall_mem_cons, h₀]
  by_cases hg : r.generic.status = .success
  · simp only [hg, ne_eq, not_true_eq_false, if_false, Prog.exec, Prog.trace, handle,
      List.forall_mem_cons, h₁, true_and]
    set m' : Monitor := ⟨m.running, m.watches ++ r.generic.endpoints⟩ with hm'
    have he := exec_linkAll r (vendorLinks (r.vendorFunctions 1)) r.generic.i (m', 2)
    have hp := (plain_linkAll (vendorLinks (r.vendorFunctions 1)) r.generic.i).trace r.handle
      (m', 2)
    have h₂ := fun e h => Owned.of_plain (r := r) (e := (e.1.1, e.2)) (hp e h)
    rw [Prog.exec_bind_of _ he, Prog.forall_trace_bind he, and_iff_right h₂]
    by_cases hx : ∀ x ∈ (vendorLinks (r.vendorFunctions 1)).zipIdx r.generic.i,
        r.linkFunction x.1 x.2 = 0
    · have hl : r.Links := ⟨hg, hx⟩
      rw [if_pos hx]
      obtain ⟨⟨st, h⟩, ht⟩ := run_finishSetup r
        (r.generic.i + (vendorLinks (r.vendorFunctions 1)).length) m' 2 hm hl
      refine ⟨⟨st, 2, ?_⟩, ?_⟩
      · rw [registered_of_links hl, ← List.append_assoc]
        exact h
      · refine and_iff_left_of_imp fun hw => ht.mpr fun _ => ?_
        rw [registered_of_links hl, hm', hw, List.nil_append]
    · have hl : ¬r.Links := fun x => hx x.2
      have hs : ¬r.StartsMonitor := fun x => hl x.1
      rw [if_neg hx]
      simp [hs, registered_of_not_links hl, hm', hm]
  · have hl : ¬r.Links := fun x => hg x.1
    have hs : ¬r.StartsMonitor := fun x => hl x.1
    simp [hg, hs, registered_of_not_links hl, hm]

/-! ## The whole request -/

/-- The monitor once `tearDownGadget` has succeeded. -/
def stopped (m : Monitor) : Monitor := if m.running then {} else m

/-- After the reset the monitor does not run. -/
lemma stopped_running (m : Monitor) : (stopped m).running = false := by
  cases hm : m.running with
  | true => rw [stopped, if_pos hm]
  | false => rw [stopped, if_neg (by simp [hm]), hm]

/-- A plain program has nothing to show for `Owned`. -/
lemma owned_of_plain {α : Type} (r : Request) {p : Hal α} (h : p.All Plain) (s : Monitor × ℕ) :
    ∀ e ∈ p.trace r.handle s, r.Owned (e.1.1, e.2) :=
  fun e he => .of_plain (h.trace r.handle s e he)

/-- A request whose tear-down fails. -/
lemma run_failed (r : Request) (m : Monitor) (hr : r.resetGadget.1 ≠ .success) :
    (applyFunctions r.functions r.callback r.timeout).exec r.handle (m, 0) = (some (), (m, 0)) ∧
      ∀ e ∈ (applyFunctions r.functions r.callback r.timeout).trace r.handle (m, 0),
        r.Owned (e.1.1, e.2) := by
  have he : tearDownGadget.exec r.handle (m, 0) = (some .error, (m, 0)) := by
    rw [exec_tearDownGadget, if_neg hr]
  rw [applyFunctions, Prog.exec_bind_of _ he, Prog.forall_trace_bind he,
    and_iff_right (owned_of_plain r plain_tearDownGadget _)]
  exact ⟨exec_notify r _ _ _ _, owned_of_plain r (plain_notify _ _ _) _⟩

/-- A request that gets past its tear-down. -/
lemma run_applyFunctions (r : Request) (m : Monitor) (hr : r.resetGadget.1 = .success) :
    (∃ n, (applyFunctions r.functions r.callback r.timeout).exec r.handle (m, 0) =
      (some (),
        (if r.ReachesSetup then ⟨decide r.StartsMonitor, (stopped m).watches ++ r.registered⟩
          else stopped m, n))) ∧
    ((∀ e ∈ (applyFunctions r.functions r.callback r.timeout).trace r.handle (m, 0),
      r.Owned (e.1.1, e.2)) ↔ (r.ReachesSetup → (stopped m).watches = [])) := by
  have h₁ (m : Monitor) : r.Owned (m, .usleep) := .of_plain trivial
  have he : tearDownGadget.exec r.handle (m, 0) = (some .success, (stopped m, 0)) := by
    rw [exec_tearDownGadget, if_pos hr, stopped]
  rw [applyFunctions, Prog.exec_bind_of _ he, Prog.forall_trace_bind he,
    and_iff_right (owned_of_plain r plain_tearDownGadget _)]
  simp only [ne_eq, not_true_eq_false, if_false, Prog.call, Prog.op_bind, Prog.ret_bind,
    Prog.exec, Prog.trace, handle, List.forall_mem_cons, h₁, true_and]
  by_cases hf : r.functions = GadgetFunction.none
  · have hs : ¬r.ReachesSetup := fun x => x.2.1 hf
    simp only [hf, if_true, exec_notify, hs, if_false, false_imp_iff, iff_true]
    exact ⟨⟨0, rfl⟩, owned_of_plain r (plain_notify _ _ _) _⟩
  · obtain ⟨st, hv, hst⟩ := exec_validateAndSetVidPid r (stopped m)
    have hs : r.ReachesSetup ↔ st = .success :=
      ⟨fun x => hst.mpr x.2.2, fun x => ⟨hr, hf, hst.mp x⟩⟩
    rw [if_neg hf, Prog.exec_bind_of _ hv, Prog.forall_trace_bind hv,
      and_iff_right (owned_of_plain r (plain_validateAndSetVidPid _) _)]
    by_cases hok : st = .success
    · obtain ⟨⟨st', n, hx⟩, ht⟩ := run_setupFunctions r (stopped m) (stopped_running m)
      rw [if_neg (not_not.mpr hok), Prog.exec_bind_of _ hx, Prog.forall_trace_bind hx, ht,
        if_pos (hs.mpr hok), forall_prop_of_true (hs.mpr hok)]
      by_cases hst' : st' = .success
      · rw [if_neg (not_not.mpr hst')]
        exact ⟨⟨n, rfl⟩, and_iff_left (List.forall_mem_nil _)⟩
      · rw [if_pos hst', exec_notify]
        exact ⟨⟨n, rfl⟩, and_iff_left (owned_of_plain r (plain_notify _ _ _) _)⟩
    · rw [if_pos hok, if_neg fun x => hok (hs.mp x)]
      simp only [exec_notify, hs, hok, false_imp_iff, iff_true]
      exact ⟨⟨1, rfl⟩, owned_of_plain r (plain_notify _ _ _) _⟩

/-- A request changes the monitor only through its tear-down and its own registrations. -/
lemma after_eq (r : Request) (m : Monitor) :
    r.after m =
      if r.resetGadget.1 = .success then
        if r.ReachesSetup then ⟨decide r.StartsMonitor, (stopped m).watches ++ r.registered⟩
        else stopped m
      else m := by
  simp only [after, program, setCurrentUsbFunctions, Prog.call, Prog.op_bind, Prog.ret_bind,
    Prog.exec, handle]
  by_cases hr : r.resetGadget.1 = .success
  · obtain ⟨⟨n, h⟩, -⟩ := run_applyFunctions r m hr
    rw [Prog.exec_bind_of _ h, if_pos hr]
    rfl
  · have h := (run_failed r m hr).1
    rw [Prog.exec_bind_of _ h, if_neg hr]
    rfl

/-- The watches are the request's own exactly when none was left behind. -/
lemma owned_trace_iff (r : Request) (m : Monitor) :
    (∀ e ∈ r.trace m, r.Owned e) ↔ (r.ReachesSetup → (stopped m).watches = []) := by
  have h₁ (o : Op) (h : Plain o) : r.Owned (m, o) := .of_plain h
  have h₂ (m : Monitor) : r.Owned (m, .unlock) := .of_plain trivial
  simp only [trace, program, List.forall_mem_map, setCurrentUsbFunctions, Prog.call, Prog.op_bind,
    Prog.ret_bind, Prog.trace, handle, List.forall_mem_cons]
  rw [and_iff_right (h₁ .lock trivial),
    and_iff_right (h₁ (.writeFunctions r.functions) trivial),
    and_iff_right (h₁ (.writeApplied false) trivial)]
  by_cases hr : r.resetGadget.1 = .success
  · obtain ⟨⟨n, h⟩, ht⟩ := run_applyFunctions r m hr
    rw [Prog.forall_trace_bind h, ht]
    apply and_iff_left
    intro e he
    rw [List.mem_singleton.mp he]
    exact h₂ _
  · obtain ⟨h, ht⟩ := run_failed r m hr
    rw [Prog.forall_trace_bind h, and_iff_right ht]
    refine iff_of_true ?_ fun x => absurd x.1 hr
    intro e he
    rw [List.mem_singleton.mp he]
    exact h₂ _

/-- A request that leaves nothing behind leaves a monitor that the next tear-down clears. -/
lemma stopped_after (r : Request) (m : Monitor) (hm : (stopped m).watches = [])
    (hl : ¬r.LeavesWatches) : (stopped (r.after m)).watches = [] := by
  rw [after_eq]
  by_cases hr : r.resetGadget.1 = .success
  · rw [if_pos hr]
    by_cases hs : r.ReachesSetup
    · rw [if_pos hs, hm, List.nil_append]
      -- what is registered is cleared by the next tear-down if the monitor runs, else there is none
      by_cases ht : r.StartsMonitor
      · rw [decide_eq_true ht]
        rfl
      · rw [decide_eq_false ht]
        exact not_not.mp fun hw => hl ⟨hs, ht, hw⟩
    · rw [if_neg hs, stopped, if_neg (by simp [stopped_running]), hm]
  · rw [if_neg hr, hm]

end Request

/-! ## Requests one after the other -/

/-- Something holds of every operation of every request, run from the monitor `m` on. -/
def EachRequest (P : Request → Monitor × Op → Prop) : List Request → Monitor → Prop
  | [], _ => True
  | r :: rs, m => (∀ e ∈ r.trace m, P r e) ∧ EachRequest P rs (r.after m)

open Request

/-- A stopped monitor that holds something makes every later set-up start with it. -/
lemma each_of_stale {m : Monitor} (hr : m.running = false) (hw : m.watches ≠ [])
    (rs : List Request) : EachRequest Owned rs m ↔ ∀ r ∈ rs, ¬r.ReachesSetup := by
  have hs : stopped m = m := if_neg (by simp [hr])
  induction rs with
  | nil => simp [EachRequest]
  | cons r rs ih =>
    rw [EachRequest, owned_trace_iff, hs, List.forall_mem_cons]
    by_cases h : r.ReachesSetup
    · simp [h, hw]
    · have ha : r.after m = m := by
        rw [after_eq, if_neg h, hs, ite_self]
      simp [h, ha, ih]

/-- Every set-up starts with nothing registered, and every monitor is started with exactly what
its own request registered, if and only if no request gets as far as the set-up after one that
registered something and returned before it started the monitor. -/
theorem ownsWatches_iff (rs : List Request) :
    EachRequest Owned rs {} ↔ rs.Pairwise fun r r' => ¬(r.LeavesWatches ∧ r'.ReachesSetup) := by
  suffices h : ∀ m : Monitor, (stopped m).watches = [] → (EachRequest Owned rs m ↔
      rs.Pairwise fun r r' => ¬(r.LeavesWatches ∧ r'.ReachesSetup)) from h {} rfl
  induction rs with
  | nil => simp [EachRequest]
  | cons r rs ih =>
    intro m hm
    rw [EachRequest, owned_trace_iff, List.pairwise_cons, and_iff_right fun _ => hm]
    by_cases hl : r.LeavesWatches
    · obtain ⟨hs, hn, hw⟩ := hl
      have ha : r.after m = ⟨false, r.registered⟩ := by
        rw [after_eq, if_pos hs.1, if_pos hs, hm, decide_eq_false hn, List.nil_append]
      rw [ha, each_of_stale rfl hw]
      constructor
      · intro h
        refine ⟨fun r' hr' x => h r' hr' x.2, ?_⟩
        exact List.pairwise_of_forall_mem_list fun _ _ r' hr' x => h r' hr' x.2
      · exact fun h r' hr' x => h.1 r' hr' ⟨⟨hs, hn, hw⟩, x⟩
    · rw [ih _ (stopped_after r m hm hl), and_iff_right fun r' _ x => hl x.1]

/-- A request for MTP whose endpoints are registered and whose link of a vendor function fails. -/
def failedRequest : Request where
  functions := GadgetFunction.mtp
  vendorFunctions := fun _ => "diag"
  generic := ⟨.success, true, 1, ["/dev/usb-ffs/mtp/ep1"]⟩
  linkFunction := fun _ _ => -1

/-- A request for PTP that succeeds. -/
def nextRequest : Request where
  functions := GadgetFunction.ptp
  generic := ⟨.success, true, 1, ["/dev/usb-ffs/ptp/ep1"]⟩

/-- After a failed request the next one starts with its endpoint. -/
theorem leftover_after_failed_link : ¬EachRequest Owned [failedRequest, nextRequest] {} := by
  intro h
  have ha : failedRequest.after {} = ⟨false, ["/dev/usb-ffs/mtp/ep1"]⟩ := by decide
  have hs : nextRequest.ReachesSetup := by decide
  have hw := (owned_trace_iff nextRequest (failedRequest.after {})).mp h.2.1 hs
  rw [ha] at hw
  exact absurd hw (by decide)

end Redfin.Gadget
