import Redfin.Gadget.Hal

/-!
# Which functions are linked

The loop over the vendor functions links the functions of a list one after the other
(`linkVendorFunctions_eq`): each token contributes the entries of the table that bear its name.

The end of the module says of each part of a request which operations it consists of: whatever
holds of these holds of all operations of the part.
-/

namespace Redfin.Gadget

open Program Bytes

/-- Link the functions of the list under consecutive indices until one of them fails. -/
def linkAll : List String → ℕ → Hal (Option ℕ)
  | [], i => return some i
  | function :: rest, i => do
    if (← call (.linkFunction function i)) ≠ 0 then return none
    linkAll rest (i + 1)

/-- The functions that a token is the name of. -/
def functionsOf (table : List (String × String)) (token : String) : List String :=
  (table.filter (·.1 = token)).map (·.2)

/-- The functions that a vendor functions property stands for. -/
def vendorLinks (vendorFunctions : String) : List String :=
  (strtok ',' vendorFunctions).flatMap (functionsOf vendorTable)

example : vendorLinks "diag,unknown,rmnet_gsi" = ["diag.diag", "gsi.rmnet"] := by decide

/-- Linking two lists one after the other. -/
lemma linkAll_append (fs gs : List String) (i : ℕ) :
    linkAll (fs ++ gs) i = do
      match ← linkAll fs i with
      | some i => linkAll gs i
      | none => return none := by
  induction fs generalizing i with
  | nil => rfl
  | cons f fs ih =>
    simp only [List.cons_append, linkAll, Prog.call, Prog.op_bind, Prog.ret_bind]
    refine congrArg _ (funext fun r => ?_)
    by_cases h : r = 0
    · simpa only [h, ne_eq, not_true_eq_false, if_false] using ih (i + 1)
    · simp only [h, ne_eq, not_false_eq_true, if_true, Prog.pure_eq, Prog.ret_bind]

/-- A token of the table links the functions of its entry, one after the other. -/
lemma linkToken_eq (token : String) (table : List (String × String)) (i : ℕ) :
    linkToken token table i = linkAll (functionsOf table token) i := by
  induction table generalizing i with
  | nil => rfl
  | cons entry rest ih =>
    obtain ⟨name, function⟩ := entry
    by_cases h : name = token
    · simp only [linkToken, functionsOf, h, List.filter_cons_of_pos, decide_true, if_true,
        List.map_cons, linkAll, ih]
    · have h' : token ≠ name := fun e => h e.symm
      simp only [linkToken, functionsOf, h, h', if_false, List.filter_cons_of_neg, decide_false, ih,
        not_false_eq_true, Bool.false_eq_true]

/-- The loop of `setupFunctions` links the functions its tokens stand for. -/
theorem linkVendor_eq (tokens : List String) (i : ℕ) :
    linkVendor tokens i = linkAll (tokens.flatMap (functionsOf vendorTable)) i := by
  induction tokens generalizing i with
  | nil => rfl
  | cons token rest ih =>
    rw [List.flatMap_cons, linkAll_append, linkVendor, linkToken_eq]
    refine congrArg _ (funext fun r => ?_)
    cases r with
    | none => rfl
    | some i => exact ih i

/-- The chain of cases links the functions of the vendor string, in the order of the tokens. -/
theorem linkVendorFunctions_eq (vendorFunctions : String) (i : ℕ) :
    linkVendorFunctions vendorFunctions i = linkAll (vendorLinks vendorFunctions) i := by
  by_cases h : vendorFunctions = ""
  · rw [linkVendorFunctions, if_neg (not_not.mpr h), h, show vendorLinks "" = [] by decide]
    rfl
  · rw [linkVendorFunctions, if_pos h, linkVendor_eq, vendorLinks]

/-! ## The operations of the parts of a request -/

section

variable {P : Op → Prop}

/-- The operations of `tearDownGadget`. -/
lemma all_tearDownGadget (reset : P .resetGadget) (asked : P .isMonitorRunning)
    (stopped : P .monitorReset) : tearDownGadget.All P := by
  simp only [tearDownGadget, Prog.call, Prog.op_bind, Prog.ret_bind, Prog.all_op]
  refine ⟨reset, fun pulledDown => ?_⟩
  split
  · exact trivial
  · refine ⟨asked, fun running => ?_⟩
    cases running with
    | true => exact ⟨stopped, fun _ => trivial⟩
    | false => exact trivial

/-- The operations of `validateAndSetVidPid`. -/
lemma all_validateAndSetVidPid (asked : P .getVendorFunctions)
    (set : ∀ vid pid, P (.setVidPid vid pid)) (functions : UInt64) :
    (validateAndSetVidPid functions).All P := by
  simp only [validateAndSetVidPid, Prog.call, Prog.op_bind, Prog.ret_bind, Prog.all_op]
  refine ⟨asked, fun vendorFunctions => ?_⟩
  split
  · exact ⟨set _ _, fun _ => trivial⟩
  · exact trivial

/-- The operations of linking. -/
lemma all_linkAll (link : ∀ function i, P (.linkFunction function i)) (fs : List String) (i : ℕ) :
    (linkAll fs i).All P := by
  induction fs generalizing i with
  | nil => exact trivial
  | cons f fs ih =>
    simp only [linkAll, Prog.call, Prog.op_bind, Prog.ret_bind, Prog.all_op]
    refine ⟨link _ _, fun failed => ?_⟩
    split
    · exact trivial
    · exact ih (i + 1)

variable {functions : UInt64} (told : ∀ status, P (.setCurrentUsbFunctionsCb functions status))
include told

/-- The operation of the callback. -/
lemma all_notify (callback : Bool) (status : Status) :
    (notify callback functions status).All P := by
  cases callback with
  | true => exact ⟨told status, fun _ => trivial⟩
  | false => exact trivial

/-- The operations of pulling up without the monitor. -/
lemma all_pullUpNow (pulled : P (.writePullup kGadgetName)) (applied : P (.writeApplied true))
    (callback : Bool) : (pullUpNow functions callback).All P := by
  simp only [pullUpNow, Prog.call, Prog.op_bind, Prog.ret_bind, Prog.all_op]
  refine ⟨pulled, fun ok => ?_⟩
  cases ok with
  | false => exact trivial
  | true =>
    refine ⟨applied, fun _ => ?_⟩
    cases callback with
    | true => exact ⟨told .success, fun _ => trivial⟩
    | false => exact trivial

/-- The operations of pulling up through the monitor. -/
lemma all_pullUpLater (registered : P .registerFunctionsAppliedCallback)
    (started : P .startMonitor) (waited : ∀ timeout, P (.waitForPullUp timeout))
    (callback : Bool) (timeout : UInt64) : (pullUpLater functions callback timeout).All P := by
  refine ⟨registered, fun _ => ⟨started, fun _ => ?_⟩⟩
  cases callback with
  | true => exact ⟨waited timeout, fun _ => ⟨told _, fun _ => trivial⟩⟩
  | false => exact trivial

end

end Redfin.Gadget
