import Mathlib.Data.List.Nodup
import Redfin.Gadget.Leftover

/-!
# Which functions a composition consists of

The functions that a request links, in their order: those that `addGenericAndroidFunctions` links
for the mask, those that the tokens of the vendor functions name, each under the next free index
(`outputs_setupFunctions`), and those of `addAdb`.

A vendor and product id is meant to stand for one such list. The cases of `validateAndSetVidPid`
that know vendor functions by name reject all others and keep this law; the six cases with
`ACCESSORY` or `AUDIO_SOURCE` only log them and set their id all the same (`linked_eq_iff`).
-/

namespace Redfin.Gadget

open Program Bytes
open GadgetFunction hiding none

/-! ## The calls of `linkFunction` -/

/-- In a table without repeated names a token has at most one function. -/
lemma functionsOf_eq {table : List (String × String)} (h : (table.map (·.1)).Nodup)
    (token : String) : functionsOf table token = (table.lookup token).toList := by
  induction table with
  | nil => rfl
  | cons entry rest ih =>
    obtain ⟨name, function⟩ := entry
    obtain ⟨fresh, distinct⟩ := List.nodup_cons.mp h
    by_cases same : name = token
    · subst same
      have none : rest.filter (·.1 = name) = [] := by
        rw [List.filter_eq_nil_iff]
        intro e he
        have other : e.1 ≠ name := fun eq => fresh (eq ▸ List.mem_map_of_mem (f := (·.1)) he)
        simpa using other
      simp [functionsOf, none]
    · have skip : (token == name) = false := beq_false_of_ne (Ne.symm same)
      rw [List.lookup_cons, skip, ← ih distinct, functionsOf, functionsOf,
        List.filter_cons_of_neg (by simpa using same)]

/-- Each token stands for the function the table has for it, if any. -/
lemma vendorLinks_eq (vendorFunctions : String) :
    vendorLinks vendorFunctions =
      (strtok ',' vendorFunctions).filterMap fun token => vendorTable.lookup token := by
  rw [vendorLinks]
  induction strtok ',' vendorFunctions with
  | nil => rfl
  | cons token tokens ih =>
    rw [List.flatMap_cons, ih, functionsOf_eq (by decide), List.filterMap_cons]
    cases vendorTable.lookup token with
    | none => rfl
    | some function => rfl

/-- What a lookup finds stands in the table. -/
lemma mem_of_lookup {α β : Type} [BEq α] [LawfulBEq α] {key : α} {a : β} {table : List (α × β)}
    (h : table.lookup key = some a) : (key, a) ∈ table := by
  obtain ⟨before, after, rfl, -⟩ := List.lookup_eq_some_iff.mp h
  exact List.mem_append_right _ List.mem_cons_self

/-- The tokens of the vendor functions that the table knows. -/
def knownTokens (vendorFunctions : String) : List String :=
  (strtok ',' vendorFunctions).filter fun token => token ∈ vendorTable.map (·.1)

/-- The token of a function. -/
def tokenOf (function : String) : Option String :=
  (vendorTable.map Prod.swap).lookup function

/-- No two tokens name the same function, so that the function gives the token back. -/
lemma tokenOf_of_mem : ∀ entry ∈ vendorTable, tokenOf entry.2 = some entry.1 := by
  decide

/-- No token stands twice in the table. -/
lemma lookup_of_mem : ∀ entry ∈ vendorTable, vendorTable.lookup entry.1 = some entry.2 := by
  decide

/-- The lookup finds what stands beside the token: no token stands twice. -/
lemma lookup_vendorTable_eq_some_iff (token function : String) :
    vendorTable.lookup token = some function ↔ (token, function) ∈ vendorTable :=
  ⟨mem_of_lookup, lookup_of_mem (token, function)⟩

/-- The lookup fails for exactly the tokens that are not in the table. -/
lemma lookup_vendorTable_eq_none_iff {token : String} :
    vendorTable.lookup token = none ↔ token ∉ vendorTable.map (·.1) := by
  rw [List.lookup_eq_none_iff]
  constructor
  · intro other known
    obtain ⟨entry, listed, rfl⟩ := List.mem_map.mp known
    exact bne_iff_ne.mp (other entry listed) rfl
  · intro unknown entry listed
    have other : token ≠ entry.1 := fun eq => unknown (eq ▸ List.mem_map_of_mem listed)
    exact bne_iff_ne.mpr other

/-- A known token comes back from its function. -/
lemma tokenOf_lookup (token : String) :
    (vendorTable.lookup token).bind tokenOf =
      if token ∈ vendorTable.map (·.1) then some token else none := by
  cases found : vendorTable.lookup token with
  | none =>
    rw [if_neg (lookup_vendorTable_eq_none_iff.mp found)]
    exact rfl
  | some function =>
    have listed := mem_of_lookup found
    rw [if_pos (List.mem_map_of_mem (f := (·.1)) listed)]
    exact tokenOf_of_mem _ listed

/-- Two vendor functions are linked alike if and only if the tokens known of them are the same. -/
lemma vendorLinks_eq_iff {v v' : String} :
    vendorLinks v = vendorLinks v' ↔ knownTokens v = knownTokens v' := by
  have back (v : String) : knownTokens v = (vendorLinks v).filterMap tokenOf := by
    rw [vendorLinks_eq, List.filterMap_filterMap, funext tokenOf_lookup, knownTokens,
      ← List.filterMap_eq_filter]
    refine congrArg (List.filterMap · _) (funext fun token => ?_)
    by_cases known : token ∈ vendorTable.map (·.1)
    · rw [if_pos known, Option.guard, if_pos (decide_eq_true known)]
    · rw [if_neg known, Option.guard, if_neg (by simpa using known)]
  have forth (v : String) :
      vendorLinks v = (knownTokens v).filterMap fun token => vendorTable.lookup token := by
    rw [vendorLinks_eq, knownTokens, List.filterMap_filter]
    refine congrArg (List.filterMap · _) (funext fun token => ?_)
    by_cases known : token ∈ vendorTable.map (·.1)
    · rw [if_pos (decide_eq_true known)]
    · rw [if_neg (by simpa using known), lookup_vendorTable_eq_none_iff.mpr known]
  constructor
  · intro same
    rw [back, back, same]
  · intro same
    rw [forth, forth, same]

/-- The call of `linkFunction` that an operation is. -/
def Op.link? : Op → Option (String × ℕ)
  | .linkFunction function i => some (function, i)
  | _ => none

/-- The index that `addAdb` is called with. -/
def Op.adb? : Op → Option ℕ
  | .addAdb i => some i
  | _ => none

def Op.link (x : String × ℕ) : Op := .linkFunction x.1 x.2

/-- An operation that neither adds functions to the gadget nor sets its ids. -/
def Op.AddsNothing : Op → Prop
  | .setVidPid _ _ => False
  | .addGenericAndroidFunctions _ => False
  | .linkFunction _ _ => False
  | .addAdb _ => False
  | _ => True

/-- What adds nothing is no link. -/
lemma Op.AddsNothing.link {o : Op} (h : o.AddsNothing) : o.link? = none := by
  cases o with
  | linkFunction function i => exact h.elim
  | _ => exact rfl

/-- What adds nothing does not add ADB. -/
lemma Op.AddsNothing.adb {o : Op} (h : o.AddsNothing) : o.adb? = none := by
  cases o with
  | addAdb i => exact h.elim
  | _ => exact rfl

namespace Request

variable (r : Request)

/-- The functions of a list are linked one after the other as long as no link fails. -/
lemma trace_linkAll {fs : List String} {i : ℕ}
    (h : ∀ x ∈ fs.zipIdx i, r.linkFunction x.1 x.2 = 0) (s : Monitor × ℕ) :
    ((linkAll fs i).trace r.handle s).map (·.2) = (fs.zipIdx i).map Op.link := by
  induction fs generalizing i with
  | nil => rfl
  | cons f fs ih =>
    rw [List.zipIdx_cons, List.forall_mem_cons] at h
    simp only [linkAll, Prog.call, Prog.op_bind, Prog.ret_bind, Prog.trace, handle]
    rw [if_neg (not_not.mpr h.1), List.map_cons, ih h.2]
    exact rfl

/-- The first link that fails is the last one. -/
lemma trace_linkAll_failed {fs : List String} {i : ℕ} {pre post : List (String × ℕ)}
    {x : String × ℕ} (split : fs.zipIdx i = pre ++ x :: post)
    (linked : ∀ y ∈ pre, r.linkFunction y.1 y.2 = 0) (failed : r.linkFunction x.1 x.2 ≠ 0)
    (s : Monitor × ℕ) :
    ((linkAll fs i).trace r.handle s).map (·.2) = (pre ++ [x]).map Op.link := by
  induction fs generalizing i pre with
  | nil => simp at split
  | cons f fs ih =>
    rw [List.zipIdx_cons] at split
    simp only [linkAll, Prog.call, Prog.op_bind, Prog.ret_bind, Prog.trace, handle]
    cases pre with
    | nil =>
      obtain ⟨rfl, -⟩ := List.cons_eq_cons.mp split
      rw [if_pos failed]
      exact rfl
    | cons y pre =>
      obtain ⟨rfl, rest⟩ := List.cons_eq_cons.mp split
      rw [List.forall_mem_cons] at linked
      rw [if_neg (not_not.mpr linked.1), List.map_cons, ih rest linked.2]
      exact rfl

/-- Pulling up adds nothing. -/
lemma addsNothing_pullUp (b : Bool) :
    (pullUp r.functions r.callback r.timeout b).All Op.AddsNothing := by
  cases b with
  | false => exact all_pullUpNow (fun _ => trivial) trivial trivial r.callback
  | true =>
    exact all_pullUpLater (fun _ => trivial) trivial trivial (fun _ => trivial) r.callback r.timeout

/-- What follows the links adds the functions of `addAdb` at most. -/
lemma outputs_finishSetup {β : Type} {out : Op → Option β}
    (silent : ∀ o : Op, o.AddsNothing → out o = none) (i : ℕ) (s : Monitor × ℕ) :
    (finishSetup r.functions r.callback r.timeout r.generic.ffsEnabled i).outputs out r.handle s =
      if r.hasAdb then (out (.addAdb i)).toList else [] := by
  have none (b : Bool) (s : Monitor × ℕ) :
      (pullUp r.functions r.callback r.timeout b).outputs out r.handle s = [] :=
    ((addsNothing_pullUp r b).mono silent).outputs r.handle s
  by_cases adb : r.hasAdb
  · have called : finishSetup r.functions r.callback r.timeout r.generic.ffsEnabled i = _ :=
      if_pos adb
    rw [called, if_pos adb]
    simp only [Prog.call, Prog.op_bind, Prog.ret_bind]
    rw [Prog.outputs_op _ rfl]
    split
    · exact List.append_nil _
    · rw [none, List.append_nil]
  · have skipped : finishSetup r.functions r.callback r.timeout r.generic.ffsEnabled i = _ :=
      if_neg adb
    rw [skipped, if_neg adb]
    exact none _ s

/-- The links that `setupFunctions` is to make: those of the tokens it knows, with consecutive
indices. -/
def vendorCalls (v : String) : List (String × ℕ) :=
  ((strtok ',' v).filterMap fun token => vendorTable.lookup token).zipIdx r.generic.i

/-- The calls of the vendor functions are their links, counted on from the generic ones. -/
lemma vendorCalls_eq (v : String) : r.vendorCalls v = (vendorLinks v).zipIdx r.generic.i := by
  rw [vendorCalls, vendorLinks_eq]

/-- The program of `setupFunctions` from the links on. -/
def linkAndFinish (v : String) : Hal Status := do
  match ← linkAll (vendorLinks v) r.generic.i with
  | none => return .error
  | some i => finishSetup r.functions r.callback r.timeout r.generic.ffsEnabled i

/-- `setupFunctions` up to the links. -/
lemma run_setup (m : Monitor) (n : ℕ) (added : r.generic.status = .success) :
    let m' : Monitor := ⟨m.running, m.watches ++ r.generic.endpoints⟩
    ((setupFunctions r.functions r.callback r.timeout).trace r.handle (m, n)).map (·.2) =
        .addGenericAndroidFunctions r.functions :: .getVendorFunctions ::
          ((r.linkAndFinish (r.vendorFunctions n)).trace r.handle (m', n + 1)).map (·.2) ∧
      (setupFunctions r.functions r.callback r.timeout).exec r.handle (m, n) =
        (r.linkAndFinish (r.vendorFunctions n)).exec r.handle (m', n + 1) := by
  simp only [setupFunctions, linkVendorFunctions_eq, Prog.call, Prog.op_bind, Prog.ret_bind,
    Prog.exec, Prog.trace, handle, added, ne_eq, not_true_eq_false, if_false, List.map_cons]
  exact ⟨rfl, rfl⟩

/-- When the generic functions are refused, nothing else is called. -/
lemma run_setup_refused (m : Monitor) (n : ℕ) (refused : r.generic.status ≠ .success) :
    ((setupFunctions r.functions r.callback r.timeout).trace r.handle (m, n)).map (·.2) =
        [.addGenericAndroidFunctions r.functions] ∧
      ((setupFunctions r.functions r.callback r.timeout).exec r.handle (m, n)).1 =
        some .error := by
  simp only [setupFunctions, Prog.call, Prog.op_bind, Prog.ret_bind, Prog.exec, Prog.trace, handle,
    if_pos refused]
  exact ⟨rfl, rfl⟩

/-- `setupFunctions` links the function of each token it knows, in order and under consecutive
indices, and then calls `addAdb` with the next index; the first link that fails is its last
operation. It knows seven tokens. -/
theorem setupFunctions_calls (m : Monitor) (n : ℕ) :
    let run := (setupFunctions r.functions r.callback r.timeout).exec r.handle (m, n)
    let ops := ((setupFunctions r.functions r.callback r.timeout).trace r.handle (m, n)).map (·.2)
    let calls := r.vendorCalls (r.vendorFunctions n)
    (∀ token function, vendorTable.lookup token = some function ↔ (token, function) ∈
      [("diag", "diag.diag"), ("diag_mdm", "diag.diag_mdm"), ("qdss", "qdss.qdss"),
        ("qdss_mdm", "qdss.qdss_mdm"), ("serial_cdev", "cser.dun.0"), ("dpl_gsi", "gsi.dpl"),
        ("rmnet_gsi", "gsi.rmnet")]) ∧
    (r.generic.status ≠ .success →
      ops = [.addGenericAndroidFunctions r.functions] ∧ run.1 = some .error) ∧
    (r.generic.status = .success →
      (∀ pre x post, calls = pre ++ x :: post →
        (∀ y ∈ pre, r.linkFunction y.1 y.2 = 0) → r.linkFunction x.1 x.2 ≠ 0 →
        ops = .addGenericAndroidFunctions r.functions :: .getVendorFunctions ::
          (pre ++ [x]).map Op.link ∧ run.1 = some .error) ∧
      ((∀ x ∈ calls, r.linkFunction x.1 x.2 = 0) →
        ∃ rest, ops = .addGenericAndroidFunctions r.functions :: .getVendorFunctions ::
            (calls.map Op.link ++ rest) ∧
          rest.filterMap Op.link? = [] ∧
          rest.filterMap Op.adb? =
            if r.hasAdb then [r.generic.i + calls.length] else [])) := by
  intro run ops calls
  have listed : calls = (vendorLinks (r.vendorFunctions n)).zipIdx r.generic.i :=
    r.vendorCalls_eq _
  refine ⟨lookup_vendorTable_eq_some_iff, r.run_setup_refused m n, fun added => ?_⟩
  obtain ⟨performed, returned⟩ := r.run_setup m n added
  set m' : Monitor × ℕ := (⟨m.running, m.watches ++ r.generic.endpoints⟩, n + 1)
  have result := exec_linkAll r (vendorLinks (r.vendorFunctions n)) r.generic.i m'
  constructor
  · intro pre x post split linked failed
    have broken : ¬∀ x ∈ (vendorLinks (r.vendorFunctions n)).zipIdx r.generic.i,
        r.linkFunction x.1 x.2 = 0 := by
      intro all
      refine failed (all x ?_)
      rw [← listed, split]
      exact List.mem_append_right _ List.mem_cons_self
    rw [if_neg broken] at result
    have tried := r.trace_linkAll_failed (listed.symm.trans split) linked failed m'
    refine ⟨?_, ?_⟩
    · refine performed.trans (congrArg (_ :: _ :: ·) ?_)
      rw [linkAndFinish, Prog.trace_bind, result, List.map_append, tried]
      exact List.append_nil _
    · apply (congrArg Prod.fst returned).trans
      rw [linkAndFinish, Prog.exec_bind_of _ result]
      exact rfl
  · intro linked
    rw [listed] at linked
    rw [if_pos linked] at result
    have tried := r.trace_linkAll linked m'
    let rest := (finishSetup r.functions r.callback r.timeout r.generic.ffsEnabled
      (r.generic.i + (vendorLinks (r.vendorFunctions n)).length)).trace r.handle m'
    refine ⟨rest.map (·.2), performed.trans (congrArg (_ :: _ :: ·) ?_), ?_, ?_⟩
    · rw [linkAndFinish, Prog.trace_bind, result, List.map_append, tried, listed]
    · rw [List.filterMap_map]
      exact (r.outputs_finishSetup (fun _ h => h.link) _ m').trans (ite_self _)
    · rw [List.filterMap_map, listed, List.length_zipIdx]
      exact r.outputs_finishSetup (fun _ h => h.adb) _ m'

end Request

/-! ## The ids -/

/-- The cases of `validateAndSetVidPid` that compare the vendor functions: the functions, the vendor
functions known with their product ids, and the product id of a user build. -/
def strictCases : List (UInt64 × List (String × String) × String) :=
  [(mtp, [("diag", "0x901B")], "0x4ee1"),
    (adb ||| mtp, [("diag", "0x903A")], "0x4ee2"),
    (rndis, [("diag", "0x902C"), ("serial_cdev,diag", "0x90B5"),
      ("diag,diag_mdm,qdss,qdss_mdm,serial_cdev,dpl_gsi", "0x90E6")], "0x4ee3"),
    (adb ||| rndis, [("diag", "0x902D"), ("serial_cdev,diag", "0x90B6"),
      ("diag,diag_mdm,qdss,qdss_mdm,serial_cdev,dpl_gsi", "0x90E7")], "0x4ee4"),
    (ptp, [], "0x4ee5"),
    (adb ||| ptp, [], "0x4ee6"),
    (adb, [("diag", "0x901D"), ("diag,serial_cdev,rmnet_gsi", "0x9091"),
      ("diag,serial_cdev", "0x901F"), ("diag,serial_cdev,rmnet_gsi,dpl_gsi,qdss", "0x90DB"),
      ("diag,diag_mdm,qdss,qdss_mdm,serial_cdev,dpl_gsi,rmnet_gsi", "0x90E5")], "0x4ee7"),
    (midi, [], "0x4ee8"),
    (adb ||| midi, [], "0x4ee9")]

/-- The cases that go on with any vendor functions: the functions and the product id. -/
def looseCases : List (UInt64 × String) :=
  [(accessory, "0x2d00"), (adb ||| accessory, "0x2d01"), (audioSource, "0x2d02"),
    (adb ||| audioSource, "0x2d03"), (accessory ||| audioSource, "0x2d04"),
    (adb ||| accessory ||| audioSource, "0x2d05")]

/-- The functions are those of a case that only logs the vendor functions it does not expect. -/
def Loose (functions : UInt64) : Prop := functions ∈ looseCases.map (·.1)

instance (functions : UInt64) : Decidable (Loose functions) :=
  inferInstanceAs (Decidable (functions ∈ looseCases.map (·.1)))

/-- One case of a switch. -/
lemma elim_lookup_cons {α β : Type} (functions mask : UInt64) (a : α)
    (cases : List (UInt64 × α)) (default : β) (f : α → β) :
    (((mask, a) :: cases).lookup functions).elim default f =
      if functions = mask then f a else (cases.lookup functions).elim default f := by
  rw [List.lookup_cons]
  by_cases here : functions = mask
  · rw [if_pos here, beq_iff_eq.mpr here]
    exact rfl
  · rw [if_neg here, beq_false_of_ne here]

/-- The switch as a look-up in the two tables. -/
lemma vidPid_eq (functions : UInt64) (v : String) :
    vidPid functions v =
      (strictCases.lookup functions).elim
        ((looseCases.lookup functions).elim none fun pid => some ("0x18d1", pid))
        fun c => vendorCase c.1 c.2 v := by
  simp only [vidPid, strictCases, looseCases, elim_lookup_cons, List.lookup_nil, Option.elim_none]

/-- The compositions the switch knows: the functions, the vendor functions they are linked with and
the ids; of the loose cases with none. -/
def compositions : List (UInt64 × List String × String × String) :=
  (strictCases.flatMap fun c => (c.1, [], "0x18d1", c.2.2) ::
    c.2.1.map fun k => (c.1, vendorLinks k.1, "0x05C6", k.2)) ++
  looseCases.map fun c => (c.1, [], "0x18d1", c.2)

/-- No two compositions have the same ids. -/
lemma nodup_ids : (compositions.map (·.2.2)).Nodup := by
  decide +kernel

/-- No case is both strict and loose. -/
lemma not_loose_of_strict : ∀ c ∈ strictCases, ¬Loose c.1 := by
  decide +kernel

/-- A vendor string either is known and gives its id, or stands for no vendor functions. -/
lemma vendorCase_cases {known : List (String × String)} {userPid v : String}
    {ids : String × String} (h : vendorCase known userPid v = some ids) :
    (∃ pid, (v, pid) ∈ known ∧ ids = ("0x05C6", pid)) ∨
      vendorLinks v = [] ∧ ids = ("0x18d1", userPid) := by
  unfold vendorCase at h
  split at h
  · rename_i pid named
    obtain ⟨before, after, rfl, -⟩ := List.lookup_eq_some_iff.mp named
    exact .inl ⟨pid, List.mem_append_right _ List.mem_cons_self, (Option.some.inj h).symm⟩
  · split at h
    · rename_i user
      refine .inr ⟨?_, (Option.some.inj h).symm⟩
      rcases user with rfl | rfl
      · decide
      · decide
    · exact absurd h.symm (Option.some_ne_none ids)

/-- The ids that are set are those of a composition with the vendor functions that are linked,
unless the case is loose. -/
lemma mem_compositions {functions : UInt64} {v : String} {ids : String × String}
    (h : vidPid functions v = some ids) :
    (functions, if Loose functions then [] else vendorLinks v, ids) ∈ compositions := by
  rw [vidPid_eq] at h
  cases strict : strictCases.lookup functions with
  | some c =>
    have listed := mem_of_lookup strict
    rw [strict, Option.elim_some] at h
    rw [if_neg (not_loose_of_strict _ listed)]
    refine List.mem_append_left _ (List.mem_flatMap.mpr ⟨_, listed, ?_⟩)
    rcases vendorCase_cases h with ⟨pid, known, rfl⟩ | ⟨nothing, rfl⟩
    · exact List.mem_cons_of_mem _ (List.mem_map.mpr ⟨(v, pid), known, rfl⟩)
    · rw [nothing]
      exact List.mem_cons_self
  | none =>
    rw [strict, Option.elim_none] at h
    cases loose : looseCases.lookup functions with
    | some pid =>
      have listed := mem_of_lookup loose
      rw [loose, Option.elim_some] at h
      obtain rfl := Option.some.inj h
      have isLoose : Loose functions := List.mem_map_of_mem (f := (·.1)) listed
      rw [if_pos isLoose]
      exact List.mem_append_right _ (List.mem_map.mpr ⟨_, listed, rfl⟩)
    | none =>
      rw [loose, Option.elim_none] at h
      exact absurd h.symm (Option.some_ne_none ids)

/-- The same ids come from the same functions and, unless the case is loose, from vendor functions
that are linked alike. -/
theorem vidPid_inj {functions functions' : UInt64} {v v' : String} {ids : String × String}
    (h : vidPid functions v = some ids) (h' : vidPid functions' v' = some ids) :
    functions = functions' ∧ (¬Loose functions → vendorLinks v = vendorLinks v') := by
  have same := List.inj_on_of_nodup_map nodup_ids (mem_compositions h) (mem_compositions h') rfl
  obtain ⟨rfl, linked⟩ := Prod.mk.inj same
  refine ⟨rfl, fun strict => ?_⟩
  rw [if_neg strict, if_neg strict] at linked
  exact (Prod.mk.inj linked).1

/-! ## Two requests -/

/-- The ids that an operation sets. -/
def Op.ids? : Op → Option (String × String)
  | .setVidPid vid pid => some (vid, pid)
  | _ => none

/-- What adds nothing sets no ids. -/
lemma Op.AddsNothing.ids {o : Op} (h : o.AddsNothing) : o.ids? = none := by
  cases o with
  | setVidPid vid pid => exact h.elim
  | _ => exact rfl

/-- The functions that an operation adds to the gadget: `addGenericAndroidFunctions` adds those of
the functions asked for and `addAdb` those of ADB. -/
def Op.linked? (generic : UInt64 → List String) (adb : List String) : Op → Option (List String)
  | .addGenericAndroidFunctions functions => some (generic functions)
  | .linkFunction function _ => some [function]
  | .addAdb _ => some adb
  | _ => none

/-- What adds nothing links nothing. -/
lemma Op.AddsNothing.linked {o : Op} (generic : UInt64 → List String) (adb : List String)
    (h : o.AddsNothing) : o.linked? generic adb = none := by
  cases o with
  | addGenericAndroidFunctions functions => exact h.elim
  | linkFunction function i => exact h.elim
  | addAdb i => exact h.elim
  | _ => exact rfl

namespace Request

/-- The ids that a request sets. -/
def programmed (r : Request) (m : Monitor) : List (String × String) :=
  r.program.outputs Op.ids? r.handle (m, 0)

/-- The functions that a request links, in their order. -/
def linked (generic : UInt64 → List String) (adb : List String) (r : Request) (m : Monitor) :
    List String :=
  (r.program.outputs (Op.linked? generic adb) r.handle (m, 0)).flatten

/-- The request passes `validateAndSetVidPid` and its links succeed, with `v` as the vendor
functions. -/
structure Configures (r : Request) (v : String) : Prop where
  vendor : ∀ n, r.vendorFunctions n = v
  reaches : r.ReachesSetup
  links : r.Links
  adb : r.hasAdb → r.addAdb.status = .success

/-- Tearing down adds nothing. -/
lemma addsNothing_tearDownGadget : tearDownGadget.All Op.AddsNothing :=
  all_tearDownGadget trivial trivial trivial

/-- The callback adds nothing. -/
lemma addsNothing_notify (b : Bool) (f : UInt64) (st : Status) :
    (notify b f st).All Op.AddsNothing :=
  all_notify (fun _ => trivial) b st

section

variable {r : Request} {β : Type} {out : Op → Option β}
  (silent : ∀ o : Op, o.AddsNothing → out o = none)
include silent

/-- What `setupFunctions` adds if its links succeed. -/
lemma outputs_setupFunctions {v : String} (h : r.Configures v) (m : Monitor) (n : ℕ) :
    (setupFunctions r.functions r.callback r.timeout).outputs out r.handle (m, n) =
      (out (.addGenericAndroidFunctions r.functions)).toList ++
        ((r.vendorCalls v).map Op.link).filterMap out ++
          if r.hasAdb then (out (.addAdb (r.generic.i + (r.vendorCalls v).length))).toList
          else [] := by
  have linked : ∀ x ∈ (vendorLinks v).zipIdx r.generic.i, r.linkFunction x.1 x.2 = 0 := by
    have all := h.links.2
    rwa [h.vendor] at all
  set m' : Monitor × ℕ := (⟨m.running, m.watches ++ r.generic.endpoints⟩, n + 1)
  have result := exec_linkAll r (vendorLinks v) r.generic.i m'
  rw [if_pos linked] at result
  have rest := r.outputs_finishSetup silent (r.generic.i + (vendorLinks v).length) m'
  have links : (linkAll (vendorLinks v) r.generic.i).outputs out r.handle m' =
      ((r.vendorCalls v).map Op.link).filterMap out := by
    rw [vendorCalls_eq, ← r.trace_linkAll linked m', List.filterMap_map]
    exact rfl
  have body : (r.linkAndFinish v).outputs out r.handle m' =
      ((r.vendorCalls v).map Op.link).filterMap out ++
        if r.hasAdb then (out (.addAdb (r.generic.i + (r.vendorCalls v).length))).toList
        else [] := by
    rw [linkAndFinish, Prog.outputs_bind _ result, links, rest, vendorCalls_eq,
      List.length_zipIdx]
  simp only [setupFunctions, linkVendorFunctions_eq, Prog.call, Prog.op_bind, Prog.ret_bind]
  rw [Prog.outputs_op _ rfl, List.append_assoc]
  apply congrArg _
  rw [if_neg (not_not.mpr h.links.1), Prog.outputs_silent (silent .getVendorFunctions trivial) rfl,
    h.vendor]
  exact body

/-- In a run that configures the gadget the ids are set once. -/
lemma outputs_validateAndSetVidPid {v : String} (h : r.Configures v) {ids : String × String}
    (hids : vidPid r.functions v = some ids) (m : Monitor) :
    (validateAndSetVidPid r.functions).outputs out r.handle (m, 0) =
      (out (.setVidPid ids.1 ids.2)).toList := by
  simp only [validateAndSetVidPid, Prog.call, Prog.op_bind, Prog.ret_bind]
  rw [Prog.outputs_silent (silent .getVendorFunctions trivial) rfl, h.vendor, hids]
  exact (Prog.outputs_op _ rfl).trans (List.append_nil _)

/-- What a request sets and adds that configures the gadget. -/
lemma outputs_program {v : String} (h : r.Configures v) {ids : String × String}
    (hids : vidPid r.functions v = some ids) (m : Monitor) :
    r.program.outputs out r.handle (m, 0) =
      (out (.setVidPid ids.1 ids.2)).toList ++
        ((out (.addGenericAndroidFunctions r.functions)).toList ++
        ((r.vendorCalls v).map Op.link).filterMap out ++
          if r.hasAdb then (out (.addAdb (r.generic.i + (r.vendorCalls v).length))).toList
          else []) := by
  obtain ⟨torn, asked, known⟩ := h.reaches
  obtain ⟨⟨k, applied⟩, -⟩ := run_applyFunctions r m torn
  have down : tearDownGadget.exec r.handle (m, 0) = (some .success, (stopped m, 0)) := by
    rw [exec_tearDownGadget, if_pos torn, stopped]
  obtain ⟨_, identified, success⟩ := exec_validateAndSetVidPid r (stopped m)
  obtain rfl := success.mpr known
  obtain ⟨⟨st, n, configured⟩, -⟩ := run_setupFunctions r (stopped m) (stopped_running m)
  have apply : (applyFunctions r.functions r.callback r.timeout).outputs out r.handle (m, 0) =
      (out (.setVidPid ids.1 ids.2)).toList ++
        (setupFunctions r.functions r.callback r.timeout).outputs out r.handle
          (stopped m, 1) := by
    rw [applyFunctions, Prog.outputs_bind _ down,
      (addsNothing_tearDownGadget.mono silent).outputs, List.nil_append]
    simp only [ne_eq, not_true_eq_false, if_false, Prog.call, Prog.op_bind, Prog.ret_bind]
    rw [Prog.outputs_silent (silent .usleep trivial) rfl, if_neg asked,
      Prog.outputs_bind _ identified, outputs_validateAndSetVidPid silent h hids]
    apply congrArg _
    rw [if_neg (not_not.mpr rfl), Prog.outputs_bind _ configured]
    refine (congrArg _ ?_).trans (List.append_nil _)
    split
    · exact ((addsNothing_notify _ _ _).mono silent).outputs r.handle _
    · exact rfl
  rw [← outputs_setupFunctions silent h (stopped m) 1, ← apply]
  simp only [program, setCurrentUsbFunctions, Prog.call, Prog.op_bind, Prog.ret_bind]
  rw [Prog.outputs_silent (silent .lock trivial) rfl,
    Prog.outputs_silent (silent (.writeFunctions _) trivial) rfl,
    Prog.outputs_silent (silent (.writeApplied _) trivial) rfl, Prog.outputs_bind _ applied,
    Prog.outputs_silent (silent .unlock trivial) rfl]
  exact List.append_nil _

end

variable {r r' : Request} {v v' : String}

/-- A request that configures the gadget has ids. -/
lemma Configures.vidPid_ne_none (h : r.Configures v) : ∃ ids, vidPid r.functions v = some ids := by
  have known := h.reaches.2.2.1
  rw [h.vendor] at known
  exact Option.ne_none_iff_exists'.mp known

/-- The whole request sets the ids once. -/
lemma programmed_eq (h : r.Configures v) {ids : String × String}
    (hids : vidPid r.functions v = some ids) (m : Monitor) : r.programmed m = [ids] := by
  have nothing : ((r.vendorCalls v).map Op.link).filterMap Op.ids? = [] := by
    rw [List.filterMap_map]
    exact List.filterMap_eq_nil_iff.mpr fun _ _ => rfl
  rw [programmed, outputs_program (fun _ h => h.ids) h hids, nothing]
  split <;> exact rfl

/-- A request links the functions for its mask, those that the tokens of its vendor functions name
and those of ADB. -/
lemma linked_eq (generic : UInt64 → List String) (adb : List String) (h : r.Configures v)
    (m : Monitor) :
    r.linked generic adb m =
      generic r.functions ++ (vendorLinks v ++ if r.hasAdb then adb else []) := by
  obtain ⟨ids, hids⟩ := h.vidPid_ne_none
  have vendor : (((r.vendorCalls v).map Op.link).filterMap (Op.linked? generic adb)).flatten =
      vendorLinks v := by
    rw [vendorCalls_eq]
    generalize r.generic.i = i
    induction vendorLinks v generalizing i with
    | nil => rfl
    | cons function functions ih => exact congrArg (function :: ·) (ih (i + 1))
  rw [linked, outputs_program (fun _ h => h.linked generic adb) h hids]
  simp only [List.flatten_append, vendor]
  by_cases hasAdb : r.hasAdb
  · simp [hasAdb, Op.linked?]
  · simp [hasAdb, Op.linked?]

end Request

open Request

/-- Two requests that set the same ids link the same functions if and only if the ids are not those
of a case that takes any vendor functions or the tokens known of these are the same. -/
theorem linked_eq_iff (generic : UInt64 → List String) (adb : List String) {r r' : Request}
    {v v' : String} (h : r.Configures v) (h' : r'.Configures v') {m m' : Monitor}
    (same : r.programmed m = r'.programmed m') :
    r.linked generic adb m = r'.linked generic adb m' ↔
      ¬Loose r.functions ∨ knownTokens v = knownTokens v' := by
  rw [← vendorLinks_eq_iff]
  obtain ⟨ids, hids⟩ := h.vidPid_ne_none
  obtain ⟨ids', hids'⟩ := h'.vidPid_ne_none
  rw [programmed_eq h hids, programmed_eq h' hids'] at same
  obtain rfl := (List.cons_eq_cons.mp same).1
  obtain ⟨functions, strict⟩ := vidPid_inj hids hids'
  have adbs : r.hasAdb ↔ r'.hasAdb := by rw [hasAdb, hasAdb, functions]
  rw [linked_eq generic adb h, linked_eq generic adb h', functions, List.append_cancel_left_eq,
    if_congr adbs rfl rfl, List.append_cancel_right_eq, ← functions]
  constructor
  · exact .inr
  · rintro (case | links)
    · exact strict case
    · exact links

/-- An accessory without vendor functions. -/
def accessoryRequest : Request where
  functions := accessory
  generic := ⟨.success, false, 1, []⟩

/-- An accessory on a device whose vendor functions are set to diag. -/
def accessoryDiagRequest : Request where
  functions := accessory
  vendorFunctions := fun _ => "diag"
  generic := ⟨.success, false, 1, []⟩

/-- The accessory without vendor functions configures the gadget. -/
lemma configures_accessory : accessoryRequest.Configures "" where
  vendor _ := rfl
  reaches := by decide
  links := by decide
  adb := by decide

/-- The accessory with `diag` as vendor functions configures it too. -/
lemma configures_accessoryDiag : accessoryDiagRequest.Configures "diag" where
  vendor _ := rfl
  reaches := by decide
  links := by decide
  adb := by decide

/-- A request repeated. -/
theorem linked_accessory_again :
    accessoryRequest.linked (fun _ => ["accessory.gs2"]) ["ffs.adb"] {} =
      accessoryRequest.linked (fun _ => ["accessory.gs2"]) ["ffs.adb"] ⟨true, []⟩ :=
  (linked_eq_iff _ _ configures_accessory configures_accessory (by decide)).mpr (.inr rfl)

/-- The two requests set the same ids and link different functions. -/
theorem accessory_with_diag :
    accessoryRequest.Configures "" ∧ accessoryDiagRequest.Configures "diag" ∧
      accessoryRequest.programmed {} = accessoryDiagRequest.programmed {} ∧
      accessoryRequest.linked (fun _ => ["accessory.gs2"]) ["ffs.adb"] {} = ["accessory.gs2"] ∧
      accessoryDiagRequest.linked (fun _ => ["accessory.gs2"]) ["ffs.adb"] {} =
        ["accessory.gs2", "diag.diag"] := by
  refine ⟨configures_accessory, configures_accessoryDiag, by decide, by decide, by decide⟩

end Redfin.Gadget
