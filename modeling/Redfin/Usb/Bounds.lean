import Redfin.Usb.Query

/-!
# The bounds of the port-status vector

Every caller gives `queryVersionHelper` an empty vector. `getPortStatusHelper` resizes it to the
number of ports, and after that, whether it succeeded or not, the element 0 is written. So no
access is out of bounds exactly if the directory could be listed and holds a link, and hence a port
(`inBounds_iff`); what the nodes hold does not matter.
-/

set_option linter.unusedSectionVars false

namespace Redfin.Usb

open Program

section

variable [Libbase]

/-- An access to the vector is to an element it has. -/
def InBounds : Op → Prop
  | .access i size => i < size
  | _ => True

/-- Every operation returns, but for an aborted process. -/
def Total {σ : Type} (h : Handler sig σ) : Prop := ∀ o s, o ≠ .abort → (h o s).1.isSome

/-- What is read to fill the vector is no access to it. -/
lemma reads_inBounds : Reads InBounds where
  readFile _ := trivial
  listDir _ := trivial
  hashOrder _ := trivial
  readUsbDataEnabled := trivial
  abort := trivial

/-- The helpers at the end of a query access the first port only. -/
lemma inBounds_finishQuery {v : List PortStatus} {n : ℕ} (hn : 0 < n) (hv : v.length = n)
    (status : Status) : Keeps InBounds (finishQuery status v) fun _ => True := by
  have h₀ : InBounds (.access 0 n) := hn
  refine (keeps_queryMoistureDetectionStatus reads_inBounds h₀ hv).bind fun ⟨_, v⟩ _ hv => ?_
  refine (keeps_queryPowerTransferStatus reads_inBounds h₀ hv).bind fun ⟨_, v⟩ _ hv => ?_
  refine ⟨trivial, fun isSet => ?_⟩
  cases isSet with
  | true => exact ⟨trivial, fun _ => ⟨trivial, fun _ => trivial⟩⟩
  | false => exact ⟨trivial, fun _ => trivial⟩

/-- With a port in the listing everything after it is in bounds. -/
lemma inBounds_ports {names : List (String × Bool)} (hn : 0 < names.length) :
    Keeps InBounds (do
      let order ← call (.hashOrder names)
      let (status, v) ← getPortStatuses order.1 0 (resize [] names.length)
      finishQuery status v) fun _ => True := by
  refine ⟨trivial, fun order => ?_⟩
  have ho : 0 + order.1.length = names.length := by
    rw [Nat.zero_add]
    exact order.2.length_eq
  refine (keeps_getPortStatuses reads_inBounds (fun i hi => hi) (length_resize [] names.length)
    order.1 ho).bind fun ⟨status, v⟩ _ hv => ?_
  exact inBounds_finishQuery hn hv status

/-- An inserted name stands in the map. -/
lemma insertName_ne_nil (names : List (String × Bool)) (name : String) :
    insertName names name ≠ [] := by
  intro h
  simp only [insertName] at h
  split at h
  · rename_i hm
    rw [h] at hm
    cases hm
  · exact absurd h (by simp)

/-- A link in the directory gives an entry of the map. -/
lemma addEntry_ne_nil (names : List (String × Bool)) {e : Dirent} (he : e.isLink) :
    addEntry names e ≠ [] := by
  simp only [addEntry, he, if_true]
  split
  · simp [connectName, insertName_ne_nil]
  · exact insertName_ne_nil _ _

/-- The map stays empty exactly when the directory has no link. -/
lemma foldl_addEntry_eq_nil (entries : List Dirent) (names : List (String × Bool)) :
    entries.foldl addEntry names = [] ↔ names = [] ∧ ∀ e ∈ entries, e.isLink = false := by
  induction entries generalizing names with
  | nil => simp
  | cons e entries ih =>
    have step := ih (addEntry names e)
    cases he : e.isLink with
    | false =>
      have hn : addEntry names e = names := by simp [addEntry, he]
      rw [hn] at step
      simpa [he, hn] using step
    | true =>
      have hn := addEntry_ne_nil names he
      simp [step, hn, he]

/-- A port is found exactly if the directory holds a link. -/
lemma length_foldl_addEntry_pos {entries : List Dirent} :
    0 < (entries.foldl addEntry []).length ↔ ∃ e ∈ entries, e.isLink := by
  rw [List.length_pos_iff, ne_eq, foldl_addEntry_eq_nil]
  simp

/-- The directory can be listed and holds a link; the listing is what `getTypeCPortNamesHelper` gets
under the lock. -/
def ListsLink {σ : Type} (h : Handler sig σ) (s : σ) : Prop :=
  ∃ entries, (h (.listDir kTypecPath) (h (.lock .mLock) s).2).1 = some (some entries) ∧
    ∃ e ∈ entries, e.isLink

/-- An operation other than an abort returns with some answer. -/
lemma Total.exists_eq {σ : Type} {h : Handler sig σ} (total : Total h) {o : Op} (ho : o ≠ .abort)
    (s : σ) : ∃ a, h o s = (some a, (h o s).2) := by
  obtain ⟨a, ha⟩ := Option.isSome_iff_exists.mp (total o s ho)
  exact ⟨a, Prod.ext ha rfl⟩

/-- An empty vector is written right away. -/
lemma outOfBounds_finishQuery {σ : Type} (h : Handler sig σ) (status : Status) (s : σ) :
    ¬∀ e ∈ (finishQuery status []).trace h s, InBounds e.2 := by
  intro hx
  simp only [finishQuery, queryMoistureDetectionStatus, modify, access, Prog.call, Prog.op_bind,
    Prog.trace, List.forall_mem_cons] at hx
  exact absurd hx.1 (Nat.lt_irrefl 0)

/-- A listing without a port leaves the vector empty. -/
lemma outOfBounds_ports {σ : Type} {h : Handler sig σ} (total : Total h) (s : σ) :
    ¬∀ e ∈ Prog.trace h (do
        let order ← call (.hashOrder [])
        let (status, v) ← getPortStatuses order.1 0 (resize [] 0)
        finishQuery status v) s, InBounds e.2 := by
  obtain ⟨order, hash⟩ := total.exists_eq (o := .hashOrder []) nofun s
  have hempty : order.1 = [] := order.2.eq_nil
  rw [Prog.call_bind, Prog.trace_op _ hash, List.forall_mem_cons, hempty]
  exact fun hx => outOfBounds_finishQuery h .success _ hx.2

/-- Every run of `queryVersionHelper` is in bounds if and only if it finds a link. -/
theorem inBounds_iff {σ : Type} {h : Handler sig σ} (total : Total h) (s : σ) :
    (∀ e ∈ (queryVersionHelper []).trace h s, InBounds e.2) ↔ ListsLink h s := by
  obtain ⟨_, lock⟩ := total.exists_eq (o := .lock .mLock) nofun s
  set s₁ := (h (.lock .mLock) s).2 with hs₁
  obtain ⟨listing, list⟩ := total.exists_eq (o := .listDir kTypecPath) nofun s₁
  set s₂ := (h (.listDir kTypecPath) s₁).2
  simp only [queryVersionHelper, getPortStatusHelper, getTypeCPortNamesHelper, Prog.call,
    Prog.op_bind, Prog.ret_bind]
  rw [Prog.trace_op _ lock, Prog.trace_op _ list]
  -- up to the listing no element is used
  have lockOk : InBounds (.lock .mLock) := trivial
  have listOk : InBounds (.listDir kTypecPath) := trivial
  rw [List.forall_mem_cons, and_iff_right lockOk, List.forall_mem_cons, and_iff_right listOk]
  have links : ListsLink h s ↔ ∃ entries, listing = some entries ∧ ∃ e ∈ entries, e.isLink := by
    simp only [ListsLink, ← hs₁, list, Option.some.injEq]
  rw [links]
  cases listing with
  | none =>
    apply iff_of_false (outOfBounds_finishQuery h .error s₂)
    rintro ⟨entries, he, -⟩
    cases he
  | some entries =>
    simp only [Option.some.injEq, exists_eq_left', ← length_foldl_addEntry_pos]
    constructor
    · intro hx
      refine Nat.pos_of_ne_zero fun hn => outOfBounds_ports total s₂ ?_
      rwa [List.length_eq_zero_iff.mp hn] at hx
    · intro hn
      exact (inBounds_ports hn).forall_trace h s₂

/-- An environment in which only the Type-C directory has something to read. -/
def typecOnly (typec : Option (List Dirent)) : Handler sig Unit := fun o _ => (answer typec o, ())

/-- The phone that has nothing but this directory answers every operation. -/
lemma total_typecOnly (typec : Option (List Dirent)) : Total (typecOnly typec) := by
  intro o s ho
  cases o with
  | abort => exact absurd rfl ho
  | _ => rfl

end

open Libbase.Documented in
/-- One port is enough. -/
theorem inBounds_of_one_port :
    ListsLink (typecOnly (some [⟨"port0", true⟩])) () ∧
      ∀ e ∈ (queryVersionHelper []).trace (typecOnly (some [⟨"port0", true⟩])) (),
        InBounds e.2 := by
  have links : ListsLink (typecOnly (some [⟨"port0", true⟩])) () :=
    ⟨_, rfl, _, List.mem_singleton_self _, rfl⟩
  exact ⟨links, (inBounds_iff (total_typecOnly _) ()).mpr links⟩

open Libbase.Documented in
/-- Without the directory the first element of the empty vector is written. -/
theorem outOfBounds_without_typec :
    ¬∀ e ∈ (queryVersionHelper []).trace (typecOnly none) (), InBounds e.2 := by
  intro hx
  have access : ((), Op.access 0 0) ∈ (queryVersionHelper []).trace (typecOnly none) () := by
    decide +kernel
  exact absurd (hx _ access) (Nat.lt_irrefl 0)

end Redfin.Usb
