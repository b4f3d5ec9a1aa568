import Redfin.Program.Protocol
import Redfin.Usb.Status

/-!
# What a query of the ports does

The functions of `Redfin.Usb.Status` once through, for any property of operations: if the property
holds of the reads a query performs and of the accesses to a vector of `n` elements, it holds of
every operation of `getPortStatusHelper`, `queryMoistureDetectionStatus` and
`queryPowerTransferStatus`, and the vector keeps its size.
-/

set_option linter.unusedSectionVars false

namespace Redfin.Usb

open Program

variable [Libbase]

/-- Every operation of the program has the property `P`, and its result satisfies `post`. -/
abbrev Keeps {α : Type} (P : Op → Prop) (p : Hal α) (post : α → Prop) : Prop :=
  p.Follows (.always P) () fun a _ => post a

/-- The property holds of what a query of the ports reads. -/
structure Reads (P : Op → Prop) : Prop where
  readFile : ∀ path, P (.readFile path)
  listDir : ∀ path, P (.listDir path)
  hashOrder : ∀ names, P (.hashOrder names)
  readUsbDataEnabled : P .readUsbDataEnabled
  abort : P .abort

section

variable {P : Op → Prop} {v : List PortStatus} {i n : ℕ}

/-- An access to an element. -/
lemma keeps_access (hi : P (.access i n)) (hv : v.length = n) :
    Keeps P (access v i) fun _ => True := by
  subst hv
  exact ⟨hi, fun _ => trivial⟩

/-- A change of an element keeps the length. -/
lemma keeps_modify (hi : P (.access i n)) (hv : v.length = n) (f : PortStatus → PortStatus) :
    Keeps P (modify v i f) fun w => w.length = n := by
  refine (keeps_access hi hv).bind fun _ _ _ => ?_
  show (v.modify i f).length = n
  rw [List.length_modify, hv]

/-- Reading a node. -/
lemma keeps_readFile (hf : ∀ path, P (.readFile path)) (path : String) :
    Keeps P (call (.readFile path)) fun _ => True :=
  ⟨hf path, fun _ => trivial⟩

/-- An aborted process returns nothing. -/
lemma keeps_abort {α : Type} (hP : Reads P) (post : α → Prop) : Keeps P (abort : Hal α) post :=
  ⟨hP.abort, fun r => nomatch r⟩

/-- Reading the alternative of a power role. -/
lemma keeps_getPowerRole (hP : Reads P) (role : PortRole) :
    Keeps P role.getPowerRole fun _ => True := by
  cases role with
  | powerRole r => exact trivial
  | dataRole r => exact keeps_abort hP _
  | mode m => exact keeps_abort hP _

/-- Reading the alternative of a data role. -/
lemma keeps_getDataRole (hP : Reads P) (role : PortRole) :
    Keeps P role.getDataRole fun _ => True := by
  cases role with
  | powerRole r => exact keeps_abort hP _
  | dataRole r => exact trivial
  | mode m => exact keeps_abort hP _

/-- Reading the alternative of a mode. -/
lemma keeps_getMode (hP : Reads P) (role : PortRole) : Keeps P role.getMode fun _ => True := by
  cases role with
  | powerRole r => exact keeps_abort hP _
  | dataRole r => exact keeps_abort hP _
  | mode m => exact trivial

/-- Reading a role from its node. -/
lemma keeps_readRole (hf : ∀ path, P (.readFile path)) (filename : String) (role : PortRole) :
    Keeps P (readRole filename role) fun _ => True := by
  refine (keeps_readFile hf filename).bind fun r _ _ => ?_
  cases r with
  | none => exact trivial
  | some roleName => exact trivial

/-- Reading the accessory. -/
lemma keeps_getAccessoryConnected (hf : ∀ path, P (.readFile path)) (portName : String) :
    Keeps P (getAccessoryConnected portName) fun _ => True := by
  refine (keeps_readFile hf _).bind fun r _ _ => ?_
  cases r with
  | none => exact trivial
  | some accessory => exact trivial

/-- Reading the current role. -/
lemma keeps_getCurrentRoleHelper (hf : ∀ path, P (.readFile path)) (portName : String)
    (connected : Bool) (role : PortRole) :
    Keeps P (getCurrentRoleHelper portName connected role) fun _ => True := by
  simp only [getCurrentRoleHelper]
  split
  · exact trivial
  · split
    · refine (keeps_getAccessoryConnected hf portName).bind fun accessory _ _ => ?_
      cases accessory with
      | none => exact trivial
      | some accessory =>
        dsimp only
        split
        · exact trivial
        · split
          · exact trivial
          · exact keeps_readRole hf _ _
    · exact keeps_readRole hf _ _

/-- Reading whether the port can switch. -/
lemma keeps_canSwitch (hf : ∀ path, P (.readFile path)) (port : String × Bool) :
    Keeps P (canSwitch port) fun _ => True := by
  obtain ⟨portName, connected⟩ := port
  cases connected with
  | false => exact trivial
  | true =>
    refine (keeps_readFile hf _).bind fun r _ _ => ?_
    cases r with
    | none => exact trivial
    | some supportsPD => exact trivial

/-- Filling a role keeps the length. -/
lemma keeps_fillRole {α : Type} {get : PortRole → Hal α} (hP : Reads P) (hi : P (.access i n))
    (hv : v.length = n) (hg : ∀ role, Keeps P (get role) fun _ => True) (initial : PortRole)
    (set : α → PortStatus → PortStatus) (port : String × Bool) :
    Keeps P (fillRole initial get set i port v) fun r => r.1.length = n := by
  refine (keeps_getCurrentRoleHelper hP.readFile _ _ _).bind fun r _ _ => ?_
  obtain ⟨status, role⟩ := r
  show Keeps P (if status ≠ .success then _ else _) _
  split
  · exact hv
  · refine (hg role).bind fun x _ _ => ?_
    exact (keeps_modify hi hv _).bind fun v _ hv => hv

/-- Filling the flags keeps the length. -/
lemma keeps_fillFlags (hf : ∀ path, P (.readFile path)) (hd : P .readUsbDataEnabled)
    (hi : P (.access i n)) (hv : v.length = n) (port : String × Bool) :
    Keeps P (fillFlags i port v) fun w => w.length = n := by
  refine (keeps_modify hi hv _).bind fun v _ hv => ?_
  refine (keeps_canSwitch hf port).bind fun can _ _ => ?_
  refine (keeps_modify hi hv _).bind fun v _ hv => ?_
  refine (keeps_canSwitch hf port).bind fun can _ _ => ?_
  refine (keeps_modify hi hv _).bind fun v _ hv => ?_
  refine (keeps_modify hi hv _).bind fun v _ hv => ?_
  refine ⟨hd, fun enabled => ?_⟩
  refine (keeps_modify hi hv _).bind fun v _ hv => ?_
  refine (keeps_modify hi hv _).bind fun v _ hv => ?_
  refine (keeps_access hi hv).bind fun _ _ _ => ?_
  refine (keeps_access hi hv).bind fun _ _ _ => ?_
  exact (keeps_access hi hv).bind fun _ _ _ => hv

/-- One turn of the loop accesses one element. -/
lemma keeps_getPortStatus (hP : Reads P) (hi : P (.access i n)) (hv : v.length = n)
    (port : String × Bool) : Keeps P (getPortStatus i port v) fun r => r.1.length = n := by
  have power := keeps_getPowerRole hP
  have data := keeps_getDataRole hP
  have mode := keeps_getMode hP
  refine (keeps_modify hi hv _).bind fun v _ hv => ?_
  refine (keeps_fillRole hP hi hv power _ _ port).bind fun ⟨v, ok⟩ _ hv => ?_
  cases ok with
  | false => exact hv
  | true =>
    refine (keeps_fillRole hP hi hv data _ _ port).bind fun ⟨v, ok⟩ _ hv => ?_
    cases ok with
    | false => exact hv
    | true =>
      refine (keeps_fillRole hP hi hv mode _ _ port).bind fun ⟨v, ok⟩ _ hv => ?_
      cases ok with
      | false => exact hv
      | true =>
        have flags := keeps_fillFlags hP.readFile hP.readUsbDataEnabled hi hv port
        exact flags.bind fun v _ hv => hv

/-- The loop over the ports, by induction on those that are left. -/
lemma keeps_getPortStatuses (hP : Reads P) (ha : ∀ i < n, P (.access i n)) (hv : v.length = n)
    (ports : List (String × Bool)) (hi : i + ports.length = n) :
    Keeps P (getPortStatuses ports i v) fun r => r.2.length = n := by
  induction ports generalizing i v with
  | nil => exact hv
  | cons port rest ih =>
    rw [List.length_cons] at hi
    have hin := ha i (by omega)
    refine (keeps_getPortStatus hP hin hv port).bind fun ⟨v, ok⟩ _ hv => ?_
    cases ok with
    | false => exact hv
    | true => exact ih hv (by omega)

/-- Logging the moisture keeps the length. -/
lemma keeps_logMoisture (h₀ : P (.access 0 n)) (hv : v.length = n) :
    Keeps P (logMoisture v) fun r => r.2.length = n := by
  refine (keeps_access h₀ hv).bind fun _ _ _ => ?_
  exact (keeps_access h₀ hv).bind fun _ _ _ => hv

/-- Noting the moisture keeps the length. -/
lemma keeps_queryMoistureDetected (hP : Reads P) (h₀ : P (.access 0 n)) (hv : v.length = n) :
    Keeps P (queryMoistureDetected v) fun r => r.2.length = n := by
  refine (keeps_readFile hP.readFile _).bind fun status _ _ => ?_
  cases status with
  | none => exact hv
  | some status =>
    dsimp only
    generalize trim status = text
    split
    · refine (keeps_modify h₀ hv _).bind fun v _ hv => ?_
      refine (keeps_modify h₀ hv _).bind fun v _ hv => ?_
      exact keeps_logMoisture h₀ hv
    · refine (keeps_modify h₀ hv _).bind fun v _ hv => ?_
      exact keeps_logMoisture h₀ hv

/-- The helper for moisture keeps the length. -/
lemma keeps_queryMoistureDetectionStatus (hP : Reads P) (h₀ : P (.access 0 n))
    (hv : v.length = n) : Keeps P (queryMoistureDetectionStatus v) fun r => r.2.length = n := by
  refine (keeps_modify h₀ hv _).bind fun v _ hv => ?_
  refine (keeps_modify h₀ hv _).bind fun v _ hv => ?_
  refine (keeps_modify h₀ hv _).bind fun v _ hv => ?_
  refine (keeps_modify h₀ hv _).bind fun v _ hv => ?_
  refine (keeps_modify h₀ hv _).bind fun v _ hv => ?_
  refine (keeps_readFile hP.readFile _).bind fun enabled _ _ => ?_
  cases enabled with
  | none => exact hv
  | some enabled =>
    dsimp only
    generalize trim enabled = text
    split
    · exact keeps_queryMoistureDetected hP h₀ hv
    · exact keeps_logMoisture h₀ hv

/-- The helper for power transfer keeps the length. -/
lemma keeps_queryPowerTransferStatus (hP : Reads P) (h₀ : P (.access 0 n)) (hv : v.length = n) :
    Keeps P (queryPowerTransferStatus v) fun r => r.2.length = n := by
  refine (keeps_readFile hP.readFile _).bind fun enabled _ _ => ?_
  cases enabled with
  | none => exact hv
  | some enabled =>
    refine (keeps_modify h₀ hv _).bind fun v _ hv => ?_
    exact (keeps_access h₀ hv).bind fun _ _ _ => hv

end

/-- The vector is made as long as asked. -/
lemma length_resize (v : List PortStatus) (n : ℕ) : (resize v n).length = n := by
  simp only [resize, List.length_append, List.length_take, List.length_replicate]
  omega

/-! ## Queries as a whole -/

/-- The property holds of everything a query does between taking and releasing the lock. -/
structure Queries (P : Op → Prop) : Prop extends Reads P where
  access : ∀ i n, P (.access i n)
  readCallback : P .readCallback
  notify : ∀ v status, P (.notify (.portStatusChange v status))

section

variable {P : Op → Prop}

/-- The operations of the listing and of the loop. -/
lemma all_getPorts (hP : Reads P) (ha : ∀ i n, P (.access i n)) (v : List PortStatus) :
    (getPortStatusHelper v).All P := by
  refine ⟨hP.listDir _, fun listing => ?_⟩
  cases listing with
  | none => exact trivial
  | some entries =>
    refine ⟨hP.hashOrder _, fun order => ?_⟩
    have ho : 0 + order.1.length = (entries.foldl addEntry []).length := by
      rw [Nat.zero_add]
      exact order.2.length_eq
    exact (keeps_getPortStatuses hP (fun i _ => ha i _) (length_resize _ _) order.1 ho).all

/-- The operations of the whole query. -/
lemma all_getPortStatusHelper (hP : Queries P) (v : List PortStatus) :
    (getPortStatusHelper v).All P := all_getPorts hP.toReads hP.access v

/-- A query performs what `P` holds of, takes `mLock` first and releases it last. -/
lemma all_queryVersionHelper (hP : Queries P) (lock : P (.lock .mLock))
    (unlock : P (.unlock .mLock)) (v : List PortStatus) : (queryVersionHelper v).All P := by
  have all {v : List PortStatus} (status : Status) : (finishQuery status v).All P := by
    refine (keeps_queryMoistureDetectionStatus hP.toReads (hP.access _ _) rfl).all.bind fun r => ?_
    refine (keeps_queryPowerTransferStatus hP.toReads (hP.access _ _) rfl).all.bind fun r => ?_
    refine ⟨hP.readCallback, fun isSet => ?_⟩
    cases isSet with
    | true => exact ⟨hP.notify _ _, fun _ => ⟨unlock, fun _ => trivial⟩⟩
    | false => exact ⟨unlock, fun _ => trivial⟩
  exact ⟨lock, fun _ => (all_getPortStatusHelper hP v).bind fun r => all r.1⟩

end

/-- Answers of an environment in which only the Type-C directory has something to read, no callback
is set and writes succeed. -/
def answer (typec : Option (List Dirent)) : (o : Op) → Option o.Res
  | .lock _ => some ()
  | .unlock _ => some ()
  | .trylock _ => some true
  | .readFile _ => some none
  | .writeFile _ _ => some true
  | .fopen _ => some false
  | .fputs _ _ => some false
  | .fclose _ => some true
  | .opendir _ => some false
  | .listDir _ => some typec
  | .hashOrder names => some ⟨names, .refl names⟩
  | .access _ _ => some ()
  | .abort => none
  | .getProperty _ => some ""
  | .readCallback => some false
  | .writeCallback _ => some ()
  | .notify _ => some ()
  | .readUsbDataEnabled => some true
  | .writeUsbDataEnabled _ => some ()
  | .readPartnerUp => some false
  | .writePartnerUp _ => some ()
  | .condSignal => some ()
  | .condRelease => some ()
  | .condWake => some true
  | .pthreadKill => some true
  | .pthreadJoin => some ()
  | .pthreadCreate => some true
  | .pthreadExit => some ()
  | .signal => some ()
  | .readDestroyThread => some false
  | .writeDestroyThread _ => some ()
  | .openSocket => some true
  | .epollCreate => some true
  | .epollCtl => some true
  | .epollEnter => some ()
  | .epollReturn => some .interrupted
  | .recv => some none
  | .close => some ()

end Redfin.Usb
