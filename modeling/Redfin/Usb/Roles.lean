import Redfin.Usb.Ports
import Redfin.Usb.Query

/-!
# The alternatives of the role union

`getCurrentRoleHelper` is asked for one of the three roles of a port by the alternative that the
union holds, and `getPortStatusHelper` reads that alternative back. What the nodes say decides which
alternative comes back: the texts `source` and `sink` set the power role and the texts `host` and
`device` the mode, unless the data role was asked for (`tag_parseRole`). So the alternative is kept
exactly where the role node does not hold a text of another role (`roles_typed_iff`).
-/

set_option linter.unusedSectionVars false

namespace Redfin.Usb

open Program

section

variable [Libbase]

/-- The accessory node of a port's partner. -/
def accessoryNode (portName : String) : String :=
  "/sys/class/typec/" ++ portName ++ "-partner/accessory_mode"

/-- The operations to read a node find the contents `files`. -/
def Finds {σ : Type} (files : String → Option String) (h : Handler sig σ) : Prop :=
  ∀ path s, (h (.readFile path) s).1 = some (files path)

/-- What `readRole` makes of the contents of the nodes. -/
def readRoleOf (files : String → Option String) (filename : String) (role : PortRole) :
    Status × PortRole :=
  (files filename).elim (.error, role) fun text => parseRole (extractRole (trim text)) role

/-- What `getCurrentRoleHelper` makes of the contents of the nodes. -/
def roleOf (files : String → Option String) (portName : String) (connected : Bool)
    (tag : PortRole.Tag) : Status × PortRole :=
  let node := roleNode portName tag
  if connected = false then (.success, node.2)
  else if tag = .mode then
    (files (accessoryNode portName)).elim (.error, node.2) fun accessory =>
      if trim accessory = "analog_audio" then (.success, .mode .audioAccessory)
      else if trim accessory = "debug" then (.success, .mode .debugAccessory)
      else readRoleOf files node.1 node.2
  else readRoleOf files node.1 node.2

/-- The node's role has the tag that is asked for. -/
lemma getTag_roleNode (portName : String) (tag : PortRole.Tag) :
    (roleNode portName tag).2.getTag = tag := by
  cases tag with
  | powerRole => exact rfl
  | dataRole => exact rfl
  | mode => exact rfl

section

variable {σ : Type} {files : String → Option String} {h : Handler sig σ} (finds : Finds files h)
include finds

/-- Reading a node finds its text. -/
lemma Finds.readFile (path : String) (s : σ) :
    ∃ s', h (.readFile path) s = (some (files path), s') :=
  ⟨(h (.readFile path) s).2, Prod.ext (finds path s) rfl⟩

/-- Reading a role from its node depends only on the texts. -/
lemma exec_readRole (filename : String) (role : PortRole) (s : σ) :
    ∃ s', (readRole filename role).exec h s = (some (readRoleOf files filename role), s') := by
  obtain ⟨s', read⟩ := finds.readFile filename s
  refine ⟨s', ?_⟩
  simp only [readRole, Prog.call, Prog.op_bind, Prog.ret_bind]
  rw [Prog.exec_op _ read, readRoleOf]
  cases files filename with
  | none => exact rfl
  | some text => simp only [Option.elim_some, Prog.pure_eq, Prog.exec_ret]

/-- Reading the accessory depends only on the texts. -/
lemma exec_getAccessoryConnected (portName : String) (s : σ) :
    ∃ s', (getAccessoryConnected portName).exec h s =
      (some ((files (accessoryNode portName)).map trim), s') := by
  obtain ⟨s', read⟩ := finds.readFile (accessoryNode portName) s
  refine ⟨s', ?_⟩
  simp only [getAccessoryConnected, Prog.call, Prog.op_bind, Prog.ret_bind]
  apply (Prog.exec_op _ read).trans
  cases files (accessoryNode portName) with
  | none => exact rfl
  | some accessory => simp only [Option.map_some, Prog.pure_eq, Prog.exec_ret]

/-- The role comes from the nodes alone. -/
lemma exec_getCurrentRoleHelper (portName : String) (connected : Bool) (role : PortRole) (s : σ) :
    ∃ s', (getCurrentRoleHelper portName connected role).exec h s =
      (some (roleOf files portName connected role.getTag), s') := by
  simp only [getCurrentRoleHelper, getTag_roleNode, roleOf]
  cases connected with
  | false => exact ⟨s, rfl⟩
  | true =>
    simp only [Bool.not_true, Bool.false_eq_true, if_false, Bool.true_eq_false]
    by_cases mode : role.getTag = .mode
    · rw [if_pos mode, if_pos mode]
      obtain ⟨s', accessory⟩ := exec_getAccessoryConnected finds portName s
      rw [Prog.exec_bind_of _ accessory]
      cases files (accessoryNode portName) with
      | none => exact ⟨s', rfl⟩
      | some accessory =>
        rw [Option.elim_some, Option.map_some]
        generalize trim accessory = text
        dsimp only
        split
        · exact ⟨s', rfl⟩
        · split
          · exact ⟨s', rfl⟩
          · exact exec_readRole finds _ _ s'
    · rw [if_neg mode, if_neg mode]
      exact exec_readRole finds _ _ s

end

/-! ## Which texts change the alternative -/

/-- The text is the name of a role of another kind than the one asked for. -/
def PortRole.Tag.Foreign : PortRole.Tag → String → Prop
  | .powerRole, text => text = "host" ∨ text = "device"
  | .dataRole, text => text = "source" ∨ text = "sink"
  | .mode, text => text = "source" ∨ text = "sink"

/-- The text of a power role changes the alternative exactly where it is foreign. -/
lemma tag_powerRole_iff {text : String} (h : text = "source" ∨ text = "sink")
    (r : PortPowerRole) (role : PortRole) :
    (PortRole.powerRole r).getTag = role.getTag ↔ ¬role.getTag.Foreign text := by
  rcases h with rfl | rfl <;> cases role <;> simp [PortRole.getTag, PortRole.Tag.Foreign]

/-- The text of a data role or mode changes the alternative exactly where it is foreign. -/
lemma tag_dataRole_iff {text : String} (h : text = "host" ∨ text = "device")
    (r : PortDataRole) (m : PortMode) (role : PortRole) :
    (if role.getTag = .dataRole then PortRole.dataRole r else .mode m).getTag = role.getTag ↔
      ¬role.getTag.Foreign text := by
  rcases h with rfl | rfl <;> cases role <;> simp [PortRole.getTag, PortRole.Tag.Foreign]

/-- A text that is taken for a role leaves the alternative alone unless it is foreign to it. -/
lemma tag_parseRole (text : String) (role : PortRole) :
    ((parseRole text role).1 = .success → (parseRole text role).2.getTag = role.getTag) ↔
      ¬role.getTag.Foreign text := by
  unfold parseRole
  split
  · rename_i source
    exact (forall_prop_of_true rfl).trans (tag_powerRole_iff (.inl source) _ role)
  · split
    · rename_i sink
      exact (forall_prop_of_true rfl).trans (tag_powerRole_iff (.inr sink) _ role)
    · split
      · rename_i host
        exact (forall_prop_of_true rfl).trans (tag_dataRole_iff (.inl host) _ _ role)
      · split
        · rename_i device
          exact (forall_prop_of_true rfl).trans (tag_dataRole_iff (.inr device) _ _ role)
        · rename_i source sink host device
          have own : ¬role.getTag.Foreign text := by
            cases role with
            | powerRole r => exact not_or.mpr ⟨host, device⟩
            | dataRole r => exact not_or.mpr ⟨source, sink⟩
            | mode m => exact not_or.mpr ⟨source, sink⟩
          split
          · exact iff_of_true (fun failed => Status.noConfusion failed) own
          · exact iff_of_true (fun _ => rfl) own

/-- The node of a role of the port is read and holds a text that is foreign to the role. -/
def Misread (files : String → Option String) (portName : String) (connected : Bool)
    (tag : PortRole.Tag) : Prop :=
  connected = true ∧
    (tag = .mode → ∃ accessory ∈ files (accessoryNode portName),
      trim accessory ≠ "analog_audio" ∧ trim accessory ≠ "debug") ∧
    ∃ text ∈ files (roleNode portName tag).1, tag.Foreign (extractRole (trim text))

instance (tag : PortRole.Tag) (text : String) : Decidable (tag.Foreign text) :=
  match tag with
  | .powerRole => instDecidableOr
  | .dataRole => instDecidableOr
  | .mode => instDecidableOr

instance (files : String → Option String) (portName : String) (connected : Bool)
    (tag : PortRole.Tag) : Decidable (Misread files portName connected tag) :=
  instDecidableAnd

/-- A role that is read keeps its alternative exactly when the text is not foreign. -/
lemma tag_readRoleOf (files : String → Option String) (portName : String) (tag : PortRole.Tag) :
    ((readRoleOf files (roleNode portName tag).1 (roleNode portName tag).2).1 = .success →
        (readRoleOf files (roleNode portName tag).1 (roleNode portName tag).2).2.getTag = tag) ↔
      ¬∃ text ∈ files (roleNode portName tag).1, tag.Foreign (extractRole (trim text)) := by
  rw [readRoleOf]
  cases files (roleNode portName tag).1 with
  | none =>
    refine iff_of_true (fun failed => Status.noConfusion failed) ?_
    rintro ⟨text, none, -⟩
    exact absurd none.symm (Option.some_ne_none text)
  | some text =>
    have parsed := tag_parseRole (extractRole (trim text)) (roleNode portName tag).2
    rw [getTag_roleNode] at parsed
    rw [Option.elim_some, parsed]
    simp only [Option.mem_some_iff, exists_eq_left']

/-- A role that is returned keeps the alternative unless it is misread. -/
lemma tag_roleOf (files : String → Option String) (portName : String) (connected : Bool)
    (tag : PortRole.Tag) :
    ((roleOf files portName connected tag).1 = .success →
        (roleOf files portName connected tag).2.getTag = tag) ↔
      ¬Misread files portName connected tag := by
  have read := tag_readRoleOf files portName tag
  unfold roleOf Misread
  cases connected with
  | false => exact iff_of_true (fun _ => getTag_roleNode portName tag) (by simp)
  | true =>
    simp only [Bool.true_eq_false, if_false, true_and]
    by_cases mode : tag = .mode
    · rw [if_pos mode]
      cases files (accessoryNode portName) with
      | none =>
        exact iff_of_true (fun failed => Status.noConfusion failed) (by simp [mode])
      | some accessory =>
        simp only [Option.elim_some, Option.mem_some_iff, exists_eq_left',
          forall_prop_of_true mode]
        split
        · rename_i audio
          exact iff_of_true (fun _ => mode.symm) fun h => h.1.1 audio
        · rename_i audio
          split
          · rename_i debug
            exact iff_of_true (fun _ => mode.symm) fun h => h.1.2 debug
          · rename_i debug
            rw [read, and_iff_right ⟨audio, debug⟩]
    · rw [if_neg mode, read, and_iff_right fun h => absurd h mode]

/-! ## The union accesses of a query -/

/-- An operation other than the abort of a bad union access. -/
def NoAbort (o : Op) : Prop := o ≠ .abort

/-- Reading the current role aborts nothing. -/
lemma noAbort_getCurrentRoleHelper (portName : String) (connected : Bool) (role : PortRole) :
    (getCurrentRoleHelper portName connected role).All NoAbort :=
  (keeps_getCurrentRoleHelper (fun _ => Op.noConfusion) portName connected role).all

/-- Changing a record aborts nothing. -/
lemma noAbort_modify (v : List PortStatus) (i : ℕ) (f : PortStatus → PortStatus) :
    (modify v i f).All NoAbort :=
  (keeps_modify Op.noConfusion rfl f).all

/-- Filling the flags aborts nothing. -/
lemma noAbort_fillFlags (i : ℕ) (port : String × Bool) (v : List PortStatus) :
    (fillFlags i port v).All NoAbort :=
  (keeps_fillFlags (fun _ => Op.noConfusion) Op.noConfusion Op.noConfusion rfl port).all

section

variable {σ : Type} {files : String → Option String} {h : Handler sig σ} (finds : Finds files h)
  {port : String × Bool}
include finds

/-- A role that is not misread is taken out of the union without an abort. -/
lemma noAbort_fillRole {α : Type} {initial : PortRole} {get : PortRole → Hal α}
    {set : α → PortStatus → PortStatus} (kept : ¬Misread files port.1 port.2 initial.getTag)
    (typed : ∀ role, role.getTag = initial.getTag → (get role).All NoAbort) (i : ℕ)
    (v : List PortStatus) (s : σ) :
    ∀ e ∈ (fillRole initial get set i port v).trace h s, NoAbort e.2 := by
  apply Prog.forall_trace_bind_of ((noAbort_getCurrentRoleHelper _ _ _).trace h s)
  intro r s' run
  obtain ⟨s'', returned⟩ := exec_getCurrentRoleHelper finds port.1 port.2 initial s
  obtain rfl := Option.some.inj (Prod.mk.inj (run.symm.trans returned)).1
  have tag := (tag_roleOf files port.1 port.2 initial.getTag).mpr kept
  generalize roleOf files port.1 port.2 initial.getTag = r at tag
  obtain ⟨status, role⟩ := r
  dsimp only at tag ⊢
  split
  · exact List.forall_mem_nil _
  · rename_i success
    have get := typed role (tag (not_not.mp success))
    exact (get.bind fun x => (noAbort_modify v i _).bind fun _ => Prog.all_ret _ _).trace h s'

/-- A port of which no role is misread is filled without an abort. -/
lemma noAbort_getPortStatus (kept : ∀ tag, ¬Misread files port.1 port.2 tag) (i : ℕ)
    (v : List PortStatus) (s : σ) :
    ∀ e ∈ (getPortStatus i port v).trace h s, NoAbort e.2 := by
  have power (v : List PortStatus) (s : σ) :
      ∀ e ∈ (fillPowerRole i port v).trace h s, NoAbort e.2 := by
    refine noAbort_fillRole finds (kept _) (fun role typed => ?_) i v s
    cases role with
    | powerRole r => exact trivial
    | dataRole r => exact PortRole.Tag.noConfusion typed
    | mode m => exact PortRole.Tag.noConfusion typed
  have data (v : List PortStatus) (s : σ) :
      ∀ e ∈ (fillDataRole i port v).trace h s, NoAbort e.2 := by
    refine noAbort_fillRole finds (kept _) (fun role typed => ?_) i v s
    cases role with
    | powerRole r => exact PortRole.Tag.noConfusion typed
    | dataRole r => exact trivial
    | mode m => exact PortRole.Tag.noConfusion typed
  have mode (v : List PortStatus) (s : σ) :
      ∀ e ∈ (fillMode i port v).trace h s, NoAbort e.2 := by
    refine noAbort_fillRole finds (kept _) (fun role typed => ?_) i v s
    cases role with
    | powerRole r => exact PortRole.Tag.noConfusion typed
    | dataRole r => exact PortRole.Tag.noConfusion typed
    | mode m => exact trivial
  refine Prog.forall_trace_bind_of ((noAbort_modify _ _ _).trace h s) fun v s _ => ?_
  refine Prog.forall_trace_bind_of (power v s) fun ⟨v, ok⟩ s _ => ?_
  cases ok with
  | false => exact List.forall_mem_nil _
  | true =>
    refine Prog.forall_trace_bind_of (data v s) fun ⟨v, ok⟩ s _ => ?_
    cases ok with
    | false => exact List.forall_mem_nil _
    | true =>
      refine Prog.forall_trace_bind_of (mode v s) fun ⟨v, ok⟩ s _ => ?_
      cases ok with
      | false => exact List.forall_mem_nil _
      | true => exact ((noAbort_fillFlags i port v).bind fun _ => Prog.all_ret _ _).trace h s

/-- The loop over the ports. -/
lemma noAbort_getPortStatuses {ports : List (String × Bool)}
    (kept : ∀ port ∈ ports, ∀ tag, ¬Misread files port.1 port.2 tag) (i : ℕ)
    (v : List PortStatus) (s : σ) :
    ∀ e ∈ (getPortStatuses ports i v).trace h s, NoAbort e.2 := by
  induction ports generalizing i v s with
  | nil => exact List.forall_mem_nil _
  | cons port ports ih =>
    obtain ⟨first, rest⟩ := List.forall_mem_cons.mp kept
    apply Prog.forall_trace_bind_of (noAbort_getPortStatus finds first i v s)
    rintro ⟨v, ok⟩ s -
    cases ok with
    | false => exact List.forall_mem_nil _
    | true => exact ih rest (i + 1) v s

omit finds in
/-- The names come from a listing. -/
lemma listed_of_names {names : List (String × Bool)} {s s' : σ}
    (run : getTypeCPortNamesHelper.exec h s = (some (some names), s')) :
    ∃ entries, (h (.listDir kTypecPath) s).1 = some (some entries) ∧ names = ports entries := by
  simp only [getTypeCPortNamesHelper, Prog.call, Prog.op_bind, Prog.ret_bind, Prog.exec] at run
  rcases list : h (.listDir kTypecPath) s with ⟨_ | listing, s₁⟩
  · rw [list] at run
    exact absurd (congrArg Prod.fst run).symm (Option.some_ne_none _)
  · rw [list] at run
    cases listing with
    | none =>
      have none := Option.some.inj (congrArg Prod.fst run)
      exact absurd none.symm (Option.some_ne_none _)
    | some entries =>
      have some := Option.some.inj (Option.some.inj (congrArg Prod.fst run))
      exact ⟨entries, rfl, some.symm⟩

/-- A query of ports none of which is misread does not abort. -/
lemma noAbort_getPortStatusHelper {s : σ}
    (kept : ∀ entries, (h (.listDir kTypecPath) s).1 = some (some entries) →
      ∀ port ∈ Redfin.Usb.ports entries, ∀ tag, ¬Misread files port.1 port.2 tag)
    (v : List PortStatus) : ∀ e ∈ (getPortStatusHelper v).trace h s, NoAbort e.2 := by
  have namesOk : getTypeCPortNamesHelper.All NoAbort := by
    refine ⟨Op.noConfusion, fun listing => ?_⟩
    cases listing with
    | none => exact trivial
    | some entries => exact trivial
  have orderOk (names : List (String × Bool)) : (call (.hashOrder names)).All NoAbort :=
    ⟨Op.noConfusion, fun _ => trivial⟩
  refine Prog.forall_trace_bind_of (namesOk.trace h s) fun names s₁ run => ?_
  cases names with
  | none => exact List.forall_mem_nil _
  | some names =>
    obtain ⟨entries, listed, rfl⟩ := listed_of_names run
    refine Prog.forall_trace_bind_of ((orderOk _).trace h s₁) fun order s₂ _ => ?_
    refine noAbort_getPortStatuses finds (fun port mem => ?_) 0 _ s₂
    exact kept entries listed port (order.2.mem_iff.mp mem)

end

/-- The alternative of the union is kept by a successful call for a role if and only if the role is
not misread; a query of ports of which none is misread reads no alternative the union does not
hold. -/
theorem roles_typed_iff {σ : Type} {h : Handler sig σ} {files : String → Option String}
    (finds : Finds files h) (s : σ) :
    (∀ portName connected role,
      (∀ result s', (getCurrentRoleHelper portName connected role).exec h s =
          (some (.success, result), s') → result.getTag = role.getTag) ↔
        ¬Misread files portName connected role.getTag) ∧
    ((∀ entries, (h (.listDir kTypecPath) s).1 = some (some entries) →
        ∀ port ∈ ports entries, ∀ tag, ¬Misread files port.1 port.2 tag) →
      ∀ v, ∀ e ∈ (getPortStatusHelper v).trace h s, e.2 ≠ .abort) := by
  refine ⟨fun portName connected role => ?_, noAbort_getPortStatusHelper finds⟩
  obtain ⟨s', returned⟩ := exec_getCurrentRoleHelper finds portName connected role s
  rw [← tag_roleOf, returned]
  constructor
  · intro kept success
    refine kept _ s' (congrArg (fun r => (some r, s')) ?_)
    exact Prod.ext success rfl
  · intro kept result s'' eq
    have same := Option.some.inj (Prod.mk.inj eq).1
    rw [same] at kept
    exact kept rfl

/-! ## Fixed contents -/

/-- What a query reads: the contents of the nodes, `mUsbDataEnabled` and whether there is a
callback. -/
structure Nodes where
  files : String → Option String
  usbDataEnabled : Bool := true
  callback : Bool := false

/-- The answers for a listing of the Type-C directory and an order of its ports. An access out of
bounds does not return. -/
def Nodes.answer (x : Nodes) (entries : List Dirent) (order : List (String × Bool)) :
    (o : Op) → Option o.Res
  | .readFile path => some (x.files path)
  | .hashOrder names => if h : order.Perm names then some ⟨order, h⟩ else none
  | .access i size => if i < size then some () else none
  | .readUsbDataEnabled => some x.usbDataEnabled
  | .readCallback => some x.callback
  | o => Redfin.Usb.answer (some entries) o

def Nodes.handle (x : Nodes) (entries : List Dirent) (order : List (String × Bool)) :
    Handler sig Unit :=
  fun o _ => (x.answer entries order o, ())

/-- The phone gives every node's text. -/
lemma Nodes.finds (x : Nodes) (entries : List Dirent) (order : List (String × Bool)) :
    Finds x.files (x.handle entries order) :=
  fun _ _ => rfl

/-- A port with a partner: it is a source and has the data role `role`. -/
def roleNodes (role : String) : Nodes where
  files path :=
    if path = "/sys/class/typec/port0/power_role" then some "[source] sink\n"
    else if path = "/sys/class/typec/port0/data_role" then some role
    else if path = "/sys/class/typec/port0-partner/accessory_mode" then some "none\n"
    else none

/-- The listing with the port and its partner. -/
def partnerEntries : List Dirent := [⟨"port0", true⟩, ⟨"port0-partner", true⟩]

end

open Libbase.Documented in
/-- A data role is read as one. -/
theorem roles_typed_host :
    Finds (roleNodes "[host] device\n").files
        ((roleNodes "[host] device\n").handle partnerEntries [("port0", true)]) ∧
      ∀ e ∈ (getPortStatusHelper []).trace
        ((roleNodes "[host] device\n").handle partnerEntries [("port0", true)]) (),
        e.2 ≠ .abort := by
  refine ⟨Nodes.finds _ _ _, (roles_typed_iff (Nodes.finds _ _ _) ()).2 ?_ []⟩
  intro entries listed
  obtain rfl := Option.some.inj (Option.some.inj listed)
  have found : ports partnerEntries = [("port0", true)] := by decide +kernel
  rw [found, List.forall_mem_singleton]
  intro tag
  cases tag with
  | powerRole => decide +kernel
  | dataRole => decide +kernel
  | mode => decide +kernel

open Libbase.Documented in
/-- A data role node that holds a power role gives a power role, and the process aborts. -/
theorem dataRole_as_powerRole :
    (getCurrentRoleHelper "port0" true (.dataRole .none)).exec
        ((roleNodes "source\n").handle partnerEntries [("port0", true)]) () =
      (some (.success, .powerRole .source), ()) ∧
    ((getPortStatusHelper []).trace
      ((roleNodes "source\n").handle partnerEntries [("port0", true)]) ()).any
        (fun e => decide (e.2 = .abort)) = true := by
  refine ⟨by decide +kernel, by decide +kernel⟩

end Redfin.Usb
