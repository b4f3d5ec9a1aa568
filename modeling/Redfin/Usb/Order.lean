import Redfin.Usb.Roles

/-!
# Which port a piece of status is attributed to

A query fills one record for each port from the nodes of that port, in the order in which the hash
map is iterated (`returns_getPortStatuses`). Then `queryMoistureDetectionStatus` and
`queryPowerTransferStatus` change the first record of the list, whichever port it is of
(`returns_finishQuery`). So with two ports or more the record of a port depends on the order, and
with one port it does not (`order_irrelevant_iff`).
-/

set_option linter.unusedSectionVars false

namespace Redfin.Usb

open Program

section

variable [Libbase]

/-! ## The record of a port -/

/-- Whether the node of the partner says that the roles of the port can be switched. -/
def Nodes.canSwitch (x : Nodes) (port : String × Bool) : Bool :=
  port.2 && (x.files ("/sys/class/typec/" ++ port.1 ++
    "-partner/supports_usb_power_delivery")).any fun supportsPD => trim supportsPD = "yes"

/-- What the end of a turn adds to a record. -/
def Nodes.flags (x : Nodes) (port : String × Bool) (p : PortStatus) : PortStatus :=
  { p with
    canChangeMode := true
    canChangeDataRole := x.canSwitch port
    canChangePowerRole := x.canSwitch port
    supportedModes := p.supportedModes ++ [.drp]
    usbDataStatus := p.usbDataStatus ++ [dataStatus x.usbDataEnabled]
    powerBrickStatus := .unknown }

/-- The record of a port as its nodes give it. -/
def Nodes.IsRecord (x : Nodes) (port : String × Bool) (p : PortStatus) : Prop :=
  ∃ power data mode,
    roleOf x.files port.1 port.2 .powerRole = (.success, .powerRole power) ∧
    roleOf x.files port.1 port.2 .dataRole = (.success, .dataRole data) ∧
    roleOf x.files port.1 port.2 .mode = (.success, .mode mode) ∧
    p = x.flags port { portName := port.1, currentPowerRole := power, currentDataRole := data,
                       currentMode := mode }

/-- A port has one record. -/
lemma Nodes.IsRecord.unique {x : Nodes} {port : String × Bool} {p q : PortStatus}
    (hp : x.IsRecord port p) (hq : x.IsRecord port q) : p = q := by
  obtain ⟨power, data, mode, hpower, hdata, hmode, rfl⟩ := hp
  obtain ⟨power', data', mode', hpower', hdata', hmode', rfl⟩ := hq
  obtain rfl : power = power' := by simpa using hpower.symm.trans hpower'
  obtain rfl : data = data' := by simpa using hdata.symm.trans hdata'
  obtain rfl : mode = mode' := by simpa using hmode.symm.trans hmode'
  exact rfl

/-- The record of a port has its name. -/
lemma Nodes.IsRecord.portName {x : Nodes} {port : String × Bool} {p : PortStatus}
    (hp : x.IsRecord port p) : p.portName = port.1 := by
  obtain ⟨_, _, _, -, -, -, rfl⟩ := hp
  exact rfl

/-! ## The loop over the ports -/

/-- The record at the end of the first part is the one that is changed. -/
lemma modify_middle (pre post : List PortStatus) (p : PortStatus) (f : PortStatus → PortStatus) :
    (pre ++ p :: post).modify pre.length f = pre ++ f p :: post := by
  induction pre with
  | nil => exact rfl
  | cons q pre ih => exact congrArg (q :: ·) ih

section

variable {x : Nodes} {entries : List Dirent} {order : List (String × Bool)} {α β : Type}

/-- The program returns the value. -/
def Returns (x : Nodes) (entries : List Dirent) (order : List (String × Bool)) (p : Hal α)
    (a : α) : Prop :=
  p.exec (x.handle entries order) () = (some a, ())

/-- A composed program returns what its parts return, one after the other. -/
lemma returns_bind {p : Hal α} {k : α → Hal β} {b : β} :
    Returns x entries order (p >>= k) b ↔
      ∃ a, Returns x entries order p a ∧ Returns x entries order (k a) b := by
  rw [Returns, Prog.exec_bind_eq_some_iff]
  exact ⟨fun ⟨a, _, h⟩ => ⟨a, h⟩, fun ⟨a, h⟩ => ⟨a, (), h⟩⟩

/-- What a pure program returns. -/
lemma returns_ret {a b : α} : Returns x entries order (pure a) b ↔ a = b := by
  simp [Returns]

/-- A program returns one value. -/
lemma returns_of {p : Hal α} {a b : α} (h : Returns x entries order p a) :
    Returns x entries order p b ↔ a = b :=
  ⟨fun h' => by simpa using h.symm.trans h', fun e => e ▸ h⟩

/-- A part that returns is followed by the rest. -/
lemma returns_bind_of {p : Hal α} {k : α → Hal β} {a : α} {b : β}
    (h : Returns x entries order p a) :
    Returns x entries order (p >>= k) b ↔ Returns x entries order (k a) b := by
  rw [returns_bind]
  constructor
  · rintro ⟨a', h', hk⟩
    exact (returns_of h).mp h' ▸ hk
  · exact fun hk => ⟨a, h, hk⟩

/-- Reading a node returns what it holds. -/
lemma returns_readFile (path : String) :
    Returns x entries order (call (.readFile path)) (x.files path) := rfl

variable {pre post : List PortStatus} {p : PortStatus}

/-- The record at the end of the first part can be accessed. -/
lemma returns_access :
    Returns x entries order (access (pre ++ p :: post) pre.length) () := by
  have inside : pre.length < (pre ++ p :: post).length := by
    rw [List.length_append, List.length_cons]
    omega
  have answered : x.handle entries order (.access pre.length (pre ++ p :: post).length) () =
      (some (), ()) := by
    rw [Nodes.handle, Nodes.answer, if_pos inside]
  exact Prog.exec_op _ answered

/-- The record at the end of the first part can be changed. -/
lemma returns_modify (f : PortStatus → PortStatus) :
    Returns x entries order (modify (pre ++ p :: post) pre.length f) (pre ++ f p :: post) := by
  rw [modify, returns_bind_of returns_access, returns_ret, modify_middle]

/-- Whether a port can switch is read from its nodes. -/
lemma returns_canSwitch (port : String × Bool) :
    Returns x entries order (canSwitch port) (x.canSwitch port) := by
  obtain ⟨portName, connected⟩ := port
  cases connected with
  | false => exact rfl
  | true =>
    show Returns x entries order (canSwitchRoleHelper portName) _
    rw [canSwitchRoleHelper, returns_bind_of (returns_readFile _), Nodes.canSwitch, Bool.true_and]
    cases x.files ("/sys/class/typec/" ++ portName ++ "-partner/supports_usb_power_delivery") with
    | none => exact rfl
    | some supportsPD => exact returns_ret.mpr (Option.any_some ..).symm

/-- The current role is read from the nodes. -/
lemma returns_getCurrentRoleHelper (portName : String) (connected : Bool) (role : PortRole) :
    Returns x entries order (getCurrentRoleHelper portName connected role)
      (roleOf x.files portName connected role.getTag) := by
  obtain ⟨_, returned⟩ :=
    exec_getCurrentRoleHelper (x.finds entries order) portName connected role ()
  exact returned

/-- An aborted process returns nothing. -/
lemma not_returns_abort (a : α) : ¬Returns x entries order abort a := by
  intro returned
  have none : (abort : Hal α).exec (x.handle entries order) () = (Option.none, ()) := rfl
  exact absurd (congrArg Prod.fst (none.symm.trans returned)).symm (Option.some_ne_none a)

/-- A role is filled in if its node gives one of its kind. -/
lemma returns_fillRole {initial : PortRole} {get : PortRole → Hal α} {inject : α → PortRole}
    (typed : ∀ role a, Returns x entries order (get role) a ↔ role = inject a)
    (set : α → PortStatus → PortStatus) (port : String × Bool) (w : List PortStatus) :
    Returns x entries order (fillRole initial get set pre.length port (pre ++ p :: post))
        (w, true) ↔
      ∃ a, roleOf x.files port.1 port.2 initial.getTag = (.success, inject a) ∧
        w = pre ++ set a p :: post := by
  rw [fillRole, returns_bind_of (returns_getCurrentRoleHelper port.1 port.2 initial)]
  generalize roleOf x.files port.1 port.2 initial.getTag = r
  obtain ⟨status, role⟩ := r
  dsimp only
  by_cases success : status = .success
  · rw [if_neg (not_not.mpr success), returns_bind]
    constructor
    · rintro ⟨a, got, rest⟩
      rw [returns_bind_of (returns_modify _), returns_ret] at rest
      exact ⟨a, Prod.ext success ((typed role a).mp got), (Prod.mk.inj rest).1.symm⟩
    · rintro ⟨a, same, rfl⟩
      refine ⟨a, (typed role a).mpr (Prod.mk.inj same).2, ?_⟩
      rw [returns_bind_of (returns_modify _), returns_ret]
  · rw [if_pos success, returns_ret]
    refine iff_of_false (fun same => Bool.noConfusion (Prod.mk.inj same).2) ?_
    rintro ⟨a, same, -⟩
    exact success (Prod.mk.inj same).1

/-- The power role is returned if that is the alternative. -/
lemma returns_getPowerRole (role : PortRole) (a : PortPowerRole) :
    Returns x entries order role.getPowerRole a ↔ role = .powerRole a := by
  cases role with
  | powerRole r => exact returns_ret.trans (by simp)
  | dataRole r => exact iff_of_false (not_returns_abort a) (by simp)
  | mode m => exact iff_of_false (not_returns_abort a) (by simp)

/-- The data role is returned if that is the alternative. -/
lemma returns_getDataRole (role : PortRole) (a : PortDataRole) :
    Returns x entries order role.getDataRole a ↔ role = .dataRole a := by
  cases role with
  | powerRole r => exact iff_of_false (not_returns_abort a) (by simp)
  | dataRole r => exact returns_ret.trans (by simp)
  | mode m => exact iff_of_false (not_returns_abort a) (by simp)

/-- The mode is returned if that is the alternative. -/
lemma returns_getMode (role : PortRole) (a : PortMode) :
    Returns x entries order role.getMode a ↔ role = .mode a := by
  cases role with
  | powerRole r => exact iff_of_false (not_returns_abort a) (by simp)
  | dataRole r => exact iff_of_false (not_returns_abort a) (by simp)
  | mode m => exact returns_ret.trans (by simp)

/-- The flags of the record are filled from the nodes. -/
lemma returns_fillFlags (port : String × Bool) :
    Returns x entries order (fillFlags pre.length port (pre ++ p :: post))
      (pre ++ x.flags port p :: post) := by
  have enabled : Returns x entries order (call .readUsbDataEnabled) x.usbDataEnabled := rfl
  simp only [fillFlags]
  rw [returns_bind_of (returns_modify _), returns_bind_of (returns_canSwitch port),
    returns_bind_of (returns_modify _), returns_bind_of (returns_canSwitch port),
    returns_bind_of (returns_modify _), returns_bind_of (returns_modify _),
    returns_bind_of enabled, returns_bind_of (returns_modify _),
    returns_bind_of (returns_modify _), returns_bind_of returns_access,
    returns_bind_of returns_access, returns_bind_of returns_access, returns_ret]
  exact rfl

/-- A part of a turn that may end the loop, and the rest of the turn. -/
def goOn (f : Hal (List PortStatus × Bool)) (k : List PortStatus → Hal (List PortStatus × Bool)) :
    Hal (List PortStatus × Bool) :=
  f >>= fun r => if !r.2 then pure (r.1, false) else k r.1

/-- The turn goes on only after a part that succeeds. -/
lemma returns_goOn {f : Hal (List PortStatus × Bool)}
    {k : List PortStatus → Hal (List PortStatus × Bool)} {w : List PortStatus} :
    Returns x entries order (goOn f k) (w, true) ↔
      ∃ v, Returns x entries order f (v, true) ∧ Returns x entries order (k v) (w, true) := by
  rw [goOn, returns_bind]
  constructor
  · rintro ⟨⟨v, ok⟩, first, second⟩
    cases ok with
    | false => exact Bool.noConfusion (Prod.mk.inj (returns_ret.mp second)).2
    | true => exact ⟨v, first, second⟩
  · rintro ⟨v, first, second⟩
    exact ⟨(v, true), first, second⟩

/-- One turn of the loop puts the record of its port into the list, or the loop ends. -/
lemma returns_getPortStatus (port : String × Bool) (w : List PortStatus) :
    Returns x entries order (getPortStatus pre.length port (pre ++ ({} : PortStatus) :: post))
        (w, true) ↔
      ∃ p, x.IsRecord port p ∧ w = pre ++ p :: post := by
  have turn : getPortStatus pre.length port (pre ++ ({} : PortStatus) :: post) =
      modify (pre ++ ({} : PortStatus) :: post) pre.length
        (fun p => { p with portName := port.1 }) >>= fun v =>
      goOn (fillPowerRole pre.length port v) fun v =>
      goOn (fillDataRole pre.length port v) fun v =>
      goOn (fillMode pre.length port v) fun v =>
      fillFlags pre.length port v >>= fun v => pure (v, true) := rfl
  rw [turn, returns_bind_of (returns_modify _)]
  simp only [returns_goOn, fillPowerRole, fillDataRole, fillMode]
  constructor
  · rintro ⟨v, first, rest⟩
    obtain ⟨power, hpower, rfl⟩ := (returns_fillRole returns_getPowerRole _ port v).mp first
    obtain ⟨v, second, rest⟩ := rest
    obtain ⟨data, hdata, rfl⟩ := (returns_fillRole returns_getDataRole _ port v).mp second
    obtain ⟨v, third, rest⟩ := rest
    obtain ⟨mode, hmode, rfl⟩ := (returns_fillRole returns_getMode _ port v).mp third
    rw [returns_bind_of (returns_fillFlags port), returns_ret] at rest
    exact ⟨_, ⟨power, data, mode, hpower, hdata, hmode, rfl⟩, (Prod.mk.inj rest).1.symm⟩
  · rintro ⟨p, ⟨power, data, mode, hpower, hdata, hmode, rfl⟩, rfl⟩
    refine ⟨_, (returns_fillRole returns_getPowerRole _ port _).mpr ⟨power, hpower, rfl⟩, ?_⟩
    refine ⟨_, (returns_fillRole returns_getDataRole _ port _).mpr ⟨data, hdata, rfl⟩, ?_⟩
    refine ⟨_, (returns_fillRole returns_getMode _ port _).mpr ⟨mode, hmode, rfl⟩, ?_⟩
    rw [returns_bind_of (returns_fillFlags port), returns_ret]

/-- The loop of `getPortStatusHelper` succeeds if every port has a record, and returns the records
in the order of the ports. -/
lemma returns_getPortStatuses (ports : List (String × Bool)) (w : List PortStatus) :
    Returns x entries order
        (getPortStatuses ports pre.length
          (pre ++ List.replicate ports.length ({} : PortStatus)))
        (.success, w) ↔
      ∃ records, List.Forall₂ x.IsRecord ports records ∧ w = pre ++ records := by
  induction ports generalizing pre with
  | nil =>
    have none : Returns x entries order (getPortStatuses [] pre.length (pre ++ []))
        (.success, w) ↔ (Status.success, pre ++ []) = (.success, w) := returns_ret
    rw [List.length_nil, List.replicate_zero, none]
    simp only [List.forall₂_nil_left_iff, exists_eq_left, Prod.mk.injEq, true_and, eq_comm]
  | cons port ports ih =>
    have turn : getPortStatuses (port :: ports) pre.length
        (pre ++ List.replicate (port :: ports).length ({} : PortStatus)) =
        getPortStatus pre.length port
          (pre ++ ({} : PortStatus) :: List.replicate ports.length ({} : PortStatus)) >>=
          fun r => if !r.2 then pure (.error, r.1)
            else getPortStatuses ports (pre.length + 1) r.1 := rfl
    have next (p : PortStatus) : getPortStatuses ports (pre.length + 1)
        (pre ++ p :: List.replicate ports.length ({} : PortStatus)) =
        getPortStatuses ports (pre ++ [p]).length
          ((pre ++ [p]) ++ List.replicate ports.length ({} : PortStatus)) := by
      rw [List.length_append, List.length_singleton, List.append_assoc, List.singleton_append]
    rw [turn, returns_bind]
    constructor
    · rintro ⟨⟨v, ok⟩, first, rest⟩
      cases ok with
      | false => exact Status.noConfusion (Prod.mk.inj (returns_ret.mp rest)).1
      | true =>
        obtain ⟨p, record, rfl⟩ := (returns_getPortStatus port v).mp first
        have rest : Returns x entries order (getPortStatuses ports (pre.length + 1) _)
          (.success, w) := rest
        rw [next] at rest
        obtain ⟨records, all, rfl⟩ := ih.mp rest
        exact ⟨p :: records, .cons record all, List.append_assoc _ _ _⟩
    · rintro ⟨_, all, rfl⟩
      cases all with
      | @cons _ p _ records record all =>
        refine ⟨(_, true), (returns_getPortStatus port _).mpr ⟨p, record, rfl⟩, ?_⟩
        show Returns x entries order (getPortStatuses ports (pre.length + 1) _) _
        rw [next]
        exact ih.mpr ⟨records, all, (List.append_assoc pre [p] records).symm⟩

/-- `getPortStatusHelper` succeeds if every port has a record. -/
lemma returns_getPortStatusHelper (records : List PortStatus) :
    Returns x entries order (getPortStatusHelper []) (.success, records) ↔
      order.Perm (ports entries) ∧ List.Forall₂ x.IsRecord order records := by
  have listed : Returns x entries order getTypeCPortNamesHelper (some (ports entries)) := rfl
  rw [getPortStatusHelper, returns_bind_of listed]
  dsimp only
  by_cases perm : order.Perm (ports entries)
  · have hashed : Returns x entries order (call (.hashOrder (ports entries))) ⟨order, perm⟩ := by
      apply Prog.exec_op (Prog.ret ·)
      rw [Nodes.handle, Nodes.answer, dif_pos perm]
    have fresh : resize [] (ports entries).length =
        [] ++ List.replicate order.length ({} : PortStatus) := by
      rw [perm.length_eq, resize, List.take_nil]
      exact rfl
    rw [returns_bind_of hashed, fresh, and_iff_right perm]
    have loop := @returns_getPortStatuses _ x entries order [] order records
    simp only [List.nil_append, exists_eq_right'] at loop
    exact loop
  · have stuck : x.handle entries order (.hashOrder (ports entries)) () = (none, ()) := by
      rw [Nodes.handle, Nodes.answer, dif_neg perm]
    refine iff_of_false (fun returned => ?_) fun h => perm h.1
    rw [returns_bind] at returned
    obtain ⟨o, hashed, -⟩ := returned
    have none : (call (.hashOrder (ports entries))).exec (x.handle entries order) () =
        (Option.none, ()) := by
      simp only [call, Prog.call, Prog.exec, stuck]
    exact absurd (congrArg Prod.fst (none.symm.trans hashed)).symm (Option.some_ne_none o)

end

/-! ## What follows the loop -/

/-- What `queryMoistureDetectionStatus` makes of the first record. -/
def Nodes.moisture (x : Nodes) (p : PortStatus) : PortStatus :=
  let p := { p with
    supportedContaminantProtectionModes :=
      p.supportedContaminantProtectionModes ++ [.forceDisable]
    contaminantProtectionStatus := .none
    contaminantDetectionStatus := .disabled
    supportsEnableContaminantPresenceDetection := true
    supportsEnableContaminantPresenceProtection := false }
  (x.files kEnabledPath).elim p fun enabled =>
    if trim enabled = "1" then
      (x.files kDetectedPath).elim p fun status =>
        if trim status = "1" then
          { p with
            contaminantDetectionStatus := .detected
            contaminantProtectionStatus := .forceDisable }
        else { p with contaminantDetectionStatus := .notDetected }
    else p

/-- What `queryPowerTransferStatus` makes of it. -/
def Nodes.powerTransfer (x : Nodes) (p : PortStatus) : PortStatus :=
  (x.files sinkLimitEnablePath).elim p fun enabled =>
    { p with powerTransferLimited := trim enabled = "1" }

section

variable {x : Nodes} {entries : List Dirent} {order : List (String × Bool)} {p : PortStatus}
  {post : List PortStatus}

/-- The first record can be accessed. -/
lemma returns_access_head : Returns x entries order (access (p :: post) 0) () :=
  @returns_access _ x entries order [] post p

/-- The first record can be changed. -/
lemma returns_modify_head (f : PortStatus → PortStatus) :
    Returns x entries order (modify (p :: post) 0 f) (f p :: post) :=
  @returns_modify _ x entries order [] post p f

/-- Logging the moisture changes no record. -/
lemma returns_logMoisture :
    Returns x entries order (logMoisture (p :: post)) (.success, p :: post) := by
  rw [logMoisture, returns_bind_of returns_access_head, returns_bind_of returns_access_head,
    returns_ret]

/-- The moisture is noted in the first record. -/
lemma returns_queryMoistureDetectionStatus :
    ∃ status, Returns x entries order (queryMoistureDetectionStatus (p :: post))
      (status, x.moisture p :: post) := by
  rw [queryMoistureDetectionStatus]
  simp only [returns_bind_of (returns_modify_head _), returns_bind_of (returns_readFile _),
    Nodes.moisture]
  cases x.files kEnabledPath with
  | none => exact ⟨_, returns_ret.mpr rfl⟩
  | some enabled =>
    dsimp only
    rw [Option.elim_some]
    generalize trim enabled = enabled
    split
    · simp only [queryMoistureDetected, returns_bind_of (returns_readFile _)]
      cases x.files kDetectedPath with
      | none => exact ⟨_, returns_ret.mpr rfl⟩
      | some status =>
        dsimp only
        rw [Option.elim_some]
        generalize trim status = status
        split
        · simp only [returns_bind_of (returns_modify_head _)]
          exact ⟨_, returns_logMoisture⟩
        · simp only [returns_bind_of (returns_modify_head _)]
          exact ⟨_, returns_logMoisture⟩
    · exact ⟨_, returns_logMoisture⟩

/-- The power transfer is noted in the first record. -/
lemma returns_queryPowerTransferStatus :
    ∃ status, Returns x entries order (queryPowerTransferStatus (p :: post))
      (status, x.powerTransfer p :: post) := by
  rw [queryPowerTransferStatus]
  simp only [returns_bind_of (returns_readFile _), Nodes.powerTransfer]
  cases x.files sinkLimitEnablePath with
  | none => exact ⟨_, returns_ret.mpr rfl⟩
  | some enabled =>
    dsimp only
    rw [Option.elim_some]
    generalize trim enabled = enabled
    simp only [returns_bind_of (returns_modify_head _), returns_bind_of returns_access_head]
    exact ⟨_, returns_ret.mpr rfl⟩

/-- Only the first record is changed after the loop. -/
lemma returns_finishQuery (status : Status) :
    Returns x entries order (finishQuery status (p :: post))
      (x.powerTransfer (x.moisture p) :: post) := by
  obtain ⟨_, moisture⟩ := @returns_queryMoistureDetectionStatus _ x entries order p post
  obtain ⟨_, power⟩ := @returns_queryPowerTransferStatus _ x entries order (x.moisture p) post
  have isSet : Returns x entries order (call .readCallback) x.callback := rfl
  have unlock : Returns x entries order (call (.unlock .mLock)) () := rfl
  have notify (n : Notification) : Returns x entries order (call (.notify n)) () := rfl
  rw [finishQuery, returns_bind_of moisture]
  dsimp only
  rw [returns_bind_of power]
  dsimp only
  rw [returns_bind_of isSet]
  cases x.callback with
  | false => exact rfl
  | true => exact rfl

/-- What a query whose loop succeeds returns; with no port it is undefined. -/
def Nodes.finished (x : Nodes) : List PortStatus → Option (List PortStatus)
  | [] => none
  | p :: rest => some (x.powerTransfer (x.moisture p) :: rest)

/-- The query sends the records that the loop has filled. -/
lemma exec_queryVersionHelper {records : List PortStatus}
    (h : Returns x entries order (getPortStatusHelper []) (.success, records)) :
    ((queryVersionHelper []).exec (x.handle entries order) ()).1 = x.finished records := by
  have locked : (queryVersionHelper []).exec (x.handle entries order) () =
      (getPortStatusHelper [] >>= fun r => finishQuery r.1 r.2).exec (x.handle entries order) () :=
    rfl
  rw [locked, Prog.exec_bind_of _ h]
  cases records with
  | nil => exact rfl
  | cons p rest => exact congrArg Prod.fst (returns_finishQuery .success)

end

/-- The record that a query reports for a port; none if the query is undefined. -/
def statusOf (x : Nodes) (entries : List Dirent) (order : List (String × Bool)) (name : String) :
    Option (Option PortStatus) :=
  ((queryVersionHelper []).exec (x.handle entries order) ()).1.map
    (·.find? fun p => p.portName = name)

/-- The first record keeps its name and gets a protection mode that no other has. -/
lemma changed_first (x : Nodes) (p : PortStatus) :
    (x.powerTransfer (x.moisture p)).portName = p.portName ∧
      (x.powerTransfer (x.moisture p)).supportedContaminantProtectionModes =
        p.supportedContaminantProtectionModes ++ [.forceDisable] := by
  have power (p : PortStatus) : (x.powerTransfer p).portName = p.portName ∧
      (x.powerTransfer p).supportedContaminantProtectionModes =
        p.supportedContaminantProtectionModes := by
    rw [Nodes.powerTransfer]
    cases x.files sinkLimitEnablePath with
    | none => exact ⟨rfl, rfl⟩
    | some enabled =>
      rw [Option.elim_some]
      exact ⟨rfl, rfl⟩
  rw [(power _).1, (power _).2, Nodes.moisture]
  cases x.files kEnabledPath with
  | none => exact ⟨rfl, rfl⟩
  | some enabled =>
    rw [Option.elim_some]
    split
    · cases x.files kDetectedPath with
      | none => exact ⟨rfl, rfl⟩
      | some status =>
        rw [Option.elim_some]
        split <;> exact ⟨rfl, rfl⟩
    · exact ⟨rfl, rfl⟩

section

variable {x : Nodes} {entries entries' : List Dirent} {order order' : List (String × Bool)}

/-- What is sent of a port is its record, wherever it stands in the vector. -/
lemma statusOf_eq {records : List PortStatus} (perm : order.Perm (ports entries))
    (all : List.Forall₂ x.IsRecord order records) (name : String) :
    statusOf x entries order name =
      (x.finished records).map (·.find? fun p => p.portName = name) := by
  rw [statusOf, exec_queryVersionHelper ((returns_getPortStatusHelper records).mpr ⟨perm, all⟩)]

/-- With two ports the first of them has another record if it comes second. -/
lemma statusOf_swap {a b : String × Bool} {rest : List (String × Bool)}
    (perm : (a :: b :: rest).Perm (ports entries)) {records : List PortStatus}
    (all : List.Forall₂ x.IsRecord (a :: b :: rest) records) :
    statusOf x entries (b :: a :: rest) a.1 ≠ statusOf x entries (a :: b :: rest) a.1 := by
  have distinct : ((a :: b :: rest).map (·.1)).Nodup :=
    (perm.map (·.1)).nodup_iff.mpr (nodup_ports entries)
  have other : b.1 ≠ a.1 := by
    intro same
    apply (List.nodup_cons.mp distinct).1
    exact List.mem_map.mpr ⟨b, List.mem_cons_self, same⟩
  cases all with
  | @cons _ p _ _ hp all =>
    cases all with
    | @cons _ q _ ps hq all =>
      rw [statusOf_eq perm (.cons hp (.cons hq all)),
        statusOf_eq ((List.Perm.swap a b rest).trans perm) (.cons hq (.cons hp all))]
      intro same
      simp only [Nodes.finished, Option.map_some, Option.some.injEq, List.find?_cons,
        (changed_first x _).1, hp.portName, hq.portName, decide_true, decide_eq_false other]
        at same
      have modes := (congrArg PortStatus.supportedContaminantProtectionModes same).trans
        (changed_first x p).2
      exact absurd (congrArg List.length modes) (by simp)

end

/-- If the ports can be queried, the records are the same, as a map from port names, for every order
of the directory and of the hash map exactly if there is at most one port. -/
theorem order_irrelevant_iff {x : Nodes} {entries : List Dirent} {order : List (String × Bool)}
    {records : List PortStatus}
    (success : (getPortStatusHelper []).exec (x.handle entries order) () =
      (some (.success, records), ())) :
    (∀ entries' order', entries'.Perm entries → order'.Perm (ports entries') →
        ∀ name, statusOf x entries' order' name = statusOf x entries order name) ↔
      (ports entries).length ≤ 1 := by
  obtain ⟨perm, all⟩ := (returns_getPortStatusHelper records).mp success
  rw [← perm.length_eq]
  constructor
  · intro same
    cases order with
    | nil => exact Nat.zero_le 1
    | cons a order =>
      cases order with
      | nil => exact le_rfl
      | cons b rest =>
        have swapped := (List.Perm.swap a b rest).trans perm
        exact absurd (same entries _ (.refl entries) swapped a.1) (statusOf_swap perm all)
  · intro one entries' order' perm' ordered name
    have same : order'.Perm order := ordered.trans ((perm_ports perm').trans perm.symm)
    obtain rfl : order' = order := by
      cases order with
      | nil => exact same.eq_nil
      | cons a order =>
        cases order with
        | nil => exact List.perm_singleton.mp same
        | cons b rest => simp at one
    rw [statusOf_eq perm all, statusOf_eq ordered all]

/-- Nothing can be read but the directory. -/
def noNodes : Nodes where
  files _ := none

/-- The record of a port that is not connected. -/
def idleRecord (portName : String) : PortStatus where
  portName := portName
  canChangeMode := true
  supportedModes := [.drp]
  usbDataStatus := [.enabled]

end

open Libbase.Documented in
/-- With one port the order does not matter. -/
theorem order_irrelevant_one_port :
    (∀ entries' order', entries'.Perm [⟨"port0", true⟩] → order'.Perm (ports entries') →
        ∀ name, statusOf noNodes entries' order' name =
          statusOf noNodes [⟨"port0", true⟩] [("port0", false)] name) ↔
      (ports [⟨"port0", true⟩]).length ≤ 1 := by
  have success : (getPortStatusHelper []).exec
      (noNodes.handle [⟨"port0", true⟩] [("port0", false)]) () =
      (some (.success, [idleRecord "port0"]), ()) := by
    decide +kernel
  exact order_irrelevant_iff success

/-- Two ports. -/
def twoPorts : List Dirent := [⟨"port0", true⟩, ⟨"port1", true⟩]

open Libbase.Documented in
/-- With two ports the one that comes first is reported to support a protection mode. -/
theorem order_matters :
    (getPortStatusHelper []).exec
        (noNodes.handle twoPorts [("port0", false), ("port1", false)]) () =
      (some (.success, [idleRecord "port0", idleRecord "port1"]), ()) ∧
    ((statusOf noNodes twoPorts [("port0", false), ("port1", false)] "port0").map fun p =>
      p.map (·.supportedContaminantProtectionModes)) = some (some [.forceDisable]) ∧
    ((statusOf noNodes twoPorts [("port1", false), ("port0", false)] "port0").map fun p =>
      p.map (·.supportedContaminantProtectionModes)) = some (some []) := by
  refine ⟨by decide +kernel, by decide +kernel, by decide +kernel⟩

end Redfin.Usb
