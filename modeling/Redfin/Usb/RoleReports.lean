import Redfin.Usb.Hal
import Redfin.Usb.Order

/-!
# What is told of a role switch and what is reported after it

`switchRole` compares the text of the role node with the one it has put there; a query takes the
text for a role. For a data or power role the two agree (`parseRole_iff`), and a query attributes
each role to its port: as long as the nodes stay as they are, the framework is told that a switch
has succeeded exactly if the next query reports the role that was asked for (`switch_reported`).
-/

set_option linter.unusedSectionVars false

namespace Redfin.Usb

open Program

section

variable [Libbase]

/-- The record shows the role. -/
def PortStatus.Shows (p : PortStatus) : PortRole → Prop
  | .powerRole role => p.currentPowerRole = role
  | .dataRole role => p.currentDataRole = role
  | .mode mode => p.currentMode = mode

instance (p : PortStatus) : (role : PortRole) → Decidable (p.Shows role)
  | .powerRole role => inferInstanceAs (Decidable (p.currentPowerRole = role))
  | .dataRole role => inferInstanceAs (Decidable (p.currentDataRole = role))
  | .mode mode => inferInstanceAs (Decidable (p.currentMode = mode))

/-- What the framework is told. -/
def Op.notification? : Op → Option Notification
  | .notify n => some n
  | _ => none

/-- The nodes as they are after a role node has been opened and written, or not. -/
def Nodes.switching (x : Nodes) (entries : List Dirent) (order : List (String × Bool))
    (opened put : Bool) : Handler sig Unit
  | .fopen _, _ => (some opened, ())
  | .fputs _ _, _ => (some put, ())
  | o, _ => x.handle entries order o ()

/-! ## The two readings of a role node -/

/-- The text is that of a role exactly if it is taken for the role. -/
lemma parseRole_iff {portName text : String} {role reported : PortRole}
    (hm : role.getTag ≠ .mode) (same : reported.getTag = role.getTag)
    (parsed : parseRole text (roleNode portName role.getTag).2 = (.success, reported)) :
    text = convertRoletoString role ↔ reported = role := by
  have texts : text = "source" ∨ text = "sink" ∨ text = "host" ∨ text = "device" ∨
      text = "none" := by
    by_contra other
    simp only [not_or] at other
    obtain ⟨source, sink, host, device, none⟩ := other
    rw [parseRole, if_neg source, if_neg sink, if_neg host, if_neg device, if_pos none] at parsed
    cases parsed
  obtain rfl := congrArg Prod.snd parsed
  cases role with
  | powerRole r =>
    rw [show (roleNode portName (PortRole.powerRole r).getTag).2 = .powerRole .none from rfl] at *
    revert same
    rcases texts with rfl | rfl | rfl | rfl | rfl <;> cases r <;> decide
  | dataRole r =>
    rw [show (roleNode portName (PortRole.dataRole r).getTag).2 = .dataRole .none from rfl] at *
    revert same
    rcases texts with rfl | rfl | rfl | rfl | rfl <;> cases r <;> decide
  | mode m => exact absurd rfl hm

/-- The role nodes that are written are those that are read. -/
lemma appendRoleNodeHelper_eq {portName : String} {tag : PortRole.Tag} (hm : tag ≠ .mode) :
    appendRoleNodeHelper portName tag = (roleNode portName tag).1 := by
  cases tag with
  | powerRole => exact rfl
  | dataRole => exact rfl
  | mode => exact absurd rfl hm

/-- The node of a role that is reported can be read, and holds the text of that role only. -/
lemma text_of_roleOf {files : String → Option String} {portName : String} {role reported : PortRole}
    (hm : role.getTag ≠ .mode) (same : reported.getTag = role.getTag)
    (h : roleOf files portName true role.getTag = (.success, reported)) :
    ∃ text, files (appendRoleNodeHelper portName role.getTag) = some text ∧
      (extractRole (trim text) = convertRoletoString role ↔ reported = role) := by
  rw [roleOf, if_neg Bool.noConfusion, if_neg hm, readRoleOf] at h
  rw [appendRoleNodeHelper_eq hm]
  cases read : files (roleNode portName role.getTag).1 with
  | none =>
    rw [read] at h
    cases h
  | some text =>
    rw [read, Option.elim_some] at h
    exact ⟨text, rfl, parseRole_iff hm same h⟩

/-! ## What is told of a switch -/

section

variable {x : Nodes} {entries : List Dirent} {order : List (String × Bool)}

/-- A role is found to be switched if it could be put and its text is there. -/
lemma exec_writeRole {portName text : String} {role : PortRole} (opened put : Bool)
    (read : x.files (appendRoleNodeHelper portName role.getTag) = some text) :
    (writeRole portName role).exec (x.switching entries order opened put) () =
      (some (opened && put && decide (extractRole (trim text) = convertRoletoString role)), ()) :=
  by
  cases opened with
  | false => exact rfl
  | true =>
    cases put with
    | false => exact rfl
    | true =>
      simp [writeRole, Prog.call, Prog.exec, Nodes.switching, Nodes.handle, Nodes.answer, answer,
        read]

/-- What a switch of a power or data role tells, from what the write and the read-back give. -/
lemma outputs_switchRole {portName text : String} {role : PortRole} (opened put : Bool) (id : ℤ)
    (hm : role.getTag ≠ .mode) (callback : x.callback = true)
    (read : x.files (appendRoleNodeHelper portName role.getTag) = some text) :
    (switchRole portName role id).outputs Op.notification? (x.switching entries order opened put)
        () =
      [.roleSwitchStatus portName role
        (result (opened && put && decide (extractRole (trim text) = convertRoletoString role)))
        id] := by
  have quiet : (writeRole portName role).All fun o : Op => o.notification? = none := by
    refine ⟨rfl, fun opened => ?_⟩
    cases opened with
    | false => exact trivial
    | true =>
      refine ⟨rfl, fun put => ⟨rfl, fun _ => ?_⟩⟩
      cases put with
      | false => exact trivial
      | true =>
        refine ⟨rfl, fun written => ?_⟩
        cases written <;> exact trivial
  have rest (b : Bool) : (finishRoleSwitch portName role id b).outputs Op.notification?
      (x.switching entries order opened put) () =
      [.roleSwitchStatus portName role (result b) id] := by
    simp [finishRoleSwitch, notify, Prog.call, Prog.outputs, Prog.trace, Nodes.switching,
      Nodes.handle, Nodes.answer, answer, Op.notification?, callback]
  have locked : (switchRole portName role id).outputs Op.notification?
      (x.switching entries order opened put) () =
      (writeRole portName role >>= finishRoleSwitch portName role id).outputs Op.notification?
        (x.switching entries order opened put) () := by
    rw [switchRole, if_neg hm]
    exact rfl
  rw [locked, Prog.outputs_bind _ (exec_writeRole opened put read), quiet.outputs, rest]
  exact rfl

/-! ## What a query tells -/

/-- The reads of a query tell the framework nothing. -/
lemma reads_quiet : Reads fun o : Op => o.notification? = none :=
  ⟨fun _ => rfl, fun _ => rfl, fun _ => rfl, rfl, rfl⟩

/-- A query that goes on with a record tells the framework what it returns. -/
lemma outputs_finishQuery (status : Status) (p : PortStatus) (post : List PortStatus) :
    (finishQuery status (p :: post)).outputs Op.notification? (x.handle entries order) () =
      if x.callback then [.portStatusChange (x.powerTransfer (x.moisture p) :: post) status]
      else [] := by
  obtain ⟨_, moisture⟩ :=
    @returns_queryMoistureDetectionStatus _ x entries order p post
  obtain ⟨_, power⟩ := @returns_queryPowerTransferStatus _ x entries order (x.moisture p) post
  have quiet := (keeps_queryMoistureDetectionStatus (v := p :: post) reads_quiet rfl rfl).all
  have quiet' :=
    (keeps_queryPowerTransferStatus (v := x.moisture p :: post) reads_quiet rfl rfl).all
  rw [finishQuery, Prog.outputs_bind _ moisture, quiet.outputs]
  dsimp only
  rw [Prog.outputs_bind _ power, quiet'.outputs]
  cases callback : x.callback <;>
    simp [Prog.call, Prog.outputs, Prog.trace, Nodes.handle, Nodes.answer, answer,
      Op.notification?, callback]

/-- What a query tells comes of records of all ports. -/
lemma records_of_told {records : List PortStatus}
    (told : .portStatusChange records .success ∈
      (queryVersionHelper []).outputs Op.notification? (x.handle entries order) ()) :
    x.callback = true ∧ ∃ v, Returns x entries order (getPortStatusHelper []) (.success, v) ∧
      x.finished v = some records := by
  have locked : (queryVersionHelper []).outputs Op.notification? (x.handle entries order) () =
      (getPortStatusHelper [] >>= fun r => finishQuery r.1 r.2).outputs Op.notification?
        (x.handle entries order) () := rfl
  have quiet := all_getPorts reads_quiet (fun _ _ => rfl) []
  rw [locked, Prog.outputs_bind_eq, quiet.outputs, List.nil_append] at told
  rcases e : (getPortStatusHelper []).exec (x.handle entries order) () with ⟨_ | ⟨status, v⟩, u⟩
  · rw [e] at told
    cases told
  · rw [e] at told
    cases v with
    | nil => cases told
    | cons p post =>
      dsimp only at told
      rw [outputs_finishQuery] at told
      cases callback : x.callback with
      | false =>
        rw [callback] at told
        cases told
      | true =>
        rw [callback, if_pos rfl, List.mem_singleton] at told
        obtain ⟨rfl, rfl⟩ := Notification.portStatusChange.inj told
        exact ⟨rfl, p :: post, e, rfl⟩

/-- A record has the name of a port and the two roles that its nodes give. -/
structure Reports (x : Nodes) (port : String × Bool) (p : PortStatus) : Prop where
  portName : p.portName = port.1
  power : roleOf x.files port.1 port.2 .powerRole = (.success, .powerRole p.currentPowerRole)
  data : roleOf x.files port.1 port.2 .dataRole = (.success, .dataRole p.currentDataRole)

/-- The record of a port reports its roles. -/
lemma Nodes.IsRecord.reports {port : String × Bool} {p : PortStatus} (h : x.IsRecord port p) :
    Reports x port p := by
  obtain ⟨power, data, mode, hpower, hdata, -, rfl⟩ := h
  exact ⟨rfl, hpower, hdata⟩

/-- What follows the loop changes neither. -/
lemma Reports.changed {port : String × Bool} {p : PortStatus} (h : Reports x port p) :
    Reports x port (x.powerTransfer (x.moisture p)) := by
  have moisture : Reports x port (x.moisture p) := by
    rw [Nodes.moisture]
    cases x.files kEnabledPath with
    | none => exact ⟨h.portName, h.power, h.data⟩
    | some enabled =>
      rw [Option.elim_some]
      split
      · cases x.files kDetectedPath with
        | none => exact ⟨h.portName, h.power, h.data⟩
        | some status =>
          rw [Option.elim_some]
          split <;> exact ⟨h.portName, h.power, h.data⟩
      · exact ⟨h.portName, h.power, h.data⟩
  rw [Nodes.powerTransfer]
  cases x.files sinkLimitEnablePath with
  | none => exact moisture
  | some enabled => exact ⟨moisture.portName, moisture.power, moisture.data⟩

/-- A reported record is one of a port. -/
lemma exists_reports {v records : List PortStatus} (all : List.Forall₂ x.IsRecord order v)
    (finished : x.finished v = some records) {p : PortStatus} (hp : p ∈ records) :
    ∃ port ∈ order, Reports x port p := by
  have each {ports : List (String × Bool)} {w : List PortStatus}
      (all : List.Forall₂ x.IsRecord ports w) (hp : p ∈ w) : ∃ port ∈ ports, Reports x port p := by
    induction all with
    | nil => cases hp
    | cons record _ ih =>
      rcases List.mem_cons.mp hp with rfl | rest
      · exact ⟨_, List.mem_cons_self, record.reports⟩
      · obtain ⟨port, mem, reports⟩ := ih rest
        exact ⟨port, List.mem_cons_of_mem _ mem, reports⟩
  cases all with
  | nil => cases finished
  | cons record rest =>
    obtain rfl := Option.some.inj finished
    rcases List.mem_cons.mp hp with rfl | hp
    · exact ⟨_, List.mem_cons_self, record.reports.changed⟩
    · obtain ⟨port, mem, reports⟩ := each rest hp
      exact ⟨port, List.mem_cons_of_mem _ mem, reports⟩

/-- A switch of the power or data role of a connected port is told to have succeeded exactly if the
role could be put and a query of the same nodes reports it for that port. -/
theorem switch_reported {records : List PortStatus}
    (told : .portStatusChange records .success ∈
      (queryVersionHelper []).outputs Op.notification? (x.handle entries order) ())
    {p : PortStatus} (hp : p ∈ records) (connected : (p.portName, true) ∈ ports entries)
    {role : PortRole} (hm : role.getTag ≠ .mode) (opened put : Bool) (id : ℤ) :
    (switchRole p.portName role id).outputs Op.notification? (x.switching entries order opened put)
        () =
      [.roleSwitchStatus p.portName role (result (opened && put && decide (p.Shows role))) id] := by
  obtain ⟨callback, v, success, finished⟩ := records_of_told told
  obtain ⟨perm, all⟩ := (returns_getPortStatusHelper v).mp success
  obtain ⟨port, mem, reports⟩ := exists_reports all finished hp
  obtain rfl : port = (p.portName, true) := by
    have listed : (p.portName, port.2) ∈ ports entries := by
      rw [reports.portName]
      exact perm.mem_iff.mp mem
    exact Prod.ext reports.portName.symm (snd_eq_of_nodup_keys (nodup_ports _) listed connected)
  have text : ∃ text, x.files (appendRoleNodeHelper p.portName role.getTag) = some text ∧
      (extractRole (trim text) = convertRoletoString role ↔ p.Shows role) := by
    cases role with
    | powerRole r =>
      have kind : (PortRole.powerRole p.currentPowerRole).getTag = (PortRole.powerRole r).getTag :=
        rfl
      obtain ⟨text, read, same⟩ := text_of_roleOf hm kind reports.power
      exact ⟨text, read, same.trans (iff_of_eq (PortRole.powerRole.injEq ..))⟩
    | dataRole r =>
      have kind : (PortRole.dataRole p.currentDataRole).getTag = (PortRole.dataRole r).getTag :=
        rfl
      obtain ⟨text, read, same⟩ := text_of_roleOf hm kind reports.data
      exact ⟨text, read, same.trans (iff_of_eq (PortRole.dataRole.injEq ..))⟩
    | mode m => exact absurd rfl hm
  obtain ⟨text, read, same⟩ := text
  rw [outputs_switchRole opened put id hm callback read, decide_eq_decide.mpr same]

end

/-- The port of the sample is a host, and the framework listens. -/
def hostNodes : Nodes := { roleNodes "[host] device\n" with callback := true }

def hostRecord : PortStatus where
  portName := "port0"
  currentPowerRole := .source
  currentDataRole := .host
  currentMode := .dfp
  canChangeMode := true
  supportedModes := [.drp]
  supportedContaminantProtectionModes := [.forceDisable]
  supportsEnableContaminantPresenceDetection := true
  contaminantDetectionStatus := .disabled
  usbDataStatus := [.enabled]

end

open Libbase.Documented in
/-- The driver takes the text and stays host: a switch to device is told to have failed. -/
theorem switch_reported_host :
    (switchRole "port0" (.dataRole .device) 7).outputs Op.notification?
        (hostNodes.switching partnerEntries [("port0", true)] true true) () =
      [.roleSwitchStatus "port0" (.dataRole .device) .error 7] := by
  have told : .portStatusChange [hostRecord] .success ∈
      (queryVersionHelper []).outputs Op.notification?
        (hostNodes.handle partnerEntries [("port0", true)]) () := by
    decide +kernel
  have connected : (hostRecord.portName, true) ∈ ports partnerEntries := by
    decide +kernel
  exact switch_reported told (List.mem_singleton.mpr rfl) connected (by decide) true true 7

end Redfin.Usb
