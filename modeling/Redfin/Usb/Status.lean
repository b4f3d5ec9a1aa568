import Redfin.Bytes.Tokens
import Redfin.Usb.Basic

/-!
# The port status

The functions of `Usb.cpp` that read the state of the Type-C ports, from the role nodes of one port
to `queryVersionHelper`, which every caller gives an empty vector. A vector is passed on as a list;
before each use of an element the access is an operation, with the index and the size.
-/

namespace Redfin.Usb

open Program Bytes

variable [Libbase]

/-! ## Roles -/

inductive PortRole.Tag where
  | powerRole
  | dataRole
  | mode
deriving DecidableEq, Repr

def PortRole.getTag : PortRole → PortRole.Tag
  | .powerRole _ => .powerRole
  | .dataRole _ => .dataRole
  | .mode _ => .mode

/-- Reading an alternative the union does not hold aborts the process. -/
def abort {α : Type} : Hal α := do
  nomatch ← call .abort

def PortRole.getPowerRole : PortRole → Hal PortPowerRole
  | .powerRole role => return role
  | _ => abort

def PortRole.getDataRole : PortRole → Hal PortDataRole
  | .dataRole role => return role
  | _ => abort

def PortRole.getMode : PortRole → Hal PortMode
  | .mode m => return m
  | _ => abort

/-- The text between the first pair of brackets. With the brackets the other way round the length
passed to `substr` wraps, and the rest of the text is taken. -/
def extractRole (roleName : String) : String :=
  let s := roleName.toList
  let first := s.idxOf '['
  let last := s.idxOf ']'
  if first < s.length ∧ last < s.length then
    let rest := s.drop (first + 1)
    String.ofList (if first < last then rest.take (last - first - 1) else rest)
  else roleName

example : extractRole "[host] device" = "host" := by decide

def getAccessoryConnected (portName : String) : Hal (Option String) := do
  match ← call (.readFile ("/sys/class/typec/" ++ portName ++ "-partner/accessory_mode")) with
  | none => return none
  | some accessory => return some (trim accessory)

/-- The role node that `getCurrentRoleHelper` reads, and the role it sets first. -/
def roleNode (portName : String) : PortRole.Tag → String × PortRole
  | .powerRole => ("/sys/class/typec/" ++ portName ++ "/power_role", .powerRole .none)
  | .dataRole => ("/sys/class/typec/" ++ portName ++ "/data_role", .dataRole .none)
  | .mode => ("/sys/class/typec/" ++ portName ++ "/data_role", .mode .none)

/-- What `getCurrentRoleHelper` makes of the text of the role node. -/
def parseRole (roleName : String) (currentRole : PortRole) : Status × PortRole :=
  if roleName = "source" then (.success, .powerRole .source)
  else if roleName = "sink" then (.success, .powerRole .sink)
  else if roleName = "host" then
    (.success, if currentRole.getTag = .dataRole then .dataRole .host else .mode .dfp)
  else if roleName = "device" then
    (.success, if currentRole.getTag = .dataRole then .dataRole .device else .mode .ufp)
  else if roleName ≠ "none" then (.unrecognizedRole, currentRole)
  else (.success, currentRole)

/-- The part of `getCurrentRoleHelper` that reads the role node. -/
def readRole (filename : String) (currentRole : PortRole) : Hal (Status × PortRole) := do
  match ← call (.readFile filename) with
  | none => return (.error, currentRole)
  | some roleName => return parseRole (extractRole (trim roleName)) currentRole

def getCurrentRoleHelper (portName : String) (connected : Bool) (currentRole : PortRole) :
    Hal (Status × PortRole) := do
  let (filename, currentRole) := roleNode portName currentRole.getTag
  if !connected then return (.success, currentRole)
  if currentRole.getTag = .mode then
    match ← getAccessoryConnected portName with
    | none => return (.error, currentRole)
    | some accessory =>
      if accessory = "analog_audio" then return (.success, .mode .audioAccessory)
      else if accessory = "debug" then return (.success, .mode .debugAccessory)
      else readRole filename currentRole
  else
    readRole filename currentRole

/-! ## Ports -/

/-- A name found in the directory: a new one is not connected. -/
def insertName (names : List (String × Bool)) (name : String) : List (String × Bool) :=
  if name ∈ names.map (·.1) then names else names ++ [(name, false)]

/-- The port of a partner is connected. -/
def connectName (names : List (String × Bool)) (name : String) : List (String × Bool) :=
  (insertName names name).map fun port => if port.1 = name then (name, true) else port

/-- `find("-partner")` finds something. -/
def hasPartner (name : String) : Bool := name.toList.tails.any ("-partner".toList).isPrefixOf

/-- One entry of the directory. -/
def addEntry (names : List (String × Bool)) (ep : Dirent) : List (String × Bool) :=
  if ep.isLink then
    if hasPartner ep.name then
      -- the name is not all dashes, so there is a first token
      connectName names ((strtok '-' ep.name).headD "")
    else insertName names ep.name
  else names

/-- The entries of the hash map of `getTypeCPortNamesHelper`, in the order of their insertion. -/
def getTypeCPortNamesHelper : Hal (Option (List (String × Bool))) := do
  match ← call (.listDir kTypecPath) with
  | none => return none
  | some entries => return some (entries.foldl addEntry [])

example : [Dirent.mk "." false, ⟨"port0-partner", true⟩, ⟨"port1", true⟩, ⟨"port0", true⟩].foldl
    addEntry [] = [("port0", true), ("port1", false)] := by decide +kernel

def canSwitchRoleHelper (portName : String) : Hal Bool := do
  let filename := "/sys/class/typec/" ++ portName ++ "-partner/supports_usb_power_delivery"
  match ← call (.readFile filename) with
  | none => return false
  | some supportsPD => return trim supportsPD = "yes"

/-- Whether the roles of a port can be switched: only if it is connected. -/
def canSwitch (port : String × Bool) : Hal Bool :=
  if port.2 then canSwitchRoleHelper port.1 else return false

/-- Use the element `i` of the vector. -/
def access (v : List PortStatus) (i : ℕ) : Hal Unit := call (.access i v.length)

/-- Change the element `i` of the vector. -/
def modify (v : List PortStatus) (i : ℕ) (f : PortStatus → PortStatus) :
    Hal (List PortStatus) := do
  access v i
  return v.modify i f

/-- `resize` of a vector. -/
def resize (v : List PortStatus) (n : ℕ) : List PortStatus :=
  v.take n ++ List.replicate (n - v.length) ({} : PortStatus)

/-- The data status reported for a port. -/
def dataStatus (usbDataEnabled : Bool) : UsbDataStatus :=
  if usbDataEnabled then .enabled else .disabledForce

/-- One of the three roles of a port: ask for it, take it out of the union, store it; the vector,
and false where the source goes to `done`. -/
def fillRole {α : Type} (initial : PortRole) (get : PortRole → Hal α)
    (set : α → PortStatus → PortStatus) (i : ℕ) (port : String × Bool) (v : List PortStatus) :
    Hal (List PortStatus × Bool) := do
  let (status, currentRole) ← getCurrentRoleHelper port.1 port.2 initial
  if status ≠ .success then return (v, false)
  let role ← get currentRole
  let v ← modify v i (set role)
  return (v, true)

def fillPowerRole := fillRole (.powerRole .none) PortRole.getPowerRole fun role p =>
  { p with currentPowerRole := role }

def fillDataRole := fillRole (.dataRole .none) PortRole.getDataRole fun role p =>
  { p with currentDataRole := role }

def fillMode := fillRole (.mode .none) PortRole.getMode fun role p =>
  { p with currentMode := role }

/-- The rest of a port's record. -/
def fillFlags (i : ℕ) (port : String × Bool) (v : List PortStatus) : Hal (List PortStatus) := do
  let v ← modify v i fun p => { p with canChangeMode := true }
  let can ← canSwitch port
  let v ← modify v i fun p => { p with canChangeDataRole := can }
  let can ← canSwitch port
  let v ← modify v i fun p => { p with canChangePowerRole := can }
  let v ← modify v i fun p => { p with supportedModes := p.supportedModes ++ [.drp] }
  let enabled ← call .readUsbDataEnabled
  let v ← modify v i fun p => { p with usbDataStatus := p.usbDataStatus ++ [dataStatus enabled] }
  let v ← modify v i fun p => { p with powerBrickStatus := .unknown }
  -- the three flags in the log message
  access v i
  access v i
  access v i
  return v

/-- One turn of the loop of `getPortStatusHelper`: the vector, and whether the loop goes on. -/
def getPortStatus (i : ℕ) (port : String × Bool) (v : List PortStatus) :
    Hal (List PortStatus × Bool) := do
  let v ← modify v i fun p => { p with portName := port.1 }
  let (v, ok) ← fillPowerRole i port v
  if !ok then return (v, false)
  let (v, ok) ← fillDataRole i port v
  if !ok then return (v, false)
  let (v, ok) ← fillMode i port v
  if !ok then return (v, false)
  let v ← fillFlags i port v
  return (v, true)

/-- The loop of `getPortStatusHelper` from the element `i` on. -/
def getPortStatuses : List (String × Bool) → ℕ → List PortStatus → Hal (Status × List PortStatus)
  | [], _, v => return (.success, v)
  | port :: rest, i, v => do
    let (v, ok) ← getPortStatus i port v
    if !ok then return (.error, v)
    getPortStatuses rest (i + 1) v

def getPortStatusHelper (v : List PortStatus) : Hal (Status × List PortStatus) := do
  match ← getTypeCPortNamesHelper with
  | none => return (.error, v)
  | some names =>
    let order ← call (.hashOrder names)
    -- the new size is the number of ports found, 0 if there is no link
    getPortStatuses order.1 0 (resize v names.length)

/-! ## Moisture and power -/

/-- The two accesses in the log message of `queryMoistureDetectionStatus`. -/
def logMoisture (v : List PortStatus) : Hal (Status × List PortStatus) := do
  access v 0
  access v 0
  return (.success, v)

/-- The part of `queryMoistureDetectionStatus` for an enabled detection. -/
def queryMoistureDetected (v : List PortStatus) : Hal (Status × List PortStatus) := do
  match ← call (.readFile kDetectedPath) with
  | none => return (.error, v)
  | some status =>
    if trim status = "1" then
      let v ← modify v 0 fun p => { p with contaminantDetectionStatus := .detected }
      let v ← modify v 0 fun p => { p with contaminantProtectionStatus := .forceDisable }
      logMoisture v
    else
      let v ← modify v 0 fun p => { p with contaminantDetectionStatus := .notDetected }
      logMoisture v

def queryMoistureDetectionStatus (v : List PortStatus) : Hal (Status × List PortStatus) := do
  let v ← modify v 0 fun p => { p with
    supportedContaminantProtectionModes :=
      p.supportedContaminantProtectionModes ++ [.forceDisable] }
  let v ← modify v 0 fun p => { p with contaminantProtectionStatus := .none }
  let v ← modify v 0 fun p => { p with contaminantDetectionStatus := .disabled }
  let v ← modify v 0 fun p => { p with supportsEnableContaminantPresenceDetection := true }
  let v ← modify v 0 fun p => { p with supportsEnableContaminantPresenceProtection := false }
  match ← call (.readFile kEnabledPath) with
  | none => return (.error, v)
  | some enabled => if trim enabled = "1" then queryMoistureDetected v else logMoisture v

def queryPowerTransferStatus (v : List PortStatus) : Hal (Status × List PortStatus) := do
  match ← call (.readFile sinkLimitEnablePath) with
  | none => return (.error, v)
  | some enabled =>
    let v ← modify v 0 fun p => { p with powerTransferLimited := trim enabled = "1" }
    access v 0
    return (.success, v)

/-- The part of `queryVersionHelper` after `getPortStatusHelper`, whatever that returned. -/
def finishQuery (status : Status) (v : List PortStatus) : Hal (List PortStatus) := do
  -- both run even for an empty vector, and what they return is dropped
  let (_, v) ← queryMoistureDetectionStatus v
  let (_, v) ← queryPowerTransferStatus v
  if ← call .readCallback then call (.notify (.portStatusChange v status))
  call (.unlock .mLock)
  return v

/-- Query all ports under `mLock` and tell the framework; the result is what the vector holds. -/
def queryVersionHelper (currentPortStatus : List PortStatus) : Hal (List PortStatus) := do
  call (.lock .mLock)
  let (status, v) ← getPortStatusHelper currentPortStatus
  finishQuery status v

end Redfin.Usb
