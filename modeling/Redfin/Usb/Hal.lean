import Redfin.Usb.Status

/-!
# The calls of the USB HAL

The functions of the interface in `Usb.cpp`. A program has no loop, so `switchMode` is cut at its
`wait_again`: `switchRole` ends where it is about to wait for the partner, and `waitAgain` is one
turn of the wait with what follows it.
-/

namespace Redfin.Usb

open Program

variable [Libbase]

/-- Where a thread's program ends, and what the thread does next. -/
inductive Next where
  /-- The binder thread serves the next call. -/
  | ready
  /-- The binder thread waits for the partner again, in `switchMode` for this call. -/
  | waitAgain (portName : String) (role : PortRole) (id : ℤ)
  /-- The worker thread takes the next turn of its loop. -/
  | loop
  /-- The worker thread has ended, or does not exist yet. -/
  | gone
deriving DecidableEq, Repr

/-- Tell the framework, if it has set a callback. -/
def notify (n : Notification) : Hal Unit := do
  call (.lock .mLock)
  if ← call .readCallback then call (.notify n)
  call (.unlock .mLock)

def result (success : Bool) : Status := if success then .success else .error

/-- Write a node where `needed`; nothing to write is no failure. -/
def writeIf (needed : Bool) (path content : String) : Hal Bool :=
  if needed then call (.writeFile path content) else return true

/-! ## Data, port and power -/

/-- The part of `enableUsbData` that binds or unbinds the controller, if it is not so already. -/
def setPullup (enable : Bool) : Hal Bool := do
  match ← call (.readFile pullupPath) with
  -- a node that cannot be read is left alone, which is no failure
  | none => return true
  | some pullup =>
    if enable then writeIf (trim pullup ≠ kGadgetName) pullupPath kGadgetName
    else writeIf (trim pullup = kGadgetName) pullupPath "none"

def enableUsbData (portName : String) (enable : Bool) (id : ℤ) : Hal Unit := do
  let pulled ← setPullup enable
  let written ← call (.writeFile usbDataPath (if enable then "1" else "0"))
  -- the node keeps a value it has accepted also where the cached one is left alone
  if pulled && written then call (.writeUsbDataEnabled enable)
  notify (.enableUsbDataStatus portName enable (result (pulled && written)) id)
  let _ ← queryVersionHelper []

def enableUsbDataWhileDocked (portName : String) (id : ℤ) : Hal Unit := do
  notify (.enableUsbDataWhileDockedStatus portName .notSupported id)
  let _ ← queryVersionHelper []

def resetUsbPort (portName : String) (id : ℤ) : Hal Unit := do
  let success ← call (.writeFile pullupPath "none")
  notify (.resetUsbPortStatus portName (result success) id)

def limitPowerTransfer (portName : String) (limit : Bool) (id : ℤ) : Hal Unit := do
  call (.lock .mLock)
  let current ← writeIf limit sinkCurrentLimitPath "0"
  let sink ← call (.writeFile sinkLimitEnablePath (if limit then "1" else "0"))
  let source ← call (.writeFile sourceLimitEnablePath (if limit then "1" else "0"))
  let isSet ← call .readCallback
  if isSet && decide (0 ≤ id) then
    let status := result (current && sink && source)
    call (.notify (.limitPowerTransferStatus portName limit status id))
  call (.unlock .mLock)
  let _ ← queryVersionHelper []

def queryPortStatus (id : ℤ) : Hal Unit := do
  let _ ← queryVersionHelper []
  notify (.queryPortStatus "all" .success id)

def enableContaminantPresenceDetection (portName : String) (enable : Bool) (id : ℤ) :
    Hal Unit := do
  let disable ← call (.getProperty kDisableContatminantDetection)
  let status ← call (.getProperty kConsole)
  let success ← writeIf (status ≠ "running" ∧ disable ≠ "true") kEnabledPath
    (if enable then "1" else "0")
  notify (.contaminantEnabledStatus portName enable (result success) id)
  let _ ← queryVersionHelper []

/-! ## Role switch -/

def appendRoleNodeHelper (portName : String) : PortRole.Tag → String
  | .dataRole => "/sys/class/typec/" ++ portName ++ "/data_role"
  | .powerRole => "/sys/class/typec/" ++ portName ++ "/power_role"
  | .mode => "/sys/class/typec/" ++ portName ++ "/port_type"

def convertRoletoString : PortRole → String
  | .powerRole .source => "source"
  | .powerRole .sink => "sink"
  | .dataRole .host => "host"
  | .dataRole .device => "device"
  | .mode .ufp => "sink"
  | .mode .dfp => "source"
  | _ => "none"

def switchToDrp (portName : String) : Hal Unit := do
  let filename := appendRoleNodeHelper portName .mode
  if ← call (.fopen filename) then
    let _ ← call (.fputs filename "dual")
    let _ ← call (.fclose filename)

/-- The end of `switchRole`: tell the framework under both locks. -/
def finishRoleSwitch (portName : String) (role : PortRole) (id : ℤ) (roleSwitch : Bool) :
    Hal Next := do
  notify (.roleSwitchStatus portName role (result roleSwitch) id)
  call (.unlock .mRoleSwitchLock)
  return .ready

/-- The end of `switchMode`, and of `switchRole` after it. -/
def finishModeSwitch (portName : String) (role : PortRole) (id : ℤ) (roleSwitch : Bool) :
    Hal Next := do
  if !roleSwitch then switchToDrp portName
  finishRoleSwitch portName role id roleSwitch

/-- `switchRole` for a mode: `switchMode` up to its wait for the partner. -/
def switchMode (portName : String) (role : PortRole) (id : ℤ) : Hal Next := do
  let filename := appendRoleNodeHelper portName role.getTag
  if ← call (.fopen filename) then
    -- from here on the partner may come up at any time
    call (.lock .mPartnerLock)
    call (.writePartnerUp false)
    let written ← call (.fputs filename (convertRoletoString role))
    let _ ← call (.fclose filename)
    if written then return .waitAgain portName role id
    call (.unlock .mPartnerLock)
    finishModeSwitch portName role id false
  else
    finishModeSwitch portName role id false

/-- One turn of `wait_again`: `pthread_cond_timedwait` releases `mPartnerLock`, wakes up for any
reason, and takes the lock again. -/
def waitAgain (portName : String) (role : PortRole) (id : ℤ) : Hal Next := do
  call .condRelease
  let timedOut ← call .condWake
  call (.lock .mPartnerLock)
  if timedOut then
    call (.unlock .mPartnerLock)
    finishModeSwitch portName role id false
  else if !(← call .readPartnerUp) then
    -- woken up before the partner is there
    return .waitAgain portName role id
  else
    call (.unlock .mPartnerLock)
    finishModeSwitch portName role id true

/-- `switchRole` for a data or power role: write the role and read it back. -/
def writeRole (portName : String) (role : PortRole) : Hal Bool := do
  let filename := appendRoleNodeHelper portName role.getTag
  if ← call (.fopen filename) then
    let ok ← call (.fputs filename (convertRoletoString role))
    let _ ← call (.fclose filename)
    if ok then
      match ← call (.readFile filename) with
      | none => return false
      | some written => return extractRole (trim written) = convertRoletoString role
    else return false
  else return false

def switchRole (portName : String) (role : PortRole) (id : ℤ) : Hal Next := do
  call (.lock .mRoleSwitchLock)
  if role.getTag = .mode then switchMode portName role id
  else
    let roleSwitch ← writeRole portName role
    finishRoleSwitch portName role id roleSwitch

/-! ## The callback -/

/-- `setCallback(callback)`, by whether the new callback is one. -/
def setCallback (isSet : Bool) : Hal Unit := do
  call (.lock .mLock)
  let wasSet ← call .readCallback
  call (.writeCallback isSet)
  if wasSet ≠ isSet then
    if !isSet then
      -- the worker is joined with `mLock` held
      if ← call .pthreadKill then call .pthreadJoin
    else
      call (.writeDestroyThread false)
      call .signal
      if !(← call .pthreadCreate) then call (.writeCallback false)
  call (.unlock .mLock)

end Redfin.Usb
