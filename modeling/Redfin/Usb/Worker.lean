import Redfin.Usb.Hal

/-!
# The uevent worker

`uevent_event` and `work` of `Usb.cpp`. A turn of the worker's loop is a program of its own.
-/

namespace Redfin.Usb

open Program

variable [Libbase]

/-- The records of a message: the texts up to the zero bytes, up to the first empty one. Two more
zero bytes stand behind the message in the buffer. -/
def records (msg : List Char) : List (List Char) :=
  (msg.splitOnP (· == '\x00')).takeWhile (· ≠ [])

/-- The record matches `(add)(.*)(-partner)`; the point matches no end of a line. -/
def isPartnerAdd (cp : List Char) : Bool :=
  let middle := (cp.drop 3).take (cp.length - 11)
  "add".toList.isPrefixOf cp && "-partner".toList.isSuffixOf (cp.drop 3) &&
    middle.all fun c => c ≠ '\n' && c ≠ '\r'

/-- The record makes the worker query the ports. -/
def isPortEvent (cp : List Char) : Bool :=
  "DEVTYPE=typec_".toList.isPrefixOf cp ||
    "POWER_SUPPLY_MOISTURE_DETECTED".toList.isPrefixOf cp

example : isPartnerAdd "add@/devices/typec/port0/port0-partner".toList := by decide +kernel
example : !isPartnerAdd "add-partne".toList := by decide +kernel

/-- The ports that are disconnected are switched back to dual role. -/
def switchDisconnected : List PortStatus → Hal Unit
  | [] => return ()
  | port :: rest => do
    if !(← call (.opendir ("/sys/class/typec/" ++ port.portName ++ "-partner"))) then
      switchToDrp port.portName
    switchDisconnected rest

/-- A record that reports a change of a port. -/
def portEvent : Hal Unit := do
  let currentPortStatus ← queryVersionHelper []
  if ← call (.trylock .mRoleSwitchLock) then
    switchDisconnected currentPortStatus
    call (.unlock .mRoleSwitchLock)

/-- The partner came up: wake up `switchMode`. -/
def partnerAdded : Hal Unit := do
  call (.lock .mPartnerLock)
  call (.writePartnerUp true)
  call .condSignal
  call (.unlock .mPartnerLock)

/-- The loop over the records of a message; it ends with the first one that reports a change. -/
def handleRecords : List (List Char) → Hal Unit
  | [] => return ()
  | cp :: rest =>
    if isPartnerAdd cp then do
      partnerAdded
      handleRecords rest
    else if isPortEvent cp then portEvent
    else handleRecords rest

def ueventEvent : Hal Unit := do
  match ← call .recv with
  | none => return ()
  | some msg =>
    if msg.length ≥ ueventMsgLen then return ()
    handleRecords (records msg)

/-- The end of `work`. -/
def exitWorker : Hal Next := do
  call .close
  call .pthreadExit
  return .gone

/-- `work` up to its loop. -/
def work : Hal Next := do
  if !(← call .openSocket) then
    call .pthreadExit
    return .gone
  if !(← call .epollCreate) then return ← exitWorker
  if !(← call .epollCtl) then return ← exitWorker
  return .loop

/-- One turn of the loop of `work`. -/
def workTurn : Hal Next := do
  if ← call .readDestroyThread then return ← exitWorker
  call .epollEnter
  match ← call .epollReturn with
  | .interrupted => return .loop
  | .failed => exitWorker
  | .ready => do
    ueventEvent
    return .loop

end Redfin.Usb
