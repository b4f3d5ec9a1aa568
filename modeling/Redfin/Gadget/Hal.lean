import Redfin.Gadget.Basic

/-!
# The functions of the gadget HAL

`UsbGadget.cpp`, function by function. A callback is a flag: whether the client passed one. The
request lock is a `unique_lock` over the whole of `setCurrentUsbFunctions`, so every return
releases it; `goto error` is the call of `notify` with the failed status.
-/

namespace Redfin.Gadget

open Program Bytes
open GadgetFunction hiding none

/-- `getCurrentUsbFunctions`: the arguments of the callback are read from left to right. -/
def getCurrentUsbFunctions : Hal Unit := do
  let functions ← call .readFunctions
  let applied ← call .readApplied
  let status := if applied then .functionsApplied else .functionsNotApplied
  call (.getCurrentUsbFunctionsCb functions status)

def tearDownGadget : Hal Status := do
  let (status, _) ← call .resetGadget
  if status ≠ .success then return .error
  -- a monitor that is not running keeps what is registered in it
  if ← call .isMonitorRunning then call .monitorReset
  return .success

/-! ## Vendor and product id -/

/-- A case of the switch that knows some vendor functions by name; on a user build there are none,
and the case then has the product id `userPid`. -/
def vendorCase (known : List (String × String)) (userPid vendorFunctions : String) :
    Option (String × String) :=
  match known.lookup vendorFunctions with
  | some pid => some ("0x05C6", pid)
  | none =>
    if vendorFunctions = "user" ∨ vendorFunctions = "" then some ("0x18d1", userPid) else none

/-- The ids the switch of `validateAndSetVidPid` passes to `setVidPid`; none where it returns
`CONFIGURATION_NOT_SUPPORTED`. The accessory and audio cases only log unknown vendor functions. -/
def vidPid (functions : UInt64) (vendorFunctions : String) : Option (String × String) :=
  if functions = mtp then
    vendorCase [("diag", "0x901B")] "0x4ee1" vendorFunctions
  else if functions = adb ||| mtp then
    vendorCase [("diag", "0x903A")] "0x4ee2" vendorFunctions
  else if functions = rndis then
    vendorCase [("diag", "0x902C"), ("serial_cdev,diag", "0x90B5"),
      ("diag,diag_mdm,qdss,qdss_mdm,serial_cdev,dpl_gsi", "0x90E6")] "0x4ee3" vendorFunctions
  else if functions = adb ||| rndis then
    vendorCase [("diag", "0x902D"), ("serial_cdev,diag", "0x90B6"),
      ("diag,diag_mdm,qdss,qdss_mdm,serial_cdev,dpl_gsi", "0x90E7")] "0x4ee4" vendorFunctions
  else if functions = ptp then
    vendorCase [] "0x4ee5" vendorFunctions
  else if functions = adb ||| ptp then
    vendorCase [] "0x4ee6" vendorFunctions
  else if functions = adb then
    vendorCase [("diag", "0x901D"), ("diag,serial_cdev,rmnet_gsi", "0x9091"),
      ("diag,serial_cdev", "0x901F"), ("diag,serial_cdev,rmnet_gsi,dpl_gsi,qdss", "0x90DB"),
      ("diag,diag_mdm,qdss,qdss_mdm,serial_cdev,dpl_gsi,rmnet_gsi", "0x90E5")] "0x4ee7"
      vendorFunctions
  else if functions = midi then
    vendorCase [] "0x4ee8" vendorFunctions
  else if functions = adb ||| midi then
    vendorCase [] "0x4ee9" vendorFunctions
  else if functions = accessory then
    some ("0x18d1", "0x2d00")
  else if functions = adb ||| accessory then
    some ("0x18d1", "0x2d01")
  else if functions = audioSource then
    some ("0x18d1", "0x2d02")
  else if functions = adb ||| audioSource then
    some ("0x18d1", "0x2d03")
  else if functions = accessory ||| audioSource then
    some ("0x18d1", "0x2d04")
  else if functions = adb ||| accessory ||| audioSource then
    some ("0x18d1", "0x2d05")
  else
    none

def validateAndSetVidPid (functions : UInt64) : Hal Status := do
  let vendorFunctions ← call .getVendorFunctions
  match vidPid functions vendorFunctions with
  | some (vid, pid) => call (.setVidPid vid pid)
  | none => return .configurationNotSupported

/-! ## Linking the functions -/

/-- The vendor functions the loop of `setupFunctions` compares a token with, in its order. -/
def vendorTable : List (String × String) :=
  [("diag", "diag.diag"), ("diag_mdm", "diag.diag_mdm"), ("qdss", "qdss.qdss"),
    ("qdss_mdm", "qdss.qdss_mdm"), ("serial_cdev", "cser.dun.0"), ("dpl_gsi", "gsi.dpl"),
    ("rmnet_gsi", "gsi.rmnet")]

/-- The comparisons of one turn of the loop; the next free index, or none after a failed link. -/
def linkToken (token : String) : List (String × String) → ℕ → Hal (Option ℕ)
  | [], i => return some i
  | (name, function) :: rest, i =>
    if token = name then do
      if (← call (.linkFunction function i)) ≠ 0 then return none
      linkToken token rest (i + 1)
    else linkToken token rest i

/-- The loop over the tokens of the vendor functions. -/
def linkVendor : List String → ℕ → Hal (Option ℕ)
  | [], i => return some i
  | token :: rest, i => do
    match ← linkToken token vendorTable i with
    | some i => linkVendor rest i
    | none => return none

/-- The end of `setupFunctions` where there are no ffs functions: pull up right away. -/
def pullUpNow (functions : UInt64) (callback : Bool) : Hal Status := do
  if !(← call (.writePullup kGadgetName)) then return .error
  call (.writeApplied true)
  if callback then call (.setCurrentUsbFunctionsCb functions .success)
  return .success

/-- The end of `setupFunctions` with ffs functions: the monitor is to pull up. -/
def pullUpLater (functions : UInt64) (callback : Bool) (timeout : UInt64) : Hal Status := do
  call .registerFunctionsAppliedCallback
  call .startMonitor
  -- from here on the monitor may pull up and invoke the callback
  if callback then
    let pullup ← call (.waitForPullUp timeout)
    call (.setCurrentUsbFunctionsCb functions (if pullup then .success else .error))
  return .success

def pullUp (functions : UInt64) (callback : Bool) (timeout : UInt64) (ffsEnabled : Bool) :
    Hal Status :=
  if !ffsEnabled then pullUpNow functions callback else pullUpLater functions callback timeout

/-- The part of `setupFunctions` that links the vendor functions. -/
def linkVendorFunctions (vendorFunctions : String) (i : ℕ) : Hal (Option ℕ) :=
  if vendorFunctions ≠ "" then linkVendor (strtok ',' vendorFunctions) i else return some i

/-- The part of `setupFunctions` after the vendor functions. -/
def finishSetup (functions : UInt64) (callback : Bool) (timeout : UInt64) (ffsEnabled : Bool)
    (i : ℕ) : Hal Status := do
  if functions &&& adb ≠ 0 then
    if (← call (.addAdb i)).status ≠ .success then return .error
    pullUp functions callback timeout true
  else
    pullUp functions callback timeout ffsEnabled

def setupFunctions (functions : UInt64) (callback : Bool) (timeout : UInt64) : Hal Status := do
  let generic ← call (.addGenericAndroidFunctions functions)
  if generic.status ≠ .success then return .error
  let vendorFunctions ← call .getVendorFunctions
  match ← linkVendorFunctions vendorFunctions generic.i with
  | none => return .error
  | some i => finishSetup functions callback timeout generic.ffsEnabled i

/-! ## The calls of the interface -/

def notify (callback : Bool) (functions : UInt64) (status : Status) : Hal Unit := do
  if callback then call (.setCurrentUsbFunctionsCb functions status)

/-- `setCurrentUsbFunctions` from its tear-down on. -/
def applyFunctions (functions : UInt64) (callback : Bool) (timeout : UInt64) : Hal Unit := do
  let status ← tearDownGadget
  if status ≠ .success then return ← notify callback functions status
  call .usleep
  if functions = GadgetFunction.none then return ← notify callback functions .success
  let status ← validateAndSetVidPid functions
  if status ≠ .success then return ← notify callback functions status
  let status ← setupFunctions functions callback timeout
  if status ≠ .success then notify callback functions status

def setCurrentUsbFunctions (functions : UInt64) (callback : Bool) (timeout : UInt64) :
    Hal Unit := do
  call .lock
  call (.writeFunctions functions)
  call (.writeApplied false)
  -- the monitor of the last request may still be running
  applyFunctions functions callback timeout
  call .unlock

def reset : Hal Status := do
  -- neither write is under the request lock
  if !(← call (.writePullup "none")) then return .error
  call .usleep
  if !(← call (.writePullup kGadgetName)) then return .error
  return .success

end Redfin.Gadget
