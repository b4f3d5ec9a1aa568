import Mathlib.Data.Int.Notation
import Mathlib.Data.List.Perm.Basic
import Redfin.Libbase
import Redfin.Program.Basic

/-!
# The USB HAL: its data and its operations

The types of `IUsb` that the HAL computes with, and the operations the functions of `Usb.cpp` are
programs over. The sysfs and configfs nodes, the threads library, the uevent socket and the
framework's callback are behind operations; an access to the port-status vector is an operation
too, so that its index can be compared with the size of the vector at that moment. Of the
enumerations of the interface only the values the HAL uses are listed, and log messages are left
out, except for the vector accesses in them.
-/

namespace Redfin.Usb

open Program

inductive Status where
  | success
  | error
  | notSupported
  | unrecognizedRole
deriving DecidableEq, Repr

inductive PortPowerRole where
  | none
  | source
  | sink
deriving DecidableEq, Repr

inductive PortDataRole where
  | none
  | host
  | device
deriving DecidableEq, Repr

inductive PortMode where
  | none
  | ufp
  | dfp
  | drp
  | audioAccessory
  | debugAccessory
deriving DecidableEq, Repr

/-- The union `PortRole`: the constructor is its tag. -/
inductive PortRole where
  | powerRole (role : PortPowerRole)
  | dataRole (role : PortDataRole)
  | mode (mode : PortMode)
deriving DecidableEq, Repr

inductive UsbDataStatus where
  | enabled
  | disabledForce
deriving DecidableEq, Repr

inductive ContaminantProtectionMode where
  | forceDisable
deriving DecidableEq, Repr

inductive ContaminantProtectionStatus where
  | none
  | forceDisable
deriving DecidableEq, Repr

inductive ContaminantDetectionStatus where
  | notSupported
  | disabled
  | notDetected
  | detected
deriving DecidableEq, Repr

inductive PowerBrickStatus where
  | unknown
deriving DecidableEq, Repr

/-- A port's record; the defaults are those of a default-constructed one. -/
structure PortStatus where
  portName : String := ""
  currentDataRole : PortDataRole := .none
  currentPowerRole : PortPowerRole := .none
  currentMode : PortMode := .none
  canChangeMode : Bool := false
  canChangeDataRole : Bool := false
  canChangePowerRole : Bool := false
  supportedModes : List PortMode := []
  supportedContaminantProtectionModes : List ContaminantProtectionMode := []
  supportsEnableContaminantPresenceProtection : Bool := false
  contaminantProtectionStatus : ContaminantProtectionStatus := .none
  supportsEnableContaminantPresenceDetection : Bool := false
  contaminantDetectionStatus : ContaminantDetectionStatus := .notSupported
  usbDataStatus : List UsbDataStatus := []
  powerTransferLimited : Bool := false
  powerBrickStatus : PowerBrickStatus := .unknown
deriving DecidableEq, Repr

/-- What the HAL tells the framework through its callback. -/
inductive Notification where
  | enableUsbDataStatus (portName : String) (enable : Bool) (status : Status) (id : ℤ)
  | enableUsbDataWhileDockedStatus (portName : String) (status : Status) (id : ℤ)
  | resetUsbPortStatus (portName : String) (status : Status) (id : ℤ)
  | limitPowerTransferStatus (portName : String) (limit : Bool) (status : Status) (id : ℤ)
  | contaminantEnabledStatus (portName : String) (enable : Bool) (status : Status) (id : ℤ)
  | roleSwitchStatus (portName : String) (role : PortRole) (status : Status) (id : ℤ)
  | queryPortStatus (portName : String) (status : Status) (id : ℤ)
  | portStatusChange (currentPortStatus : List PortStatus) (status : Status)
deriving DecidableEq, Repr

inductive Mutex where
  | mLock
  | mRoleSwitchLock
  | mPartnerLock
deriving DecidableEq, Repr

/-- A directory entry: its name and whether its type is `DT_LNK`. -/
structure Dirent where
  name : String
  isLink : Bool
deriving DecidableEq, Repr

/-- How `epoll_wait` returns: with the uevent socket readable, with `EINTR`, with another error. -/
inductive EpollResult where
  | ready
  | interrupted
  | failed
deriving DecidableEq, Repr

inductive Op where
  | lock (m : Mutex)
  | unlock (m : Mutex)
  | trylock (m : Mutex)
  | readFile (path : String)
  | writeFile (path content : String)
  | fopen (path : String)
  | fputs (path content : String)
  | fclose (path : String)
  | opendir (path : String)
  | listDir (path : String)
  | hashOrder (names : List (String × Bool))
  | access (i size : ℕ)
  | abort
  | getProperty (key : String)
  | readCallback
  | writeCallback (isSet : Bool)
  | notify (n : Notification)
  | readUsbDataEnabled
  | writeUsbDataEnabled (enabled : Bool)
  | readPartnerUp
  | writePartnerUp (up : Bool)
  | condSignal
  | condRelease
  | condWake
  | pthreadKill
  | pthreadJoin
  | pthreadCreate
  | pthreadExit
  | signal
  | readDestroyThread
  | writeDestroyThread (destroy : Bool)
  | openSocket
  | epollCreate
  | epollCtl
  | epollEnter
  | epollReturn
  | recv
  | close
deriving DecidableEq, Repr

/-- The result of each operation: of most calls whether they succeeded, `trylock` whether it took
the lock, `condWake` whether the wait timed out. What `fputs` accepts is in the buffer of the file
until `fclose` stores it, or fails to. The order in which a hash map is iterated is any;
an aborted process gives no result. A byte of a message is the character with its value. -/
@[reducible] def Op.Res : Op → Type
  | .trylock _ => Bool
  | .readFile _ => Option String
  | .writeFile _ _ => Bool
  | .fopen _ => Bool
  | .fputs _ _ => Bool
  | .fclose _ => Bool
  | .opendir _ => Bool
  | .listDir _ => Option (List Dirent)
  | .hashOrder names => { order : List (String × Bool) // order.Perm names }
  | .abort => Empty
  | .getProperty _ => String
  | .readCallback => Bool
  | .readUsbDataEnabled => Bool
  | .readPartnerUp => Bool
  | .condWake => Bool
  | .pthreadKill => Bool
  | .pthreadCreate => Bool
  | .readDestroyThread => Bool
  | .openSocket => Bool
  | .epollCreate => Bool
  | .epollCtl => Bool
  | .epollReturn => EpollResult
  | .recv => Option (List Char)
  | _ => Unit

/-- The operations of the USB HAL. -/
abbrev sig : Sig := ⟨Op, Op.Res⟩

abbrev Hal := Prog sig

/-- Perform one operation. -/
abbrev call (o : Op) : Hal o.Res := Prog.call (S := sig) o

def kGadgetName : String := "a600000.dwc3"
def pullupPath : String := "/config/usb_gadget/g1/UDC"
def usbDataPath : String := "/sys/devices/platform/soc/a600000.ssusb/usb_data_enabled"
def usbPowerLimitPath : String :=
  "/sys/devices/platform/soc/c440000.qcom,spmi/spmi-0/spmi0-02/" ++
    "c440000.qcom,spmi:qcom,pm7250b@2:qcom,usb-pdphy@1700/usbpd0/"
def sinkCurrentLimitPath : String := usbPowerLimitPath ++ "usb_limit_sink_current"
def sinkLimitEnablePath : String := usbPowerLimitPath ++ "usb_limit_sink_enable"
def sourceLimitEnablePath : String := usbPowerLimitPath ++ "usb_limit_source_enable"
def kConsole : String := "init.svc.console"
def kDisableContatminantDetection : String := "vendor.usb.contaminantdisable"
def kDetectedPath : String := "/sys/class/power_supply/usb/moisture_detected"
def kEnabledPath : String := "/sys/class/power_supply/usb/moisture_detection_enabled"
def kTypecPath : String := "/sys/class/typec"
def ueventMsgLen : ℕ := 2048

end Redfin.Usb
