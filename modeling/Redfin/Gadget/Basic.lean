import Mathlib.Data.Int.Notation
import Redfin.Bytes.Tokens
import Redfin.Program.Basic

/-!
# The gadget HAL: its data and its operations

The types of `IUsbGadget` and the operations the functions of `UsbGadget.cpp` are programs over:
the request lock, the two fields of `UsbGadget`, the UDC node, the callback, and the primitives of
libpixelusb. What libpixelusb answers is not computed here; each primitive is one operation, and
every result its signature permits is a possible one. Log messages are left out.
-/

namespace Redfin.Gadget

open Program

/-- `Status` of the gadget interface. -/
inductive Status where
  | success
  | error
  | functionsApplied
  | functionsNotApplied
  | configurationNotSupported
deriving DecidableEq, Repr

/-! The bits of `GadgetFunction`. -/
namespace GadgetFunction

def none : UInt64 := 0
def adb : UInt64 := 1
def accessory : UInt64 := 2
def mtp : UInt64 := 4
def midi : UInt64 := 8
def ptp : UInt64 := 16
def rndis : UInt64 := 32
def audioSource : UInt64 := 64

end GadgetFunction

def kGadgetName : String := "a600000.dwc3"

/-- What `addGenericAndroidFunctions` leaves in its out-parameters and registers in `monitorFfs`. -/
structure GenericResult where
  status : Status
  ffsEnabled : Bool
  i : ℕ
  endpoints : List String
deriving DecidableEq, Repr

/-- What `addAdb` returns and registers in `monitorFfs`. -/
structure AdbResult where
  status : Status
  endpoints : List String
deriving DecidableEq, Repr

inductive Op where
  | lock
  | unlock
  | writeFunctions (functions : UInt64)
  | readFunctions
  | writeApplied (applied : Bool)
  | readApplied
  | resetGadget
  | isMonitorRunning
  | monitorReset
  | usleep
  | getVendorFunctions
  | setVidPid (vid pid : String)
  | addGenericAndroidFunctions (functions : UInt64)
  | linkFunction (function : String) (i : ℕ)
  | addAdb (i : ℕ)
  | writePullup (content : String)
  | registerFunctionsAppliedCallback
  | startMonitor
  | waitForPullUp (timeout : UInt64)
  | setCurrentUsbFunctionsCb (functions : UInt64) (status : Status)
  | getCurrentUsbFunctionsCb (functions : UInt64) (status : Status)
deriving DecidableEq, Repr

/-- The result of each operation. `resetGadget` may have pulled the gadget down or not, whatever
it returns; `linkFunction` returns an int, and 0 is success. -/
@[reducible] def Op.Res : Op → Type
  | .readFunctions => UInt64
  | .readApplied => Bool
  | .resetGadget => Status × Bool
  | .isMonitorRunning => Bool
  | .getVendorFunctions => String
  | .setVidPid _ _ => Status
  | .addGenericAndroidFunctions _ => GenericResult
  | .linkFunction _ _ => ℤ
  | .addAdb _ => AdbResult
  | .writePullup _ => Bool
  | .waitForPullUp _ => Bool
  | _ => Unit

/-- The operations of the gadget HAL. -/
abbrev sig : Sig := ⟨Op, Op.Res⟩

abbrev Hal := Prog sig

/-- Perform one operation. -/
abbrev call (o : Op) : Hal o.Res := Prog.call (S := sig) o

end Redfin.Gadget
