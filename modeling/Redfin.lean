import Redfin.Drv2624.Clamp
import Redfin.Drv2624.Concurrent
import Redfin.Drv2624.Duration
import Redfin.Drv2624.Interleaved
import Redfin.Drv2624.Levels
import Redfin.Drv2624.Sensed
import Redfin.Dumpstate.Decode
import Redfin.Dumpstate.Framing
import Redfin.Dumpstate.Progress
import Redfin.Dumpstate.Received
import Redfin.Dumpstate.Reports
import Redfin.Gadget.Applied
import Redfin.Gadget.Callback
import Redfin.Gadget.Composition
import Redfin.Gadget.Reset
import Redfin.Phone.Udc
import Redfin.Usb.Bounds
import Redfin.Usb.DataStatus
import Redfin.Usb.Guarded
import Redfin.Usb.Order
import Redfin.Usb.Replies
import Redfin.Usb.RoleNodes
import Redfin.Usb.RoleReports
import Redfin.Usb.Shutdown
import Redfin.Usb.Success
import Redfin.Usb.Uevent
