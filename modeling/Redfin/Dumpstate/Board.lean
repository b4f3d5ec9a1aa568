import Redfin.Dumpstate.Modem
import Redfin.Program.Basic

/-!
# A request for a dump

`dumpstateBoard_1_1` of `DumpstateDevice.cpp` with the functions it calls, as a program over the
calls it makes of the kernel, of the shell, of the property service and of the threads library; the
properties of the verbose logging; and `dumpstateBoard` of the older interface. Log messages are
left out.

A function that writes a file is one operation here. What it writes is the subject of
`Redfin.Dumpstate.Copy`, `Redfin.Dumpstate.Tar` and `Redfin.Dumpstate.Modem`.
-/

namespace Redfin.Dumpstate

open Program Bytes

deriving instance DecidableEq for LogFile

inductive DumpstateStatus where
  | ok
  | unsupportedMode
  | illegalArgument
deriving DecidableEq, Repr

/-- `DumpstateMode`: the two that the code names, the other modes of the interface, and values
outside of it. -/
inductive DumpstateMode where
  | default
  | wear
  | listed (mode : UInt32)
  | unlisted (mode : UInt32)
deriving DecidableEq, Repr

/-- The loop over `hidl_enum_range`. -/
def DumpstateMode.isModeValid : DumpstateMode → Bool
  | .unlisted _ => false
  | _ => true

/-- The file descriptors of a handle; none for a null pointer. -/
abbrev Handle := Option (List ℤ)

namespace Service

/-- The calls that leave the functions of the file. A command has a timeout in seconds, or the one
of the library. What truth value or number libbase makes of the text of a property is its own. -/
inductive Op where
  | addPostCommandTask
  | getProperty (key : String)
  | getBoolProperty (key : String) (default : Bool)
  | getIntProperty (key : String) (default : ℤ)
  | setProperty (key value : String)
  | waitForProperty (key value : String) (seconds : ℕ)
  | isUserBuild
  | sleep (seconds : ℕ)
  | access (path : Path)
  | runCommandToFd (fd : ℤ) (title : String) (command : List (List UInt8)) (timeout : Option ℕ)
  | dumpFileToFd (fd : ℤ) (title : String) (path : Path)
  | scandir (path : Path)
  | copyFile (log : LogFile) (destDir : Path)
  | createTarFile (tarFile srcDir : Path)
  | sendFile (file : Path) (fd : ℤ)
  | pthreadCreate (fdModem : ℤ)
  | pthreadJoin
  | pthreadExit
deriving DecidableEq

/-- What a command has removed when it ends or is timed out: of a directory the files with these
names, or the file. -/
structure Removal where
  names : List FileName
  file : Bool

/-- The result of each operation. The code does not look at that of a command. -/
@[reducible] def Op.Res : Op → Type
  | .getProperty _ => List UInt8
  | .getBoolProperty _ _ => Bool
  | .getIntProperty _ _ => ℤ
  | .waitForProperty _ _ _ => Bool
  | .isUserBuild => Bool
  | .access _ => Bool
  | .runCommandToFd _ _ _ _ => Removal
  | .scandir _ => Option (List FileName)
  | .pthreadCreate _ => Bool
  | _ => Unit

/-- The operations of the dumpstate HAL. -/
abbrev sig : Sig := ⟨Op, Op.Res⟩

abbrev Hal := Prog sig

/-- Perform one operation. -/
abbrev call (o : Op) : Hal o.Res := Prog.call (S := sig) o

def MODEM_LOG_PREFIX_PROPERTY : String := "ro.vendor.radio.log_prefix"
def MODEM_LOG_LOC_PROPERTY : String := "ro.vendor.radio.log_loc"
def DIAG_MDLOG_PERSIST_PROPERTY : String := "persist.vendor.sys.modem.diag.mdlog"
def DIAG_MDLOG_PROPERTY : String := "vendor.sys.modem.diag.mdlog"
def DIAG_MDLOG_STATUS_PROPERTY : String := "vendor.sys.modem.diag.mdlog_on"
def DIAG_MDLOG_NUMBER_BUGREPORT : String := "persist.vendor.sys.modem.diag.mdlog_br_num"
def TCPDUMP_NUMBER_BUGREPORT : String := "persist.vendor.tcpdump.log.br_num"
def TCPDUMP_PERSIST_PROPERTY : String := "persist.vendor.tcpdump.log.alwayson"
def MODEM_EFS_DUMP_PROPERTY : String := "vendor.sys.modem.diag.efsdump"
def VENDOR_VERBOSE_LOGGING_ENABLED_PROPERTY : String := "persist.vendor.verbose_logging_enabled"

/-- The text that `snprintf` leaves in a buffer of this size. -/
def snprintf (size : ℕ) (text : List UInt8) : List UInt8 := text.take (size - 1)

/-- A command for the shell. -/
def sh (cmd : List UInt8) : List (List UInt8) := [ascii "/vendor/bin/sh", ascii "-c", cmd]

/-- A command for the shell: its first word, and what follows it in as many parts as it takes. -/
def script (word : String) (rest : List String) : List (List UInt8) :=
  sh (ascii word ++ rest.flatMap ascii)

/-! ## The sections -/

/-- A call of `RunCommandToFd` or of `DumpFileToFd`. -/
inductive Section where
  | command (title : String) (args : List (List UInt8))
  | file (title path : String)
deriving DecidableEq

def Section.dump (fd : ℤ) : Section → Hal Unit
  | .command title args => do
    let _ ← call (.runCommandToFd fd title args none)
  | .file title path => call (.dumpFileToFd fd title (ascii path))

/-- Sections one after the other. -/
def dumpSections (fd : ℤ) : List Section → Hal Unit
  | [] => return ()
  | s :: rest => do
    s.dump fd
    dumpSections fd rest

def touch_spi_path : String := "/sys/devices/virtual/sec/tsp"

/-- A command to the touch controller, and what it answers. -/
def touchCommand (cmd : String) : List (List UInt8) :=
  sh <| snprintf 256 <|
    ascii "echo " ++ (ascii cmd ++ (ascii " > " ++ ascii touch_spi_path ++ ascii "/cmd && cat " ++
      ascii touch_spi_path ++ ascii "/cmd_result"))

/-- The sections of `DumpTouch` between the two that switch the print format. -/
def touchSections : List Section :=
  [.file "LSI firmware version" (touch_spi_path ++ "/fw_version"),
    .file "LSI touch status" (touch_spi_path ++ "/status"),
    .command "Calibration info" (touchCommand "get_mis_cal_info"),
    .command "Mutual Strength" (touchCommand "run_delta_read_all"),
    .command "Self Strength" (touchCommand "run_self_delta_read_all"),
    .command "Mutual Raw Cap" (touchCommand "run_rawcap_read_all"),
    .command "Self Raw Cap" (touchCommand "run_self_rawcap_read_all"),
    .command "TYPE_OFFSET_DATA_SEC" (touchCommand "run_rawdata_read_type,19"),
    .command "TYPE_AMBIENT_DATA" (touchCommand "run_rawdata_read_type,3"),
    .command "TYPE_DECODED_DATA" (touchCommand "run_rawdata_read_type,5"),
    .command "TYPE_NOI_P2P_MIN" (touchCommand "run_rawdata_read_type,30"),
    .command "TYPE_NOI_P2P_MAX" (touchCommand "run_rawdata_read_type,31")]

def dumpTouch (fd : ℤ) : Hal Unit := do
  if ← call (.access (ascii touch_spi_path)) then
    Section.dump fd (.command "Force Touch Active" (touchCommand "force_touch_active,1"))
    -- from portrait to landscape
    Section.dump fd (.command "Print Format" (touchCommand "set_print_format,1"))
    dumpSections fd touchSections
    Section.dump fd (.command "Print Format" (touchCommand "set_print_format,0"))
    Section.dump fd (.command "Force Touch Active" (touchCommand "force_touch_active,0"))

/-- The sections in front of `DumpTouch`. -/
def firstSections : List Section :=
  [.command "VENDOR PROPERTIES" [ascii "/vendor/bin/getprop"],
    .file "SoC serial number" "/sys/devices/soc0/serial_number",
    .file "CPU present" "/sys/devices/system/cpu/present",
    .file "CPU online" "/sys/devices/system/cpu/online",
    .file "Bootloader Log" "/proc/bldrlog"]

/-- `DumpDisplay` -/
def displaySections : List Section :=
  [.file "PANEL VENDOR NAME" "/sys/class/panel_info/panel0/panel_vendor_name",
    .file "PANEL SN" "/sys/class/panel_info/panel0/serial_number",
    .file "PANEL EXTRA INFO" "/sys/class/panel_info/panel0/panel_extinfo"]

/-- `DumpF2FS` -/
def f2fsSections : List Section :=
  [.file "F2FS" "/sys/kernel/debug/f2fs/status",
    .file "F2FS" "/dev/fscklogs/fsck",
    .command "F2FS - fsck time (ms)" (script "getprop "
      ["ro.boottime.init.fsck.data"]),
    .command "F2FS - checkpoint=disable time (ms)" (script "getprop "
      ["ro.boottime.init.mount.data"])]

/-- `DumpUFS` -/
def ufsSections : List Section :=
  [.file "UFS model" "/sys/block/sda/device/model",
    .file "UFS rev" "/sys/block/sda/device/rev",
    .file "UFS size" "/sys/block/sda/size",
    .file "UFS Slow IO Read" "/dev/sys/block/bootdevice/slowio_read_cnt",
    .file "UFS Slow IO Write" "/dev/sys/block/bootdevice/slowio_write_cnt",
    .file "UFS Slow IO Unmap" "/dev/sys/block/bootdevice/slowio_unmap_cnt",
    .file "UFS Slow IO Sync" "//dev/sys/block/bootdevice/slowio_sync_cnt",
    .command "UFS err_stats" (script "path="
      ["\"/dev/sys/block/bootdevice/err_stats\"; for node in `ls $path/err_*`; do printf ",
        "\"%s:%d\\n\" $(basename $node) $(cat $node); done;"]),
    .command "UFS io_stats" (script "path="
      ["\"/dev/sys/block/bootdevice/io_stats\"; printf \"\\t\\t%-10s %-10s %-10s %-10s %-10s ",
        "%-10s\\n\" ReadCnt ReadBytes WriteCnt WriteBytes RWCnt RWBytes; str=$(cat ",
        "$path/*_start); arr=($str); printf \"Started: \\t%-10s %-10s %-10s %-10s %-10s ",
        "%-10s\\n\" $\x7barr[1]\x7d $\x7barr[0]\x7d $\x7barr[5]\x7d $\x7barr[4]\x7d ",
        "$\x7barr[3]\x7d $\x7barr[2]\x7d; str=$(cat $path/*_complete); arr=($str); printf ",
        "\"Completed: \\t%-10s %-10s %-10s %-10s %-10s %-10s\\n\" $\x7barr[1]\x7d ",
        "$\x7barr[0]\x7d $\x7barr[5]\x7d $\x7barr[4]\x7d $\x7barr[3]\x7d $\x7barr[2]\x7d; ",
        "str=$(cat $path/*_maxdiff); arr=($str); printf \"MaxDiff: \\t%-10s %-10s %-10s %-10s ",
        "%-10s %-10s\\n\\n\" $\x7barr[1]\x7d $\x7barr[0]\x7d $\x7barr[5]\x7d $\x7barr[4]\x7d ",
        "$\x7barr[3]\x7d $\x7barr[2]\x7d; "]),
    .command "UFS req_stats" (script "path="
      ["\"/dev/sys/block/bootdevice/req_stats\"; printf \"\\t%-10s %-10s %-10s %-10s %-10s ",
        "%-10s %-10s\\n\" All Write Read Read\\(urg\\) Write\\(urg\\) Flush Discard; str=$(cat ",
        "$path/*_min); arr=($str); printf \"Min:\\t%-10s %-10s %-10s %-10s %-10s %-10s ",
        "%-10s\\n\" $\x7barr[0]\x7d $\x7barr[3]\x7d $\x7barr[6]\x7d $\x7barr[4]\x7d ",
        "$\x7barr[5]\x7d $\x7barr[2]\x7d $\x7barr[1]\x7d; str=$(cat $path/*_max); arr=($str); ",
        "printf \"Max:\\t%-10s %-10s %-10s %-10s %-10s %-10s %-10s\\n\" $\x7barr[0]\x7d ",
        "$\x7barr[3]\x7d $\x7barr[6]\x7d $\x7barr[4]\x7d $\x7barr[5]\x7d $\x7barr[2]\x7d ",
        "$\x7barr[1]\x7d; str=$(cat $path/*_avg); arr=($str); printf \"Avg.:\\t%-10s %-10s %-10s ",
        "%-10s %-10s %-10s %-10s\\n\" $\x7barr[0]\x7d $\x7barr[3]\x7d $\x7barr[6]\x7d ",
        "$\x7barr[4]\x7d $\x7barr[5]\x7d $\x7barr[2]\x7d $\x7barr[1]\x7d; str=$(cat ",
        "$path/*_sum); arr=($str); printf \"Count:\\t%-10s %-10s %-10s %-10s %-10s %-10s ",
        "%-10s\\n\\n\" $\x7barr[0]\x7d $\x7barr[3]\x7d $\x7barr[6]\x7d $\x7barr[4]\x7d ",
        "$\x7barr[5]\x7d $\x7barr[2]\x7d $\x7barr[1]\x7d;"]),
    .command "UFS health" (script "for "
      ["f in $(find /dev/sys/block/bootdevice/health_descriptor -type f); do if [[ -r $f && -f ",
        "$f ]]; then echo --- $f; cat $f; echo ''; fi; done"])]

/-- The sections behind `DumpSensorLog` up to the votables of the PMIC. -/
def powerSections : List Section :=
  [.file "INTERRUPTS" "/proc/interrupts",
    .file "Sleep Stats" "/sys/power/system_sleep/stats",
    .file "Power Management Stats" "/sys/power/rpmh_stats/master_stats",
    .file "WLAN Power Stats" "/sys/kernel/wlan/power_stats",
    .file "LL-Stats" "/d/wlan0/ll_stats",
    .file "WLAN Connect Info" "/d/wlan0/connect_info",
    .file "WLAN Offload Info" "/d/wlan0/offload_info",
    .file "WLAN Roaming Stats" "/d/wlan0/roam_stats",
    .file "ICNSS Stats" "/d/icnss/stats",
    .file "SMD Log" "/d/ipc_logging/smd/log",
    .command "ION HEAPS" (script "for "
      ["d in $(ls -d /d/ion/*); do for f in $(ls $d); do echo --- $d/$f; cat $d/$f; done; done"]),
    .file "dmabuf info" "/d/dma_buf/bufinfo",
    .file "dmabuf process info" "/d/dma_buf/dmaprocs",
    .command "Temperatures" (script "for "
      ["f in /sys/class/thermal/thermal* ; do type=`cat $f/type` ; temp=`cat $f/temp` ; echo ",
        "\"$type: $temp\" ; done"]),
    .command "Cooling Device Current State" (script "for "
      ["f in /sys/class/thermal/cooling* ; do type=`cat $f/type` ; temp=`cat $f/cur_state` ; ",
        "echo \"$type: $temp\" ; done"]),
    .command "Cooling Device Time in State" (script "for "
      ["f in /sys/class/thermal/cooling* ; do type=`cat $f/type` ; temp=`cat ",
        "$f/stats/time_in_state_ms` ; echo \"$type:\n$temp\" ; done"]),
    .command "Cooling Device Trans Table" (script "for "
      ["f in /sys/class/thermal/cooling* ; do type=`cat $f/type` ; temp=`cat ",
        "$f/stats/trans_table` ; echo \"$type:\n$temp\" ; done"]),
    .command "LMH info" (script "for "
      ["f in /sys/bus/platform/drivers/msm_lmh_dcvs/*qcom,limits-dcvs@*/lmh_freq_limit; do ",
        "state=`cat $f` ; echo \"$f: $state\" ; done"]),
    .command "CPU MAX FREQ info" (script "for "
      ["f in /sys/devices/system/cpu/cpufreq/policy*/scaling_max_freq; do max_freq=`cat $f` ; ",
        "echo \"$f: $max_freq\" ; done"]),
    .command "CPU time-in-state" (script "for "
      ["cpu in /sys/devices/system/cpu/cpu*; do f=$cpu/cpufreq/stats/time_in_state; if [ ! -f ",
        "$f ]; then continue; fi; echo $f:; cat $f; done"]),
    .command "CPU cpuidle" (script "for "
      ["cpu in /sys/devices/system/cpu/cpu*; do for d in $cpu/cpuidle/state*; do if [ ! -d $d ",
        "]; then continue; fi; echo \"$d: `cat $d/name` `cat $d/desc` `cat $d/time` `cat ",
        "$d/usage`\"; done; done"]),
    .command "Airbrush debug info" (script "for "
      ["f in `ls /sys/devices/platform/soc/c84000.i2c/i2c-4/4-0066/@(*curr|temperature|vbat|tota",
        "l_power)`; do echo \"$f: `cat $f`\" ; done; file=/d/airbrush/airbrush_sm/chip_state; ",
        "echo \"$file: `cat $file`\""]),
    .file "TCPM logs" "/d/usb/tcpm-usbpd0",
    .file "TCPM logs" "/dev/logbuffer_tcpm",
    .file "PD Engine" "/dev/logbuffer_usbpd",
    .file "PPS" "/dev/logbuffer_pps",
    .file "BMS" "/dev/logbuffer_ssoc",
    .file "smblib" "/dev/logbuffer_smblib",
    .file "WLC logs" "/dev/logbuffer_wireless",
    .file "RTX logs" "/dev/logbuffer_rtx",
    .file "TTF" "/dev/logbuffer_ttf",
    .file "TTF details" "/sys/class/power_supply/battery/ttf_details",
    .file "TTF stats" "/sys/class/power_supply/battery/ttf_stats",
    .file "aacr_state" "/sys/class/power_supply/battery/aacr_state",
    .file "ipc-local-ports" "/d/msm_ipc_router/dump_local_ports",
    .command "TRICKLE-DEFEND Config" (script " cd "
      ["/sys/devices/platform/soc/soc:google,battery/power_supply/battery/; echo ",
        "\"bd_trickle_enable: `cat bd_trickle_enable`\"; echo \"bd_trickle_cnt: `cat ",
        "bd_trickle_cnt`\";  echo \"bd_trickle_recharge_soc: `cat bd_trickle_recharge_soc`\";  ",
        "echo \"bd_trickle_dry_run: `cat bd_trickle_dry_run`\";  echo \"bd_trickle_reset_sec: ",
        "`cat bd_trickle_reset_sec`\""]),
    .command "DWELL-DEFEND Config" (script " cd "
      ["/sys/devices/platform/soc/soc:google,charger/; for f in `ls charge_s*` ; do echo \"$f: ",
        "`cat $f`\" ; done"]),
    .command "TEMP-DEFEND Config" (script " cd "
      ["/sys/devices/platform/soc/soc:google,charger/; for f in `ls bd_*` ; do echo \"$f: `cat ",
        "$f`\" ; done"]),
    .command "USB Device Descriptors" (script "cd "
      ["/sys/bus/usb/devices/1-1 && cat product && cat bcdDevice; cat descriptors | od -t x1 ",
        "-w16 -N96"]),
    .command "Power supply properties" (script "for "
      ["f in `ls /sys/class/power_supply/*/uevent` ; do echo \"------ $f\\n`cat $f`\\n\" ; done"]),
    .command "PMIC Votables" (script "cat "
      ["/sys/kernel/debug/pmic-votable/*/status"])]

/-- The sections of a debug build. -/
def debugSections : List Section :=
  [.command "Google Charger" (script "cd "
      ["/d/google_charger/; for f in `ls pps_*` ; do echo \"$f: `cat $f`\" ; done"]),
    .command "Google Battery" (script "cd "
      ["/d/google_battery/; for f in `ls ssoc_*` ; do echo \"$f: `cat $f`\" ; done"]),
    .file "Charging table dump" "/d/google_battery/chg_raw_profile"]

/-- The sections up to the end. -/
def lastSections : List Section :=
  [.command "Battery EEPROM" (script "xxd "
      ["/sys/devices/platform/soc/98c000.i2c/i2c-1/1-0050/1-00500/nvmem"]),
    .file "WLC VER" "/sys/devices/platform/soc/98c000.i2c/i2c-1/1-003b/version",
    .file "WLC STATUS" "/sys/devices/platform/soc/98c000.i2c/i2c-1/1-003b/status",
    .command "eSIM Status" (script "od "
      ["-t x1 /sys/firmware/devicetree/base/chosen/cdt/cdb2/esim"]),
    .file "Modem Stat" "/data/vendor/modem_stat/debug.txt",
    .file "Pixel trace" "/d/tracing/instances/pixel-trace/trace",
    .command "QSEE logs" (script "/vendor/bin/timeout "
      ["3 cat /d/tzdbg/qsee_log"]),
    .command "Citadel VERSION" [ascii "/vendor/bin/hw/citadel_updater", ascii "-lv"],
    .command "Citadel STATS" [ascii "/vendor/bin/hw/citadel_updater", ascii "--stats"],
    .command "Citadel BOARDID" [ascii "/vendor/bin/hw/citadel_updater", ascii "--board_id"],
    .file "WLAN DP Trace" "/d/wlan/dpt_stats/dump_set_dpt_logs",
    .file "WLAN FW Log Symbol Table" "/vendor/firmware/Data.msc",
    .command "Camera Profiler Logs" (script "for "
      ["f in /data/vendor/camera/profiler/camx_*; do echo [$f]; cat \"$f\";done"]),
    .file "Fastrpc dma buffer" "/sys/kernel/fastrpc/total_dma_kb",
    .file "Page Owner" "/sys/kernel/debug/page_owner"]


/-- A log of `DumpSensorLog`, if it can be read. -/
def dumpIfReadable (fd : ℤ) (title : String) (path : Path) : Hal Unit := do
  if ← call (.access path) then call (.dumpFileToFd fd title path)

def dumpSensorLog (fd : ℤ) : Hal Unit := do
  dumpIfReadable fd "sensor log" (ascii "/data/vendor/sensors/log/sensor_log.txt")
  dumpIfReadable fd "sensor lastlog" (ascii "/data/vendor/sensors/log/sensor_lastlog.txt")

/-! ## The request -/

def setVerboseLoggingEnabled (enable : Bool) : Hal Unit :=
  call (.setProperty VENDOR_VERBOSE_LOGGING_ENABLED_PROPERTY (if enable then "true" else "false"))

def getVerboseLoggingEnabled : Hal Bool :=
  call (.getBoolProperty VENDOR_VERBOSE_LOGGING_ENABLED_PROPERTY false)

/-- The thread for the modem is created if there is a second file descriptor for it; whether the
request has one to join. -/
def startModemThread (rest : List ℤ) : Hal Bool := do
  if ← getVerboseLoggingEnabled then
    match rest with
    | [] => return false
    | fdModem :: _ => call (.pthreadCreate fdModem)
  else return false

/-- The sections of a request, from the first to the last. -/
def dumpAll (fd : ℤ) : Hal Unit := do
  dumpSections fd firstSections
  dumpTouch fd
  dumpSections fd displaySections
  dumpSections fd f2fsSections
  dumpSections fd ufsSections
  dumpSensorLog fd
  dumpSections fd powerSections
  if !(← call .isUserBuild) then dumpSections fd debugSections
  dumpSections fd lastSections

/-- `dumpstateBoard_1_1` from where its arguments are accepted. -/
def dumpBoard (fd : ℤ) (rest : List ℤ) : Hal Unit := do
  let _ ← call (.runCommandToFd fd "Notify modem" [ascii "/vendor/bin/modem_svc", ascii "-s"]
    (some 1))
  let modemThreadHandle ← startModemThread rest
  dumpAll fd
  if modemThreadHandle then call .pthreadJoin

def dumpstateBoard_1_1 (handle : Handle) (mode : DumpstateMode) : Hal DumpstateStatus := do
  call .addPostCommandTask
  match handle with
  | none | some [] => return .illegalArgument
  | some (fd :: rest) =>
    if fd < 0 then return .illegalArgument
    if !mode.isModeValid then return .illegalArgument
    -- not a watch
    if mode = .wear then return .unsupportedMode
    dumpBoard fd rest
    return .ok

/-- `dumpstateBoard` of the older interface drops the status. -/
def dumpstateBoard (handle : Handle) : Hal Unit := do
  let _ ← dumpstateBoard_1_1 handle .default

end Service

end Redfin.Dumpstate
