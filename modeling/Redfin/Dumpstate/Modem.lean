import Mathlib.Data.Finmap
import Redfin.Dumpstate.Copy

/-!
# The modem dump

`dumpModemThread` of `DumpstateDevice.cpp`, as far as it moves bytes. The logs are staged in the
directory `modem_log`, put into one archive, and the archive is sent to the modem file descriptor.
The run starts with what an earlier one has left behind: the staged files, if the removal of the
directory did not complete, and the archive.

The logs are what they are when they are copied; what the thread does for their writers (stopping
and restarting them, the pauses) is in `Redfin.Dumpstate.Thread`, with the removals at its end. The
directory listing leaves out the two entries for the directory itself and its parent, which
`createTarFile` skips. Where an open, a read, a write or a command fails, and in which order a
directory is listed, is for the run to say (`Io`).
-/

namespace Redfin.Dumpstate

open Bytes

deriving instance DecidableEq for FileName

/-- A string literal is a file name. -/
def FileName.valid (bytes : List UInt8) : Bool :=
  0 < bytes.length && bytes.length ≤ 255 && bytes.all (· != 0)

/-- What the check of a name says about it. -/
lemma FileName.of_valid {bytes : List UInt8} (h : valid bytes = true) :
    0 < bytes.length ∧ bytes.length ≤ 255 ∧ ∀ b ∈ bytes, b ≠ 0 := by
  simp only [valid, Bool.and_eq_true, decide_eq_true_eq, List.all_eq_true, bne_iff_ne] at h
  exact ⟨h.1.1, h.1.2, h.2⟩

/-- The file name that a literal spells. -/
def FileName.of (s : String) (h : valid (ascii s) = true) : FileName :=
  ⟨ascii s, (of_valid h).1, (of_valid h).2.1, (of_valid h).2.2⟩

/-- The files of a directory. -/
abbrev Dir := Finmap fun _ : FileName => List UInt8

/-- The path of a file in a directory. -/
def FileName.path (dir : Path) (d_name : FileName) : Path := dir ++ ascii "/" ++ d_name.bytes

/-- The order in which `readdir` lists a directory. It is not one of the names: it depends on what
the directory has held before. -/
structure Listing where
  readdir : Finset FileName → List FileName
  readdir_nodup : ∀ names, (readdir names).Nodup
  mem_readdir : ∀ names d_name, d_name ∈ readdir names ↔ d_name ∈ names

/-- How the files of a run are read and written: the order of the staging directory and whether it
opens, which files open for reading and for writing, the chunks the reads of a file deliver before
they end or fail, the answers to the writes to a file and to the modem file descriptor, and what
`st` of `createTarFile` holds at first. -/
structure Io extends Listing where
  opendir : Bool
  readable : Path → Bool
  opens : Path → Bool
  split : Path → List UInt8 → List (List UInt8)
  flatten_split : ∀ path bytes, (split path bytes).flatten <+: bytes
  split_le : ∀ path bytes, ∀ c ∈ split path bytes, 0 < c.length ∧ c.length ≤ BUFSIZE
  writes : Path → Writes
  modem : Writes
  st_size : UInt64

/-- All opens, reads and writes complete. -/
structure Io.Complete (io : Io) : Prop where
  opendir : io.opendir = true
  readable : ∀ path, io.readable path = true
  opens : ∀ path, io.opens path = true
  flatten_split : ∀ path bytes, (io.split path bytes).flatten = bytes
  writes : ∀ path, (io.writes path).Complete
  modem : io.modem.Complete

/-- The properties and the log files that a run finds. Files are shorter than `2 ^ 63` bytes, and
the path of the modem logs leaves room for the command that dumps the IPA log: its buffer of 256
bytes cuts it off for a path of more than 208. -/
structure Device where
  modemLogDir : Path
  modemLogDir_le : modemLogDir.length ≤ 208
  filePrefix : Path
  diagLogEnabled : Bool
  diagMdlogNumber : ℤ
  isUserBuild : Bool
  tcpdumpEnabled : Bool
  tcpdumpNumber : ℤ
  file : Path → Option (List UInt8)
  file_lt : ∀ path bytes, file path = some bytes → bytes.length < 2 ^ 63
  scandir : Path → Option (List FileName)
  scandir_nodup : ∀ path names, scandir path = some names → names.Nodup
  ipaLog : List UInt8
  ipaLog_lt : ipaLog.length < 2 ^ 63

def Device.modemLogCombined (dev : Device) : Path :=
  dev.modemLogDir ++ ascii "/" ++ dev.filePrefix ++ ascii "all.tar"

def Device.modemLogAllDir (dev : Device) : Path := dev.modemLogDir ++ ascii "/modem_log"

/-- What an earlier dump has left behind: files in `modem_log`, none of them hidden, and the
content of the archive. -/
structure Leftovers where
  modem_log : Dir
  visible : ∀ d_name ∈ modem_log, d_name.bytes.head? ≠ some 46
  modem_log_lt : ∀ d_name bytes, modem_log.lookup d_name = some bytes → bytes.length < 2 ^ 63
  combined : List UInt8

def DIAG_LOG_PREFIX : List UInt8 := ascii "diag_log_"
def TCPDUMP_LOG_PREFIX : List UInt8 := ascii "tcpdump"
def EXTENDED_LOG_PREFIX : List UInt8 := ascii "extended_log_"
def diagLogDir : Path := ascii "/data/vendor/radio/diag_logs/logs"
def tcpdumpLogDir : Path := ascii "/data/vendor/tcpdump_logger/logs"
def extendedLogDir : Path := ascii "/data/vendor/radio/extended_logs"

/-- A log with a fixed path: its directory and its `basename`. -/
structure LogFile where
  dir : Path
  basename : FileName

def diagPoweronLog : LogFile := ⟨diagLogDir, .of "diag_poweron_log.qmdl" (by decide +kernel)⟩

def rilAndNetmgrLogs : List LogFile :=
  [⟨ascii "/data/vendor/radio", .of "haldebug_ril0" (by decide +kernel)⟩,
    ⟨ascii "/data/vendor/radio", .of "haldebug_ril1" (by decide +kernel)⟩,
    ⟨ascii "/data/vendor/radio", .of "ril_log0" (by decide +kernel)⟩,
    ⟨ascii "/data/vendor/radio", .of "ril_log0_old" (by decide +kernel)⟩,
    ⟨ascii "/data/vendor/radio", .of "ril_log1" (by decide +kernel)⟩,
    ⟨ascii "/data/vendor/radio", .of "ril_log1_old" (by decide +kernel)⟩,
    ⟨ascii "/data/vendor/radio", .of "qmi_fw_log" (by decide +kernel)⟩,
    ⟨ascii "/data/vendor/radio", .of "qmi_fw_log_old" (by decide +kernel)⟩,
    ⟨ascii "/data/vendor/radio", .of "imsdatadaemon_log" (by decide +kernel)⟩,
    ⟨ascii "/data/vendor/radio", .of "imsdatadaemon_log_old" (by decide +kernel)⟩,
    ⟨ascii "/data/vendor/netmgr", .of "netmgr_log" (by decide +kernel)⟩,
    ⟨ascii "/data/vendor/netmgr", .of "netmgr_log_old" (by decide +kernel)⟩,
    ⟨ascii "/data/vendor/radio", .of "omadm_logs.txt" (by decide +kernel)⟩,
    ⟨ascii "/data/vendor/radio", .of "power_anomaly_data.txt" (by decide +kernel)⟩,
    ⟨ascii "/data/vendor/radio/diag_logs", .of "diag_trace.txt" (by decide +kernel)⟩,
    ⟨ascii "/data/vendor/radio/diag_logs", .of "diag_trace_old.txt" (by decide +kernel)⟩,
    ⟨ascii "/data/vendor/radio", .of "metrics_data" (by decide +kernel)⟩,
    ⟨ascii "/data/vendor/ssrlog", .of "ssr_log.txt" (by decide +kernel)⟩,
    ⟨ascii "/data/vendor/ssrlog", .of "ssr_log_old.txt" (by decide +kernel)⟩,
    ⟨ascii "/data/vendor/rfs/mpss", .of "modem_efs" (by decide +kernel)⟩,
    ⟨ascii "/sys/kernel/debug/ipa", .of "ipa_statistics_msg" (by decide +kernel)⟩]

def ipaLogName : FileName := .of "ipa_log" (by decide +kernel)

section

variable (io : Io) (dev : Device)

/-- `copyFile` into a directory. -/
def copyInto (destDir : Path) (log : LogFile) (dir : Dir) : Dir :=
  let srcFile := log.basename.path log.dir
  let destFile := log.basename.path destDir
  match copyFile (io.writes destFile) ((dev.file srcFile).map (io.split srcFile))
      (io.opens destFile) (dir.lookup log.basename) with
  | some content => dir.insert log.basename content
  | none => dir

/-- The copies one after the other. -/
def copyAll (destDir : Path) (logs : List LogFile) (dir : Dir) : Dir :=
  logs.foldl (fun dir log => copyInto io dev destDir log dir) dir

def dumpLogs (srcDir destDir : Path) (maxFileNum : ℤ) (logPrefix : List UInt8) (dir : Dir) : Dir :=
  copyAll io dev destDir
    ((logsToCopy (dev.scandir srcDir) maxFileNum logPrefix).map (⟨srcDir, ·⟩)) dir

/-- The shell command that dumps the IPA log: the redirection truncates its file. The command is not
cut off (`Device.modemLogDir_le`), and the path is one word to the shell. -/
def dumpIpaLog (destDir : Path) (dir : Dir) : Dir :=
  if io.opens (ipaLogName.path destDir) then dir.insert ipaLogName dev.ipaLog else dir

/-- What is in `modem_log` when the archive is created. -/
def stage (modemLogAllDir : Path) (dir : Dir) : Dir :=
  let dir :=
    if dev.diagLogEnabled then
      dumpLogs io dev diagLogDir modemLogAllDir dev.diagMdlogNumber DIAG_LOG_PREFIX dir
    else dir
  let dir := copyInto io dev modemLogAllDir diagPoweronLog dir
  if dev.isUserBuild then dir
  else
    let dir :=
      if dev.tcpdumpEnabled then
        dumpLogs io dev tcpdumpLogDir modemLogAllDir dev.tcpdumpNumber TCPDUMP_LOG_PREFIX dir
      else dir
    let dir := copyAll io dev modemLogAllDir rilAndNetmgrLogs dir
    let dir := dumpIpaLog io dev modemLogAllDir dir
    dumpLogs io dev extendedLogDir modemLogAllDir 100 EXTENDED_LOG_PREFIX dir

/-- What `createTarFile` finds of a staged file. -/
def stagedSource (path : Path) (content : List UInt8) : Source :=
  ⟨some (UInt64.ofNat content.length), io.split path content, io.split_le path content⟩

/-- A file of the directory as `createTarFile` finds it. -/
def stagedEntry (modemLogAllDir : Path) (dir : Dir) (d_name : FileName) : Entry :=
  let path := d_name.path modemLogAllDir
  ⟨d_name, if io.readable path then (dir.lookup d_name).map (stagedSource io path) else none⟩

/-- The directory as `createTarFile` reads it. -/
def listing (modemLogAllDir : Path) (dir : Dir) : Option (List Entry) :=
  if io.opendir then some ((io.readdir dir.keys).map (stagedEntry io modemLogAllDir dir)) else none

/-- What the archive holds when it is sent. -/
def archived (left : Leftovers) : List UInt8 :=
  createTarFile (io.writes dev.modemLogCombined)
    (listing io dev.modemLogAllDir (stage io dev dev.modemLogAllDir left.modem_log))
    (io.opens dev.modemLogCombined) left.combined io.st_size

/-- The loop that sends the archive, one write for each read; it breaks off at a short write. -/
def sendLoop (ws : Writes) : ℕ → List (List UInt8) → List UInt8
  | _, [] => []
  | i, chunk :: reads =>
    match ws.res i chunk.length with
    | none => []
    | some n => if n ≠ chunk.length then chunk.take n else chunk ++ sendLoop ws (i + 1) reads

/-- `dumpModemThread`: the bytes sent to the modem file descriptor. An archive that does not open
again delivers no reads. -/
def dumpModemThread (left : Leftovers) : List UInt8 :=
  if dev.modemLogDir = [] then []
  else if dev.filePrefix = [] then []
  else sendLoop io.modem 0 (io.split dev.modemLogCombined (archived io dev left))

end

end Redfin.Dumpstate
