import Redfin.Dumpstate.Board

/-!
# The thread for the modem

`dumpModemThread` of `DumpstateDevice.cpp` with all the calls it makes, in their order: the logger
of the modem is stopped while its logs are copied, the file system of the modem is dumped while
those of a debug build are, the archive is sent, and what was staged for it is removed.

`dumpLogs_calls` says which files `dumpLogs` calls `copyFile` for.
-/

namespace Redfin.Dumpstate.Service

open Program Bytes

def STDOUT_FILENO : ℤ := 1

/-- The copies one after the other. -/
def copyAll (destDir : Path) : List LogFile → Hal Unit
  | [] => return ()
  | log :: logs => do
    call (.copyFile log destDir)
    copyAll destDir logs

def dumpLogs (srcDir destDir : Path) (maxFileNum : ℤ) (logPrefix : List UInt8) : Hal Unit := do
  let names ← call (.scandir srcDir)
  copyAll destDir ((logsToCopy names maxFileNum logPrefix).map (⟨srcDir, ·⟩))

/-- All operations are answered, each as the function says. -/
def answering (answers : (o : Op) → o.Res) : Handler sig Unit := fun o s => (some (answers o), s)

/-- The copies are made one after the other. -/
lemma trace_copyAll (answers : (o : Op) → o.Res) (destDir : Path) (logs : List LogFile) :
    ((copyAll destDir logs).trace (answering answers) ()).map Prod.snd =
      logs.map (Op.copyFile · destDir) := by
  induction logs with
  | nil => exact rfl
  | cons log logs ih => exact congrArg (Op.copyFile log destDir :: ·) ih

/-- Of the names that carry the prefix, in ascending order, `dumpLogs` copies the last ones up to
the limit, each of them once, from the last to the first, and calls nothing else after the
listing. -/
theorem dumpLogs_calls (answers : (o : Op) → o.Res) (srcDir destDir : Path) (maxFileNum : ℤ)
    (logPrefix : List UInt8) :
    let names := (answers (.scandir srcDir)).getD []
    ∃ logs copied : List FileName,
      logs.Perm (names.filter (logPrefix.isPrefixOf ·.bytes)) ∧
      logs.Pairwise (fun a b => a.bytes ≤ b.bytes) ∧
      (names.Nodup → copied.Nodup) ∧
      copied = (if maxFileNum = -1 then logs
        else if maxFileNum ≤ 0 then []
        else logs.drop (logs.length - min logs.length maxFileNum.toNat)).reverse ∧
      ((dumpLogs srcDir destDir maxFileNum logPrefix).trace (answering answers) ()).map Prod.snd =
        .scandir srcDir :: copied.map fun d_name => .copyFile ⟨srcDir, d_name⟩ destDir := by
  intro names
  have listed : logsToCopy (answers (.scandir srcDir)) maxFileNum logPrefix =
      logsToCopy (some names) maxFileNum logPrefix := by
    cases answer : answers (.scandir srcDir) with
    | none =>
      have none : names = [] := congrArg (Option.getD · []) answer
      simp [none, logsToCopy, alphasort, selectLogs]
    | some entries =>
      have found : names = entries := congrArg (Option.getD · []) answer
      rw [found]
  obtain ⟨logs, perm, sorted, distinct, copied⟩ := logsToCopy_eq names maxFileNum logPrefix
  refine ⟨logs, _, perm, sorted, distinct, copied, ?_⟩
  have calls := trace_copyAll answers destDir
    ((logsToCopy (answers (.scandir srcDir)) maxFileNum logPrefix).map (⟨srcDir, ·⟩))
  refine (congrArg (Op.scandir srcDir :: ·) calls).trans ?_
  rw [List.map_map, listed]
  exact rfl

/-- Stop the logger of the modem, if it is running, and wait for its end. -/
def stopDiagMdlog (diagLogStarted : Bool) : Hal Unit := do
  if diagLogStarted then
    call (.setProperty DIAG_MDLOG_PROPERTY "false")
    let _ ← call (.waitForProperty DIAG_MDLOG_STATUS_PROPERTY "false" 10)

/-- Copy the logs of the logger, and start it again. -/
def dumpDiagLogs (modemLogAllDir : Path) (diagLogStarted : Bool) : Hal Unit := do
  let number ← call (.getIntProperty DIAG_MDLOG_NUMBER_BUGREPORT 100)
  dumpLogs diagLogDir modemLogAllDir number DIAG_LOG_PREFIX
  if diagLogStarted then call (.setProperty DIAG_MDLOG_PROPERTY "true")

/-- The command that dumps the IPA log, as far as it fits the buffer. -/
def ipaLogCommand (modemLogAllDir : Path) : List (List UInt8) :=
  sh <| snprintf 256 <|
    ascii "cat /d/ipc_logging/ipa/log > " ++ modemLogAllDir ++ ascii "/ipa_log"

/-- The logs of a debug build. -/
def dumpDebugLogs (modemLogAllDir : Path) : Hal Unit := do
  call (.setProperty MODEM_EFS_DUMP_PROPERTY "true")
  let tcpdumpEnabled ← call (.getBoolProperty TCPDUMP_PERSIST_PROPERTY false)
  if tcpdumpEnabled then
    let number ← call (.getIntProperty TCPDUMP_NUMBER_BUGREPORT 5)
    dumpLogs tcpdumpLogDir modemLogAllDir number TCPDUMP_LOG_PREFIX
  copyAll modemLogAllDir rilAndNetmgrLogs
  let _ ← call (.runCommandToFd STDOUT_FILENO "Dump IPA log" (ipaLogCommand modemLogAllDir) none)
  dumpLogs extendedLogDir modemLogAllDir 100 EXTENDED_LOG_PREFIX
  call (.setProperty MODEM_EFS_DUMP_PROPERTY "false")

def mkdirCommand (modemLogAllDir : Path) : List (List UInt8) :=
  [ascii "/vendor/bin/mkdir", ascii "-p", modemLogAllDir]

def rmDirCommand (modemLogAllDir : Path) : List (List UInt8) :=
  [ascii "/vendor/bin/rm", ascii "-r", modemLogAllDir]

def rmLogCommand (modemLogCombined : Path) : List (List UInt8) :=
  [ascii "/vendor/bin/rm", modemLogCombined]

/-- The commands are told apart by their first words. -/
lemma mkdir_ne_sh : ascii "/vendor/bin/mkdir" ≠ ascii "/vendor/bin/sh" := by decide

/-- The commands are told apart by their first words. -/
lemma rm_ne_sh : ascii "/vendor/bin/rm" ≠ ascii "/vendor/bin/sh" := by decide

/-- The commands are told apart by their first words. -/
lemma mkdir_ne_rm : ascii "/vendor/bin/mkdir" ≠ ascii "/vendor/bin/rm" := by decide

/-- The end of `dumpModemThread`: archive what is staged, send the archive, remove both. -/
def sendModemLog (modemLogCombined modemLogAllDir : Path) (fdModem : ℤ) : Hal Unit := do
  call (.createTarFile modemLogCombined modemLogAllDir)
  call (.sendFile modemLogCombined fdModem)
  let _ ← call (.runCommandToFd STDOUT_FILENO "RM MODEM DIR" (rmDirCommand modemLogAllDir)
    (some 2))
  let _ ← call (.runCommandToFd STDOUT_FILENO "RM LOG" (rmLogCommand modemLogCombined) (some 2))

/-- `dumpModemThread` from where both properties are found set. -/
def dumpModem (modemLogCombined modemLogAllDir : Path) (fdModem : ℤ) : Hal Unit := do
  let diagLogEnabled ← call (.getBoolProperty DIAG_MDLOG_PERSIST_PROPERTY false)
  let diagLogStarted ← call (.getBoolProperty DIAG_MDLOG_STATUS_PROPERTY false)
  if diagLogEnabled then stopDiagMdlog diagLogStarted
  call (.sleep 1)
  let _ ← call (.runCommandToFd STDOUT_FILENO "MKDIR MODEM LOG" (mkdirCommand modemLogAllDir)
    (some 2))
  if diagLogEnabled then dumpDiagLogs modemLogAllDir diagLogStarted
  call (.copyFile diagPoweronLog modemLogAllDir)
  if !(← call .isUserBuild) then dumpDebugLogs modemLogAllDir
  sendModemLog modemLogCombined modemLogAllDir fdModem

def dumpModemThread (fdModem : ℤ) : Hal Unit := do
  let modemLogDir ← call (.getProperty MODEM_LOG_LOC_PROPERTY)
  if modemLogDir = [] then return ()
  let filePrefix ← call (.getProperty MODEM_LOG_PREFIX_PROPERTY)
  if filePrefix = [] then return ()
  dumpModem (modemLogDir ++ ascii "/" ++ filePrefix ++ ascii "all.tar")
    (modemLogDir ++ ascii "/modem_log") fdModem

end Redfin.Dumpstate.Service
