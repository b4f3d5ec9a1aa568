import Redfin.Dumpstate.Thread
import Redfin.Program.Threads

/-!
# The dumpstate service

The service has one binder thread. It serves the calls of the interface one after the other up to
the first request for a dump, after whose answer the process exits; a request may create the thread
for the modem, which runs beside it. Other processes may set properties at any time.

What is assumed of the threads library: `pthread_create` leaves a handle that is not null if and
only if it succeeds, and `pthread_join` returns when the thread has ended.
-/

namespace Redfin.Dumpstate

open Program Bytes

namespace Service

inductive Thread where
  | board
  | modem
deriving DecidableEq, Repr

/-- A call of the interface. -/
inductive Call where
  | dumpstateBoard (handle : Handle)
  | dumpstateBoard_1_1 (handle : Handle) (mode : DumpstateMode)
  | setVerboseLoggingEnabled (enable : Bool)
  | getVerboseLoggingEnabled
deriving DecidableEq

/-- Where a thread's program ends, and what the thread does next. -/
inductive Next where
  /-- The binder thread serves the next call. -/
  | ready
  /-- A request is answered, with a status in the newer interface, and the process exits. -/
  | answered (status : Option DumpstateStatus)
  /-- The thread for the modem does not exist yet. -/
  | absent
  /-- The thread that was created for this file descriptor of the modem has ended. -/
  | finished (fdModem : ℤ)
deriving DecidableEq, Repr

def Call.program : Call → Hal Next
  | .dumpstateBoard handle => do
    Service.dumpstateBoard handle
    return .answered none
  | .dumpstateBoard_1_1 handle mode => do
    return .answered (some (← Service.dumpstateBoard_1_1 handle mode))
  | .setVerboseLoggingEnabled enable => do
    Service.setVerboseLoggingEnabled enable
    return .ready
  | .getVerboseLoggingEnabled => do
    let _ ← Service.getVerboseLoggingEnabled
    return .ready

/-- The thread for the modem from its begin to its end. -/
def modemMain (fdModem : ℤ) : Hal Next := do
  dumpModemThread fdModem
  call .pthreadExit
  return .finished fdModem

/-- The thread for the modem: it is created, and runs until it ends. -/
inductive Modem where
  | absent
  | created (fdModem : ℤ)
  | running
  | ended
deriving DecidableEq, Repr

/-- The staged files, the archive, and what has been sent of the archive to each file descriptor;
what the commands and the request write is not among it. -/
structure Files where
  modem_log : Dir
  combined : List UInt8
  sent : ℤ → List UInt8

/-- The files of which nothing has been sent. -/
def Files.of (left : Leftovers) : Files := ⟨left.modem_log, left.combined, fun _ => []⟩

structure Shared where
  props : String → List UInt8
  modem : Modem
  files : Files

/-- The command that dumps the IPA log. -/
def ipaLogScript (modemLogAllDir : Path) : List UInt8 :=
  ascii "cat /d/ipc_logging/ipa/log > " ++ modemLogAllDir ++ ascii "/ipa_log"

section

variable (io : Io) (dev : Device)

/-- What a command does to the files. -/
def Files.run (f : Files) (command : List (List UInt8)) (removal : Removal) : Files :=
  if command = sh (ipaLogScript dev.modemLogAllDir) then
    { f with modem_log := dumpIpaLog io dev dev.modemLogAllDir f.modem_log }
  else if command = rmDirCommand dev.modemLogAllDir then
    { f with modem_log := removal.names.foldl (fun dir d_name => dir.erase d_name) f.modem_log }
  else if command = rmLogCommand dev.modemLogCombined then
    { f with combined := if removal.file then [] else f.combined }
  else f

/-- What an operation does to the files. -/
def Files.act : (o : Op) → o.Res → Files → Files
  | .copyFile log destDir, _, f =>
    { f with modem_log := copyInto io dev destDir log f.modem_log }
  | .createTarFile tarFile srcDir, _, f =>
    { f with
      combined := createTarFile (io.writes tarFile) (listing io srcDir f.modem_log)
        (io.opens tarFile) f.combined io.st_size }
  | .sendFile file fd, _, f =>
    { f with
      sent :=
        Function.update f.sent fd (f.sent fd ++ sendLoop io.modem 0 (io.split file f.combined)) }
  | .runCommandToFd _ _ command _, removal, f => f.run io dev command removal
  | _, _, f => f

/-- What an operation does to the properties and the life of the thread for the modem. -/
def Shared.act : (o : Op) → o.Res → Shared → Option Shared
  | .getProperty key, value, s => if value = s.props key then some s else none
  | .setProperty key value, _, s =>
    some { s with props := Function.update s.props key (ascii value) }
  | .isUserBuild, user, s => if user = dev.isUserBuild then some s else none
  | .scandir path, names, s => if names = dev.scandir path then some s else none
  | .pthreadCreate fdModem, ok, s =>
    some (if ok then { s with modem := .created fdModem } else s)
  | .pthreadJoin, _, s => if s.modem = .ended then some s else none
  | .pthreadExit, _, s => some { s with modem := .ended }
  | _, _, s => some s

/-- The effect of an operation. The staged files are those of the thread for the modem, which acts
as long as it runs. -/
def act : Thread → (o : Op) → o.Res → Shared → Option Shared
  | .board, o, r, s => s.act dev o r
  | .modem, o, r, s =>
    if s.modem = .running then { s with files := s.files.act io dev o r }.act dev o r else none

end

/-- What a thread takes up next. -/
inductive Turn where
  | serve (call : Call)
  | start
deriving DecidableEq

def go : Thread → Next → Turn → Shared → Option (Hal Next × Shared)
  | .board, .ready, .serve call, s => some (call.program, s)
  | .modem, .absent, .start, s =>
    match s.modem with
    | .created fdModem => some (modemMain fdModem, { s with modem := .running })
    | _ => none
  | _, _, _, _ => none

/-- Another process sets a property. -/
structure EnvEvent where
  key : String
  value : List UInt8

/-- The service with its threads. -/
def service (io : Io) (dev : Device) : Machine sig Thread Next Turn EnvEvent Shared where
  act := act io dev
  go := go
  env e s := some { s with props := Function.update s.props e.key e.value }

/-- Where the threads rest before the first call. -/
def Thread.first : Thread → Next
  | .board => .ready
  | .modem => .absent

/-- The service as it starts, with the files that an earlier one has left behind. -/
def service.start (props : String → List UInt8) (left : Leftovers) :
    Config sig Thread Next Shared :=
  ⟨⟨props, .absent, .of left⟩, fun t => .ret t.first⟩

/-- What a thread may take up: the binder thread a call, the thread for the modem its work. -/
inductive Goes (s : Shared) : Thread → Next → Turn → Hal Next → Shared → Prop where
  | serve (call : Call) : Goes s .board .ready (.serve call) call.program s
  | start (fdModem : ℤ) :
    s.modem = .created fdModem →
    Goes s .modem .absent .start (modemMain fdModem) { s with modem := .running }

/-- Whatever a thread goes on to is one of the cases of `Goes`. -/
lemma goes_of_go {t : Thread} {l : Next} {x : Turn} {s s' : Shared} {p : Hal Next}
    (h : go t l x s = some (p, s')) : Goes s t l x p s' := by
  unfold go at h
  split at h
  · cases h
    exact .serve _
  · split at h
    · rename_i fdModem created
      cases h
      exact .start fdModem created
    · cases h
  · cases h

/-- A result of each operation, if it has any. -/
def answer (dev : Device) (props : String → List UInt8) : (o : Op) → o.Res
  | .getProperty key => props key
  | .getBoolProperty key default =>
    if props key = ascii "true" then true else if props key = ascii "false" then false else default
  | .getIntProperty _ default => default
  | .waitForProperty _ _ _ => true
  | .isUserBuild => dev.isUserBuild
  | .access _ => true
  | .runCommandToFd _ _ _ _ => ⟨[], false⟩
  | .scandir path => dev.scandir path
  | .pthreadCreate _ => true
  | .addPostCommandTask | .setProperty _ _ | .sleep _ | .dumpFileToFd _ _ _ | .copyFile _ _
  | .createTarFile _ _ | .sendFile _ _ | .pthreadJoin | .pthreadExit => ()

/-- Every operation but `pthread_join` has a result. -/
lemma act_answer (dev : Device) {o : Op} (h : o ≠ .pthreadJoin) (s : Shared) :
    ∃ s', s.act dev o (answer dev s.props o) = some s' := by
  cases o with
  | getProperty key => exact ⟨s, if_pos rfl⟩
  | isUserBuild => exact ⟨s, if_pos rfl⟩
  | scandir path => exact ⟨s, if_pos rfl⟩
  | pthreadJoin => exact absurd rfl h
  | _ => exact ⟨_, rfl⟩

end Service

end Redfin.Dumpstate
