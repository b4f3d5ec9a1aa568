import Redfin.Dumpstate.Leak
import Redfin.Dumpstate.Service
import Redfin.Program.Brackets
import Redfin.Program.Schedule

/-!
# What a dump switches over is switched back

A dump stops the logger of the modem, has the modem dump its file system, and puts the touch
controller into a state of its own. When a request has been answered and the process may exit, all
of this has been undone, and the thread for the modem is not cut off (`request_restores`).
-/

namespace Redfin.Dumpstate.Service

open Function Program Bytes

/-- What a request takes over and has to give back. -/
inductive Held where
  | diagMdlog
  | efsDump
  | forceTouch
  | printFormat
  | modemThread
deriving DecidableEq, Repr

def markCommand (command : List (List UInt8)) : Mark Held :=
  if command = touchCommand "force_touch_active,1" then .opens .forceTouch
  else if command = touchCommand "force_touch_active,0" then .closes .forceTouch
  else if command = touchCommand "set_print_format,1" then .opens .printFormat
  else if command = touchCommand "set_print_format,0" then .closes .printFormat
  else .neutral

def markProperty (key value : String) : Mark Held :=
  if key = DIAG_MDLOG_PROPERTY then
    if value = "false" then .opens .diagMdlog else .closes .diagMdlog
  else if key = MODEM_EFS_DUMP_PROPERTY then
    if value = "true" then .opens .efsDump else .closes .efsDump
  else .neutral

/-- The operation that takes something over, and the one that gives it back. The binder thread
joins the thread that it has created; that thread gives everything back before it exits. -/
def mark (t : Thread) : Brackets sig Held
  | .setProperty key value, _ => markProperty key value
  | .runCommandToFd _ _ command _, _ => markCommand command
  | .pthreadCreate _, created =>
    if t = .modem then .never else if created then .opens .modemThread else .neutral
  | .pthreadJoin, _ => if t = .modem then .never else .closes .modemThread
  | .pthreadExit, _ => if t = .modem then .last else .never
  | _, _ => .neutral

variable {t : Thread} {q : Finset Held}

/-! ## The sections -/

/-- The section takes nothing over. -/
def Section.Quiet : Section → Prop
  | .command _ args => markCommand args = .neutral
  | .file _ _ => True

instance : DecidablePred Section.Quiet := fun s =>
  match s with
  | .command _ args => inferInstanceAs (Decidable (markCommand args = .neutral))
  | .file _ _ => inferInstanceAs (Decidable True)

/-- Dumping a quiet section is quiet. -/
lemma Section.Quiet.dump {fd : ℤ} {s : Section} (h : s.Quiet) :
    (s.dump fd).All (mark t).Quiet := by
  cases s with
  | command title args => exact ⟨fun _ => h, fun _ => trivial⟩
  | file title path => exact ⟨fun _ => rfl, fun _ => trivial⟩

/-- Dumping quiet sections is quiet. -/
lemma quiet_dumpSections {sections : List Section} (h : ∀ s ∈ sections, s.Quiet) (fd : ℤ) :
    (dumpSections fd sections).All (mark t).Quiet := by
  induction sections with
  | nil => exact trivial
  | cons s sections ih =>
    obtain ⟨first, rest⟩ := List.forall_mem_cons.mp h
    exact first.dump.bind fun _ => ih rest

/-- The sections but the four of `DumpTouch` that switch something. -/
def quietSections : List (List Section) :=
  [firstSections, touchSections, displaySections, f2fsSections, ufsSections, powerSections,
    debugSections, lastSections]

/-- The sections of the report are quiet, each one evaluated. -/
lemma quiet_sections : ∀ sections ∈ quietSections, ∀ s ∈ sections, s.Quiet := by decide +kernel

/-- What each of the commands of the touch panel opens or closes. -/
lemma markCommand_touch :
    markCommand (touchCommand "force_touch_active,1") = .opens .forceTouch ∧
    markCommand (touchCommand "set_print_format,1") = .opens .printFormat ∧
    markCommand (touchCommand "set_print_format,0") = .closes .printFormat ∧
    markCommand (touchCommand "force_touch_active,0") = .closes .forceTouch ∧
    markCommand [ascii "/vendor/bin/modem_svc", ascii "-s"] = .neutral := by
  decide +kernel

/-- A section of `DumpTouch` that takes something over. -/
lemma leads_opens {fd : ℤ} {title : String} {args : List (List UInt8)} {b : Held}
    (h : markCommand args = .opens b) (hb : b ∉ q) :
    (Section.dump fd (.command title args)).Leads (mark t) q fun _ => insert b q :=
  Prog.Leads.opens (fun _ => h) hb fun _ => Prog.balanced_ret _

/-- A section of `DumpTouch` that gives it back. -/
lemma leads_closes {fd : ℤ} {title : String} {args : List (List UInt8)} {b : Held}
    (h : markCommand args = .closes b) (hb : b ∉ q) :
    (Section.dump fd (.command title args)).Leads (mark t) (insert b q) fun _ => q :=
  Prog.Leads.closes (fun _ => h) hb fun _ => Prog.balanced_ret _

/-- The dump of the touch panel gives back both modes that it takes. -/
lemma balanced_dumpTouch (fd : ℤ) (force : .forceTouch ∉ q) (format : .printFormat ∉ q) :
    (dumpTouch fd).Balanced (mark t) q := by
  have inner : Held.printFormat ∉ insert .forceTouch q := by
    simp [format]
  obtain ⟨force_on, format_on, format_off, force_off, _⟩ := markCommand_touch
  apply Prog.Leads.op fun _ => rfl
  intro readable
  cases readable with
  | false => exact Prog.balanced_ret _
  | true =>
    apply (leads_opens force_on force).bind
    intro _
    apply (leads_opens format_on inner).bind
    intro _
    apply (quiet_dumpSections (quiet_sections touchSections (by simp [quietSections])) fd).balanced.bind
    intro _
    apply (leads_closes format_off inner).bind
    intro _
    exact leads_closes force_off force

/-! ## The request -/

/-- Reading a property is quiet. -/
lemma quiet_getBoolProperty (key : String) (default : Bool) :
    (call (.getBoolProperty key default)).All (mark t).Quiet :=
  ⟨fun _ => rfl, fun _ => trivial⟩

/-- Dumping a file that may be missing is quiet. -/
lemma quiet_dumpIfReadable (fd : ℤ) (title : String) (path : Path) :
    (dumpIfReadable fd title path).All (mark t).Quiet := by
  refine ⟨fun _ => rfl, fun readable => ?_⟩
  cases readable with
  | false => exact trivial
  | true => exact ⟨fun _ => rfl, fun _ => trivial⟩

/-- The dump of the sensor log is quiet. -/
lemma quiet_dumpSensorLog (fd : ℤ) : (dumpSensorLog fd).All (mark t).Quiet :=
  (quiet_dumpIfReadable fd _ _).bind fun _ => quiet_dumpIfReadable fd _ _

/-- The dump without the modem is balanced. -/
lemma balanced_dumpAll (fd : ℤ) (force : .forceTouch ∉ q) (format : .printFormat ∉ q) :
    (dumpAll fd).Balanced (mark t) q := by
  have quiet (sections : List Section) (h : sections ∈ quietSections) :=
    quiet_dumpSections (t := t) (quiet_sections sections h) fd
  apply (quiet firstSections (by simp [quietSections])).balanced.bind
  intro _
  apply (balanced_dumpTouch fd force format).bind
  intro _
  apply (quiet displaySections (by simp [quietSections])).balanced.bind
  intro _
  apply (quiet f2fsSections (by simp [quietSections])).balanced.bind
  intro _
  apply (quiet ufsSections (by simp [quietSections])).balanced.bind
  intro _
  apply (quiet_dumpSensorLog fd).balanced.bind
  intro _
  apply (quiet powerSections (by simp [quietSections])).balanced.bind
  intro _
  apply Prog.Leads.op fun _ => rfl
  intro user
  cases user with
  | false =>
    apply (quiet debugSections (by simp [quietSections])).balanced.bind
    intro _
    exact (quiet lastSections (by simp [quietSections])).balanced
  | true => exact (quiet lastSections (by simp [quietSections])).balanced

/-- What the request holds with a handle of the thread for the modem. -/
def joinable (modemThreadHandle : Bool) : Finset Held :=
  if modemThreadHandle then insert .modemThread ∅ else ∅

/-- A start leaves the thread to be joined exactly when it returns a handle for it. -/
lemma leads_startModemThread (rest : List ℤ) :
    (startModemThread rest).Leads (mark .board) ∅ joinable := by
  apply (quiet_getBoolProperty _ _).balanced.bind
  intro enabled
  cases enabled with
  | false => rfl
  | true =>
    cases rest with
    | nil => rfl
    | cons fdModem rest =>
      constructor
      · intro created
        cases created with
        | false => exact trivial
        | true => exact Finset.notMem_empty _
      · intro created
        cases created with
        | false => rfl
        | true => rfl

/-- `dumpstateBoard` joins the thread that it starts. -/
lemma balanced_dumpBoard (fd : ℤ) (rest : List ℤ) :
    (dumpBoard fd rest).Balanced (mark .board) ∅ := by
  obtain ⟨_, _, _, _, notify⟩ := markCommand_touch
  apply Prog.Leads.op fun _ => notify
  intro _
  apply (leads_startModemThread rest).bind
  intro modemThreadHandle
  apply (balanced_dumpAll fd _ _).bind
  · intro _
    cases modemThreadHandle with
    | false => exact Prog.balanced_ret _
    | true =>
      exact Prog.Leads.closes (fun _ => rfl) (Finset.notMem_empty _) fun _ => Prog.balanced_ret _
  · cases modemThreadHandle <;> decide
  · cases modemThreadHandle <;> decide

/-- The request of the later interface is balanced. -/
lemma balanced_dumpstateBoard_1_1 (handle : Handle) (mode : DumpstateMode) :
    (dumpstateBoard_1_1 handle mode).Balanced (mark .board) ∅ := by
  apply Prog.Leads.op fun _ => rfl
  intro _
  rcases handle with _ | _ | ⟨fd, rest⟩
  · exact Prog.balanced_ret _
  · exact Prog.balanced_ret _
  · dsimp only
    split
    · exact Prog.balanced_ret _
    · split
      · exact Prog.balanced_ret _
      · split
        · exact Prog.balanced_ret _
        · exact (balanced_dumpBoard fd rest).bind fun _ => Prog.balanced_ret _

/-! ## The thread for the modem -/

/-- A command to the touch controller is an `echo`. -/
lemma echo_touchCommand (cmd : String) :
    ∃ text, touchCommand cmd = sh (ascii "echo " ++ text) := by
  refine ⟨List.take (256 - 1 - (ascii "echo ").length) (ascii cmd ++ (ascii " > " ++
    ascii touch_spi_path ++ ascii "/cmd && cat " ++ ascii touch_spi_path ++
    ascii "/cmd_result")), ?_⟩
  rw [touchCommand, snprintf, List.take_append, List.take_of_length_le (by decide)]

/-- A command that is no `echo` takes nothing over. -/
lemma markCommand_neutral {command : List (List UInt8)}
    (h : ∀ text, command ≠ sh (ascii "echo " ++ text)) : markCommand command = .neutral := by
  have ne (cmd : String) : command ≠ touchCommand cmd := by
    obtain ⟨text, e⟩ := echo_touchCommand cmd
    rw [e]
    exact h text
  simp only [markCommand, ne, if_false]

/-- The `mkdir` is none of the marked commands. -/
lemma quiet_mkdirCommand (dir : Path) : markCommand (mkdirCommand dir) = .neutral :=
  markCommand_neutral fun _ e => absurd (List.cons.inj e).1 mkdir_ne_sh

/-- The removal of the log directory is none of the marked commands. -/
lemma quiet_rmDirCommand (dir : Path) : markCommand (rmDirCommand dir) = .neutral :=
  markCommand_neutral fun _ e => absurd (List.cons.inj e).1 rm_ne_sh

/-- The removal of the archive is none of the marked commands. -/
lemma quiet_rmLogCommand (file : Path) : markCommand (rmLogCommand file) = .neutral :=
  markCommand_neutral fun _ e => absurd (List.cons.inj e).1 rm_ne_sh

/-- The command of the IPA log is none of the marked commands. -/
lemma quiet_ipaLogCommand (dir : Path) : markCommand (ipaLogCommand dir) = .neutral := by
  apply markCommand_neutral
  intro text e
  have heads := congrArg (fun command => command[2]?.bind List.head?) e
  have cat : (ascii "cat /d/ipc_logging/ipa/log > ").head? = some 99 := by decide
  have echo : (ascii "echo ").head? = some 101 := by decide
  simp [ipaLogCommand, sh, snprintf, List.head?_take, cat, echo] at heads

/-- Copying logs is quiet. -/
lemma quiet_copyAll (destDir : Path) (logs : List LogFile) :
    (copyAll destDir logs).All (mark t).Quiet := by
  induction logs with
  | nil => exact trivial
  | cons log logs ih => exact ⟨fun _ => rfl, fun _ => ih⟩

/-- `dumpLogs` is quiet. -/
lemma quiet_dumpLogs (srcDir destDir : Path) (maxFileNum : ℤ) (logPrefix : List UInt8) :
    (dumpLogs srcDir destDir maxFileNum logPrefix).All (mark t).Quiet :=
  ⟨fun _ => rfl, fun _ => quiet_copyAll destDir _⟩

/-- What is held while the logger is stopped. -/
def stopped (diagLogStarted : Bool) : Finset Held :=
  if diagLogStarted then insert .diagMdlog ∅ else ∅

/-- Stopping leaves `diag_mdlog` stopped if it was started. -/
lemma leads_stopDiagMdlog (diagLogStarted : Bool) :
    (stopDiagMdlog diagLogStarted).Leads (mark t) ∅ fun _ => stopped diagLogStarted := by
  cases diagLogStarted with
  | false => exact Prog.balanced_ret _
  | true =>
    have opens : markProperty DIAG_MDLOG_PROPERTY "false" = .opens .diagMdlog := by decide
    apply Prog.Leads.opens (fun _ => opens) (Finset.notMem_empty _)
    intro _
    exact Prog.Leads.op (fun _ => rfl) fun _ => Prog.balanced_ret _

/-- Dumping its logs starts it again if it was started. -/
lemma leads_dumpDiagLogs (dir : Path) (diagLogStarted : Bool) :
    (dumpDiagLogs dir diagLogStarted).Leads (mark t) (stopped diagLogStarted) fun _ => ∅ := by
  apply Prog.Leads.op fun _ => rfl
  intro number
  apply (quiet_dumpLogs _ dir number _).balanced.bind
  intro _
  cases diagLogStarted with
  | false => exact Prog.balanced_ret _
  | true =>
    have closes : markProperty DIAG_MDLOG_PROPERTY "true" = .closes .diagMdlog := by decide
    exact Prog.Leads.closes (fun _ => closes) (Finset.notMem_empty _) fun _ => Prog.balanced_ret _

/-- The logs of a debug build take back the EFS property that is set for them. -/
lemma balanced_dumpDebugLogs (dir : Path) : (dumpDebugLogs dir).Balanced (mark t) ∅ := by
  have opens : markProperty MODEM_EFS_DUMP_PROPERTY "true" = .opens .efsDump := by decide
  have closes : markProperty MODEM_EFS_DUMP_PROPERTY "false" = .closes .efsDump := by decide
  have rest : (do
      copyAll dir rilAndNetmgrLogs
      let _ ← call (.runCommandToFd STDOUT_FILENO "Dump IPA log" (ipaLogCommand dir) none)
      dumpLogs extendedLogDir dir 100 EXTENDED_LOG_PREFIX
      call (.setProperty MODEM_EFS_DUMP_PROPERTY "false")).Leads (mark t)
        (insert Held.efsDump ∅) fun _ => ∅ := by
    apply (quiet_copyAll dir _).balanced.bind
    intro _
    apply Prog.Leads.op fun _ => quiet_ipaLogCommand dir
    intro _
    apply (quiet_dumpLogs _ dir _ _).balanced.bind
    intro _
    exact Prog.Leads.closes (fun _ => closes) (Finset.notMem_empty _) fun _ => Prog.balanced_ret _
  apply Prog.Leads.opens (fun _ => opens) (Finset.notMem_empty _)
  intro _
  apply (quiet_getBoolProperty _ _).balanced.bind
  intro tcpdumpEnabled
  cases tcpdumpEnabled with
  | false => exact rest
  | true =>
    apply Prog.Leads.op fun _ => rfl
    intro number
    exact (quiet_dumpLogs _ dir number _).balanced.bind fun _ => rest

/-- Writing and sending the archive is quiet. -/
lemma quiet_sendModemLog (modemLogCombined dir : Path) (fdModem : ℤ) :
    (sendModemLog modemLogCombined dir fdModem).All (mark t).Quiet :=
  ⟨fun _ => rfl, fun _ => ⟨fun _ => rfl, fun _ => ⟨fun _ => quiet_rmDirCommand dir, fun _ =>
    ⟨fun _ => quiet_rmLogCommand modemLogCombined, fun _ => trivial⟩⟩⟩⟩

/-- The body of the thread is balanced. -/
lemma balanced_dumpModem (modemLogCombined dir : Path) (fdModem : ℤ) :
    (dumpModem modemLogCombined dir fdModem).Balanced (mark t) ∅ := by
  have sends := (quiet_sendModemLog (t := t) modemLogCombined dir fdModem).balanced (q := ∅)
  have rest : (do
      call (.copyFile diagPoweronLog dir)
      if !(← call .isUserBuild) then dumpDebugLogs dir
      sendModemLog modemLogCombined dir fdModem).Balanced (mark t) ∅ := by
    apply Prog.Leads.op fun _ => rfl
    intro _
    apply Prog.Leads.op fun _ => rfl
    intro user
    cases user with
    | false => exact (balanced_dumpDebugLogs dir).bind fun _ => sends
    | true => exact sends
  apply (quiet_getBoolProperty _ _).balanced.bind
  intro diagLogEnabled
  apply (quiet_getBoolProperty _ _).balanced.bind
  intro diagLogStarted
  cases diagLogEnabled with
  | false =>
    apply Prog.Leads.op fun _ => rfl
    intro _
    apply Prog.Leads.op fun _ => quiet_mkdirCommand dir
    intro _
    exact rest
  | true =>
    apply (leads_stopDiagMdlog diagLogStarted).bind
    intro _
    apply Prog.Leads.op fun _ => rfl
    intro _
    apply Prog.Leads.op fun _ => quiet_mkdirCommand dir
    intro _
    exact (leads_dumpDiagLogs dir diagLogStarted).bind fun _ => rest

/-- The thread as it is started is balanced. -/
lemma balanced_dumpModemThread (fdModem : ℤ) : (dumpModemThread fdModem).Balanced (mark t) ∅ := by
  apply Prog.Leads.op fun _ => rfl
  intro modemLogDir
  show Prog.Balanced (mark t) (if modemLogDir = [] then _ else _) ∅
  split
  · exact Prog.balanced_ret _
  · apply Prog.Leads.op fun _ => rfl
    intro filePrefix
    show Prog.Balanced (mark t) (if filePrefix = [] then _ else _) ∅
    split
    · exact Prog.balanced_ret _
    · exact balanced_dumpModem _ _ fdModem

/-! ## The threads -/

/-- Every call of the service is balanced. -/
lemma balanced_program (c : Call) : c.program.Balanced (mark .board) ∅ := by
  cases c with
  | dumpstateBoard handle =>
    have board : (dumpstateBoard handle).Balanced (mark .board) ∅ :=
      (balanced_dumpstateBoard_1_1 handle .default).bind fun _ => Prog.balanced_ret _
    exact board.bind fun _ => Prog.balanced_ret _
  | dumpstateBoard_1_1 handle mode =>
    exact (balanced_dumpstateBoard_1_1 handle mode).bind fun _ => Prog.balanced_ret _
  | setVerboseLoggingEnabled enable =>
    have sets (value : String) : markProperty VENDOR_VERBOSE_LOGGING_ENABLED_PROPERTY value =
        .neutral := rfl
    exact Prog.Leads.op (fun _ => sets _) fun _ => Prog.balanced_ret _
  | getVerboseLoggingEnabled =>
    exact (quiet_getBoolProperty _ _).balanced.bind fun _ => Prog.balanced_ret _

/-- Whatever the modem thread is given to do is balanced. -/
lemma balanced_modemMain (fdModem : ℤ) : (modemMain fdModem).Balanced (mark .modem) ∅ := by
  apply (balanced_dumpModemThread fdModem).bind
  intro _
  exact Prog.Leads.last (fun _ => rfl) fun _ => Prog.balanced_ret _

/-- Both threads keep the protocol of what they hold in every run. -/
theorem service_balanced (io : Io) (dev : Device) :
    (service io dev).Obeys (fun t => (mark t).protocol) fun _ _ => ∅ := by
  intro t l x s p s' h
  cases goes_of_go h with
  | serve c => exact balanced_program c
  | start fdModem _ => exact balanced_modemMain fdModem

/-- The life of the thread for the modem after an operation. -/
def Modem.after : (o : Op) → o.Res → Modem → Modem
  | .pthreadCreate fdModem, ok, modem => if ok then .created fdModem else modem
  | .pthreadExit, _, _ => .ended
  | _, _, modem => modem

/-- What an operation does to the state of the modem thread. -/
lemma modem_after {dev : Device} {o : Op} {r : o.Res} {s s' : Shared}
    (h : s.act dev o r = some s') : s'.modem = s.modem.after o r := by
  cases o with
  | pthreadCreate fdModem =>
    cases h
    cases r with
    | false => rfl
    | true => rfl
  | pthreadExit => cases h; rfl
  | pthreadJoin => obtain ⟨_, rfl⟩ := of_enabled h; rfl
  | getProperty key => obtain ⟨_, rfl⟩ := of_enabled h; rfl
  | isUserBuild => obtain ⟨_, rfl⟩ := of_enabled h; rfl
  | scandir path => obtain ⟨_, rfl⟩ := of_enabled h; rfl
  | _ => cases h; rfl

/-- The binder thread has a thread to join as long as there is one, and that thread holds nothing
unless it runs. -/
structure Restoring (s : Shared) (q : Thread → Finset Held) : Prop where
  joined : .modemThread ∉ q .board → s.modem = .absent ∨ s.modem = .ended
  idle : s.modem ≠ .running → q .modem = ∅

/-- A thread that nobody has to join is not running. -/
lemma Restoring.not_running {s : Shared} {q : Thread → Finset Held} (h : Restoring s q)
    (hq : .modemThread ∉ q .board) : s.modem ≠ .running := by
  rcases h.joined hq with e | e
  · exact e ▸ Modem.noConfusion
  · exact e ▸ Modem.noConfusion

/-- The binder thread does something else than to join, and the other thread lives on. -/
lemma Restoring.board {s s' : Shared} {q : Thread → Finset Held} {m : Mark Held}
    (h : Restoring s q) (hm : m ≠ .closes .modemThread) (e : s'.modem = s.modem) :
    Restoring s' (update q .board (m.next (q .board))) := by
  constructor
  · intro hq
    rw [update_self] at hq
    rw [e]
    exact h.joined fun hb => hq (Mark.mem_next hm hb)
  · intro he
    rw [update_of_ne Thread.noConfusion]
    exact h.idle (e ▸ he)

/-- Setting a property joins no thread. -/
lemma markProperty_ne (key value : String) : markProperty key value ≠ .closes .modemThread := by
  unfold markProperty
  split
  · split <;> decide
  · split
    · split <;> decide
    · decide

/-- Running a command joins no thread. -/
lemma markCommand_ne (command : List (List UInt8)) :
    markCommand command ≠ .closes .modemThread := by
  unfold markCommand
  repeat' split
  all_goals decide

/-- An operation of the binder thread keeps the invariant. -/
lemma Restoring.act_board {dev : Device} {o : Op} {r : o.Res} {s s' : Shared}
    {q : Thread → Finset Held} (h : Restoring s q) (ok : (mark .board o r).ok (q .board))
    (st : s.act dev o r = some s') :
    Restoring s' (update q .board ((mark .board o r).next (q .board))) := by
  have after := modem_after st
  have neutral : (Mark.neutral : Mark Held) ≠ .closes .modemThread := by decide
  cases o with
  | pthreadCreate fdModem =>
    cases r with
    | false => exact h.board neutral after
    | true =>
      constructor
      · intro hq
        rw [update_self] at hq
        exact absurd (Finset.mem_insert_self _ _) hq
      · intro _
        rw [update_of_ne Thread.noConfusion]
        exact h.idle (h.not_running ok)
  | pthreadJoin =>
    obtain ⟨ended, rfl⟩ := of_enabled st
    constructor
    · exact fun _ => .inr ended
    · intro he
      rw [update_of_ne Thread.noConfusion]
      exact h.idle he
  | pthreadExit => exact ok.elim
  | setProperty key value => exact h.board (markProperty_ne key value) after
  | runCommandToFd fd title command timeout => exact h.board (markCommand_ne command) after
  | _ => exact h.board neutral after

/-- An operation of the thread for the modem keeps the invariant. -/
lemma Restoring.act_modem {dev : Device} {o : Op} {r : o.Res} {s s' : Shared}
    {q : Thread → Finset Held} {x : Finset Held} (h : Restoring s q)
    (ok : (mark .modem o r).ok (q .modem)) (running : s.modem = .running)
    (hx : x = (mark .modem o r).next (q .modem)) (st : s.act dev o r = some s') :
    Restoring s' (update q .modem x) := by
  have after := modem_after st
  by_cases exits : o = .pthreadExit
  · subst exits
    constructor
    · exact fun _ => .inr after
    · intro _
      rw [update_self, hx]
      exact ok
  · have lives : s'.modem = .running := by
      rw [after, running]
      cases o with
      | pthreadCreate fdModem => exact ok.elim
      | pthreadExit => exact absurd rfl exits
      | _ => rfl
    constructor
    · intro hq
      rw [update_of_ne Thread.noConfusion] at hq
      exact absurd running (h.not_running hq)
    · exact fun he => absurd lives he

/-- Every step keeps the invariant. -/
lemma Restoring.step {io : Io} {dev : Device} {s s' : Shared} {q q' : Thread → Finset Held}
    {l : Label sig Thread Turn EnvEvent} (h : Restoring s q)
    (st : (service io dev).PStep (fun t => (mark t).protocol) (fun _ _ => ∅) s q l s' q') :
    Restoring s' q' := by
  cases st with
  | @act t o r _ ok st =>
    cases t with
    | board => exact h.act_board (ok r) st
    | modem =>
      obtain ⟨running, st⟩ := Option.ite_none_right_eq_some.mp st
      exact Restoring.act_modem (s := { s with files := s.files.act io dev o r }) ⟨h.joined, h.idle⟩
        (ok r) running rfl st
  | go hq st =>
    cases goes_of_go st with
    | serve c => exact h
    | start fdModem created =>
      constructor
      · intro hb
        rcases h.joined hb with e | e
        · exact Modem.noConfusion (created.symm.trans e)
        · exact Modem.noConfusion (created.symm.trans e)
      · exact fun he => absurd rfl he
  | env st =>
    cases st
    exact ⟨h.joined, h.idle⟩

/-- However the request and the thread for the modem interleave: each gives back only what it has
taken over, and when the request is answered, the thread for the modem has ended, if there was one,
and everything has been given back. -/
theorem request_restores {io : Io} {dev : Device} {props : String → List UInt8}
    {left : Leftovers} {c : Config sig Thread Next (Shared × (Thread → Finset Held))}
    (run : ((service io dev).record (Machine.noteBrackets mark)).Reach
      ((service.start props left).withHistory fun _ => ∅) c) :
    (∀ t o r, (c.prog t).head? = some o → (mark t o r).ok (c.shared.2 t)) ∧
      ∀ status, c.prog .board = .ret (.answered status) →
        (c.shared.1.modem = .absent ∨ c.shared.1.modem = .ended) ∧ ∀ t, c.shared.2 t = ∅ := by
  have start : Machine.Tracks (fun t => (mark t).protocol) (fun _ _ => ∅)
      ((service.start props left).withHistory fun _ : Thread => (∅ : Finset Held)) fun _ => ∅ :=
    fun t => rfl
  obtain ⟨q, ⟨e, h⟩, tracks⟩ := Machine.Run.invariant (service_balanced io dev).record
    (I := fun x q => x.2 = q ∧ Restoring x.1 q)
    (fun x q l x' q' inv _ st => by
      obtain ⟨st, e⟩ := st.noteBrackets inv.1
      exact ⟨e, inv.2.step st⟩)
    ⟨rfl, ⟨fun _ => .inl rfl, fun _ => rfl⟩⟩ start run
  rw [e]
  constructor
  · intro t o r ho
    obtain ⟨k, hk⟩ := Prog.eq_op_of_head? ho
    exact tracks.ok hk r
  · intro status answered
    have board : q .board = ∅ := by
      have rests := tracks .board
      rw [answered] at rests
      exact rests
    have none : Held.modemThread ∉ q .board := by
      rw [board]
      exact Finset.notMem_empty _
    refine ⟨h.joined none, fun t => ?_⟩
    cases t with
    | board => exact board
    | modem => exact h.idle (h.not_running none)

/-- A debug build with a power-on log. -/
def debugBuild : Device := { logged with isUserBuild := false, diagLogEnabled := true }

/-- Verbose logging is enabled, and the logger of the modem runs. -/
def loggingProps (key : String) : List UInt8 :=
  if key = MODEM_LOG_LOC_PROPERTY then debugBuild.modemLogDir
  else if key = MODEM_LOG_PREFIX_PROPERTY then debugBuild.filePrefix
  else if key = TCPDUMP_PERSIST_PROPERTY then ascii "false"
  else ascii "true"

/-- A request with a file descriptor for the modem is answered after its thread has ended. -/
theorem request_restores_answered :
    ∃ c : Config sig Thread Next (Shared × (Thread → Finset Held)),
      c.prog .board = .ret (.answered (some .ok)) ∧ c.shared.1.modem = .ended ∧
        ∀ t, c.shared.2 t = ∅ := by
  have follows : (((service .bytewise debugBuild).record (Machine.noteBrackets mark)).follow
      (fun _ _ => True) (fun o x => answer debugBuild x.1.props o)
      [.go .board (.serve (.dumpstateBoard_1_1 (some [3, 4]) .default)), .act .board 4,
        .go .modem .start, .act .modem 100, .act .board 200]
      ((service.start loggingProps .clean).withHistory fun _ => ∅)).map
      (fun c => ((c.prog .board).value?, c.shared.1.modem)) =
      some (some (.answered (some .ok)), .ended) := by
    decide +kernel
  obtain ⟨c, run, e⟩ := Machine.exists_follow follows
  obtain ⟨answered, ended⟩ := Prod.mk.inj e
  have rests := Prog.eq_ret_of_value? answered
  exact ⟨c, rests, ended, ((request_restores run).2 _ rests).2⟩

end Redfin.Dumpstate.Service
