import Redfin.Dumpstate.Restored
import Redfin.Program.Triples

/-!
# What a dump delivers

The thread for the modem is the only one that touches the staged files and the archive, so its
operations do one after the other what `Redfin.Dumpstate.Modem` computes at once, whatever the
binder thread and other processes do meanwhile (`thread_delivers`). The properties that configure
the dump are to stay as they are until it has read them.
-/

namespace Redfin.Dumpstate.Service

open Function Program Bytes

/-- The operation reads the configuration of the device. -/
def reads (dev : Device) : (o : Op) → o.Res → Bool
  | .getProperty key, value =>
    if key = MODEM_LOG_LOC_PROPERTY then value = dev.modemLogDir
    else if key = MODEM_LOG_PREFIX_PROPERTY then value = dev.filePrefix
    else true
  | .getBoolProperty key _, value =>
    if key = DIAG_MDLOG_PERSIST_PROPERTY then value = dev.diagLogEnabled
    else if key = TCPDUMP_PERSIST_PROPERTY then value = dev.tcpdumpEnabled
    else true
  | .getIntProperty key _, value =>
    if key = DIAG_MDLOG_NUMBER_BUGREPORT then value = dev.diagMdlogNumber
    else if key = TCPDUMP_NUMBER_BUGREPORT then value = dev.tcpdumpNumber
    else true
  | .isUserBuild, user => user = dev.isUserBuild
  | .scandir path, names => names = dev.scandir path
  | _, _ => true

section

variable (io : Io) (dev : Device)

/-- What the operations of the thread do to the files, where they read the configuration. -/
def effects : Effects sig Files where
  safe _ _ := True
  act o r f := if reads dev o r then some (f.act io dev o r) else none

end

variable {io : Io} {dev : Device} {f : Files}

/-- An operation, and what follows it. -/
lemma wp_step {α : Type} {o : Op} {k : sig.Res o → Hal α} {post : α → Files → Prop}
    (h : ∀ r, reads dev o r = true → (k r).Wp (effects io dev) (f.act io dev o r) post) :
    (Prog.op o k : Hal α).Wp (effects io dev) f post := by
  refine ⟨trivial, fun r f' e => ?_⟩
  obtain ⟨hr, rfl⟩ := of_enabled e
  exact h r hr

/-! ## Staging -/

/-- Copying a list of logs changes the log directory as the model of the dump alone does. -/
lemma wp_copyAll (destDir : Path) (logs : List LogFile) :
    (copyAll destDir logs).Wp (effects io dev) f fun _ f' =>
      f' = { f with modem_log := Dumpstate.copyAll io dev destDir logs f.modem_log } := by
  induction logs generalizing f with
  | nil => exact rfl
  | cons log logs ih => exact wp_step fun _ _ => ih

/-- `dumpLogs` changes the log directory as the model of the dump alone does. -/
lemma wp_dumpLogs (srcDir destDir : Path) (maxFileNum : ℤ) (logPrefix : List UInt8) :
    (dumpLogs srcDir destDir maxFileNum logPrefix).Wp (effects io dev) f fun _ f' =>
      f' = { f with
        modem_log :=
          Dumpstate.dumpLogs io dev srcDir destDir maxFileNum logPrefix f.modem_log } := by
  apply wp_step
  intro names h
  obtain rfl : names = dev.scandir srcDir := of_decide_eq_true h
  exact wp_copyAll destDir _

/-- The first property answers whether `diag_mdlog` is enabled. -/
lemma wp_diagLogEnabled :
    (call (.getBoolProperty DIAG_MDLOG_PERSIST_PROPERTY false)).Wp (effects io dev) f fun b f' =>
      b = dev.diagLogEnabled ∧ f' = f := by
  apply wp_step
  intro value h
  exact ⟨of_decide_eq_true h, rfl⟩

/-- The property of `tcpdump` answers whether it is enabled. -/
lemma wp_tcpdumpEnabled :
    (call (.getBoolProperty TCPDUMP_PERSIST_PROPERTY false)).Wp (effects io dev) f fun b f' =>
      b = dev.tcpdumpEnabled ∧ f' = f := by
  apply wp_step
  intro value h
  exact ⟨of_decide_eq_true h, rfl⟩

/-- Reading the status of `diag_mdlog` leaves the files alone, whatever it answers. -/
lemma wp_diagLogStarted :
    (call (.getBoolProperty DIAG_MDLOG_STATUS_PROPERTY false)).Wp (effects io dev) f fun _ f' =>
      f' = f :=
  wp_step fun _ _ => rfl

/-- Stopping `diag_mdlog` leaves the files alone. -/
lemma wp_stopDiagMdlog (diagLogStarted : Bool) :
    (stopDiagMdlog diagLogStarted).Wp (effects io dev) f fun _ f' => f' = f := by
  cases diagLogStarted with
  | false => exact rfl
  | true => exact wp_step fun _ _ => wp_step fun _ _ => rfl

/-- The logs of the logger, over the files that are there. -/
lemma wp_dumpDiagLogs (dir : Path) (diagLogStarted : Bool) :
    (dumpDiagLogs dir diagLogStarted).Wp (effects io dev) f fun _ f' =>
      f' = { f with
        modem_log := Dumpstate.dumpLogs io dev diagLogDir dir dev.diagMdlogNumber DIAG_LOG_PREFIX
          f.modem_log } := by
  apply wp_step
  intro number h
  obtain rfl : number = dev.diagMdlogNumber := of_decide_eq_true h
  apply (wp_dumpLogs _ dir _ _).bind
  intro _ f' e
  cases diagLogStarted with
  | false => exact e
  | true => exact wp_step fun _ _ => e

/-- The command that dumps the IPA log fits its buffer. -/
lemma ipaLogCommand_eq (dev : Device) :
    ipaLogCommand dev.modemLogAllDir = sh (ipaLogScript dev.modemLogAllDir) := by
  have cat : (ascii "cat /d/ipc_logging/ipa/log > ").length = 29 := by decide
  have dir : (ascii "/modem_log").length = 10 := by decide
  have log : (ascii "/ipa_log").length = 8 := by decide
  have fits : (ipaLogScript dev.modemLogAllDir).length ≤ 256 - 1 := by
    have short := dev.modemLogDir_le
    simp only [ipaLogScript, Device.modemLogAllDir, List.length_append, cat, dir, log]
    omega
  exact congrArg sh (List.take_of_length_le fits)

/-- The logs of a debug build, over the files that are there. -/
def debugLogs (io : Io) (dev : Device) (dir : Path) (modem_log : Dir) : Dir :=
  Dumpstate.dumpLogs io dev extendedLogDir dir 100 EXTENDED_LOG_PREFIX <|
    dumpIpaLog io dev dir <|
      Dumpstate.copyAll io dev dir rilAndNetmgrLogs <|
        if dev.tcpdumpEnabled then
          Dumpstate.dumpLogs io dev tcpdumpLogDir dir dev.tcpdumpNumber TCPDUMP_LOG_PREFIX modem_log
        else modem_log

/-- What the command of the IPA log does to the files. -/
lemma run_ipaLog (removal : Removal) :
    f.run io dev (ipaLogCommand dev.modemLogAllDir) removal =
      { f with modem_log := dumpIpaLog io dev dev.modemLogAllDir f.modem_log } :=
  if_pos (ipaLogCommand_eq dev)

/-- The `mkdir` leaves the files alone. -/
lemma run_mkdir (removal : Removal) : f.run io dev (mkdirCommand dev.modemLogAllDir) removal = f := by
  have script : mkdirCommand dev.modemLogAllDir ≠ sh (ipaLogScript dev.modemLogAllDir) :=
    fun e => mkdir_ne_sh (List.cons.inj e).1
  have rmDir : mkdirCommand dev.modemLogAllDir ≠ rmDirCommand dev.modemLogAllDir :=
    fun e => mkdir_ne_rm (List.cons.inj e).1
  have rmLog : mkdirCommand dev.modemLogAllDir ≠ rmLogCommand dev.modemLogCombined :=
    fun e => mkdir_ne_rm (List.cons.inj e).1
  rw [Files.run, if_neg script, if_neg rmDir, if_neg rmLog]

/-- What the `rm -r` of the log directory does to the files, however far it gets. -/
lemma run_rmDir (removal : Removal) :
    f.run io dev (rmDirCommand dev.modemLogAllDir) removal =
      { f with
        modem_log := removal.names.foldl (fun dir d_name => dir.erase d_name) f.modem_log } := by
  have script : rmDirCommand dev.modemLogAllDir ≠ sh (ipaLogScript dev.modemLogAllDir) :=
    fun e => rm_ne_sh (List.cons.inj e).1
  rw [Files.run, if_neg script, if_pos rfl]

/-- What the `rm` of the archive does to the files. -/
lemma run_rmLog (removal : Removal) :
    f.run io dev (rmLogCommand dev.modemLogCombined) removal =
      { f with combined := if removal.file then [] else f.combined } := by
  have script : rmLogCommand dev.modemLogCombined ≠ sh (ipaLogScript dev.modemLogAllDir) :=
    fun e => rm_ne_sh (List.cons.inj e).1
  have rmDir : rmLogCommand dev.modemLogCombined ≠ rmDirCommand dev.modemLogAllDir :=
    fun e => absurd (congrArg List.length e) (show ¬2 = 3 by decide)
  rw [Files.run, if_neg script, if_neg rmDir, if_pos rfl]

/-- The logs of a debug build, in the service and in the model of the dump alone. -/
lemma wp_dumpDebugLogs :
    (dumpDebugLogs dev.modemLogAllDir).Wp (effects io dev) f fun _ f' =>
      f' = { f with modem_log := debugLogs io dev dev.modemLogAllDir f.modem_log } := by
  have rest (f₁ : Files) : (do
      copyAll dev.modemLogAllDir rilAndNetmgrLogs
      let _ ← call (.runCommandToFd STDOUT_FILENO "Dump IPA log"
        (ipaLogCommand dev.modemLogAllDir) none)
      dumpLogs extendedLogDir dev.modemLogAllDir 100 EXTENDED_LOG_PREFIX
      call (.setProperty MODEM_EFS_DUMP_PROPERTY "false")).Wp (effects io dev) f₁ fun _ f' =>
        f' = { f₁ with
          modem_log :=
            Dumpstate.dumpLogs io dev extendedLogDir dev.modemLogAllDir 100 EXTENDED_LOG_PREFIX <|
              dumpIpaLog io dev dev.modemLogAllDir <|
                Dumpstate.copyAll io dev dev.modemLogAllDir rilAndNetmgrLogs f₁.modem_log } := by
    apply (wp_copyAll _ _).bind
    rintro _ f₂ rfl
    apply wp_step
    intro removal _
    show Prog.Wp _ _ (Files.run io dev _ (ipaLogCommand dev.modemLogAllDir) removal) _
    rw [run_ipaLog]
    apply (wp_dumpLogs _ _ _ _).bind
    rintro _ f₃ rfl
    exact wp_step fun _ _ => rfl
  apply wp_step
  intro _ _
  apply wp_tcpdumpEnabled.bind
  rintro tcpdumpEnabled f₁ ⟨e, rfl⟩
  subst e
  unfold debugLogs
  cases dev.tcpdumpEnabled with
  | false => exact rest _
  | true =>
    apply wp_step
    intro number hn
    obtain rfl : number = dev.tcpdumpNumber := of_decide_eq_true hn
    apply (wp_dumpLogs _ _ _ _).bind
    rintro _ f₂ rfl
    exact rest _

/-! ## The whole thread -/

/-- The files after a dump to a file descriptor of the modem: what has been removed of the staged
files, and whether the archive has been, is for the commands to say. -/
inductive Delivered (io : Io) (dev : Device) (left : Leftovers) (fdModem : ℤ) : Files → Prop where
  | unset :
    dev.modemLogDir = [] ∨ dev.filePrefix = [] →
    Delivered io dev left fdModem (.of left)
  | sent (names : List FileName) (removed : Bool) :
    dev.modemLogDir ≠ [] →
    dev.filePrefix ≠ [] →
    Delivered io dev left fdModem {
      modem_log := names.foldl (fun dir d_name => dir.erase d_name)
        (stage io dev dev.modemLogAllDir left.modem_log)
      combined := if removed then [] else archived io dev left
      sent := update (fun _ => []) fdModem (Dumpstate.dumpModemThread io dev left) }

variable {left : Leftovers} {fdModem : ℤ}

/-- From the staged directory on, the archive is written, sent and removed. -/
lemma wp_sendModemLog (hd : dev.modemLogDir ≠ []) (hp : dev.filePrefix ≠ [])
    (e : f = { Files.of left with
      modem_log := stage io dev dev.modemLogAllDir left.modem_log }) :
    (sendModemLog dev.modemLogCombined dev.modemLogAllDir fdModem).Wp (effects io dev) f fun _ =>
      Delivered io dev left fdModem := by
  subst e
  apply wp_step
  intro _ _
  apply wp_step
  intro _ _
  apply wp_step
  intro removal _
  apply wp_step
  intro removal' _
  show Delivered _ _ _ _ (Files.run io dev (Files.run io dev _ _ removal) _ removal')
  rw [run_rmDir, run_rmLog]
  have sent : Dumpstate.dumpModemThread io dev left =
      [] ++ sendLoop io.modem 0 (io.split dev.modemLogCombined (archived io dev left)) := by
    rw [Dumpstate.dumpModemThread, if_neg hd, if_neg hp]
    rfl
  have delivered : Delivered io dev left fdModem _ := .sent removal.names removal'.file hd hp
  rw [sent] at delivered
  exact delivered

/-- What the logger has written, if logging is enabled, over what was left behind. -/
def diagLogs (io : Io) (dev : Device) (dir : Path) (modem_log : Dir) : Dir :=
  if dev.diagLogEnabled then
    Dumpstate.dumpLogs io dev diagLogDir dir dev.diagMdlogNumber DIAG_LOG_PREFIX modem_log
  else modem_log

/-- The staging in two parts: the logs of a debug build come after all others. -/
lemma stage_eq (io : Io) (dev : Device) (dir : Path) (modem_log : Dir) :
    stage io dev dir modem_log =
      if dev.isUserBuild then copyInto io dev dir diagPoweronLog (diagLogs io dev dir modem_log)
      else debugLogs io dev dir (copyInto io dev dir diagPoweronLog (diagLogs io dev dir modem_log)) :=
  rfl

/-- The body of the thread delivers the archive when both properties are set. -/
lemma wp_dumpModem (hd : dev.modemLogDir ≠ []) (hp : dev.filePrefix ≠ []) :
    (dumpModem dev.modemLogCombined dev.modemLogAllDir fdModem).Wp (effects io dev) (.of left)
      fun _ => Delivered io dev left fdModem := by
  have rest : (do
      call (.copyFile diagPoweronLog dev.modemLogAllDir)
      if !(← call .isUserBuild) then dumpDebugLogs dev.modemLogAllDir
      sendModemLog dev.modemLogCombined dev.modemLogAllDir fdModem).Wp (effects io dev)
        { Files.of left with modem_log := diagLogs io dev dev.modemLogAllDir left.modem_log }
        fun _ => Delivered io dev left fdModem := by
    apply wp_step
    intro _ _
    apply wp_step
    intro user hu
    obtain rfl : user = dev.isUserBuild := of_decide_eq_true hu
    have staged := stage_eq io dev dev.modemLogAllDir left.modem_log
    cases user : dev.isUserBuild with
    | false =>
      rw [user] at staged
      apply wp_dumpDebugLogs.bind
      rintro _ f₁ rfl
      exact wp_sendModemLog hd hp (congrArg (Files.mk · _ _) staged.symm)
    | true =>
      rw [user] at staged
      exact wp_sendModemLog hd hp (congrArg (Files.mk · _ _) staged.symm)
  have mkdir {k : Removal → Hal Unit} {f : Files} {post : Unit → Files → Prop}
      (hk : ∀ removal, (k removal).Wp (effects io dev) f post) :
      (Prog.op (Op.runCommandToFd STDOUT_FILENO "MKDIR MODEM LOG"
        (mkdirCommand dev.modemLogAllDir) (some 2)) k : Hal Unit).Wp (effects io dev) f post := by
    apply wp_step
    intro removal _
    show Prog.Wp _ _ (Files.run io dev f (mkdirCommand dev.modemLogAllDir) removal) _
    rw [run_mkdir]
    exact hk removal
  apply wp_diagLogEnabled.bind
  rintro diagLogEnabled f₁ ⟨e, rfl⟩
  subst e
  apply wp_diagLogStarted.bind
  rintro diagLogStarted f₂ rfl
  unfold diagLogs at rest
  cases enabled : dev.diagLogEnabled with
  | false =>
    rw [enabled] at rest
    apply wp_step
    intro _ _
    apply mkdir
    intro _
    exact rest
  | true =>
    rw [enabled] at rest
    apply (wp_stopDiagMdlog diagLogStarted).bind
    rintro _ f₃ rfl
    apply wp_step
    intro _ _
    apply mkdir
    intro _
    apply (wp_dumpDiagLogs dev.modemLogAllDir diagLogStarted).bind
    rintro _ f₄ rfl
    exact rest

/-- The thread as it is started delivers the archive, or nothing. -/
lemma wp_dumpModemThread :
    (dumpModemThread fdModem).Wp (effects io dev) (.of left) fun _ =>
      Delivered io dev left fdModem := by
  apply wp_step
  intro modemLogDir hd
  obtain rfl : modemLogDir = dev.modemLogDir := of_decide_eq_true hd
  show Prog.Wp _ (if dev.modemLogDir = [] then _ else _) _ _
  split
  · rename_i unset
    exact .unset (.inl unset)
  · rename_i hd
    apply wp_step
    intro filePrefix hp
    obtain rfl : filePrefix = dev.filePrefix := of_decide_eq_true hp
    show Prog.Wp _ (if dev.filePrefix = [] then _ else _) _ _
    split
    · rename_i unset
      exact .unset (.inr unset)
    · rename_i hp
      exact wp_dumpModem hd hp

/-- Where the thread for the modem rests, with the files that it has left. -/
def restsDelivered (io : Io) (dev : Device) (left : Leftovers) : Next → Files → Prop
  | .absent, f => f = .of left
  | .finished fdModem, f => Delivered io dev left fdModem f
  | _, _ => False

/-- The properties and the directories are read as the device has them. -/
def configured (dev : Device) (_ : Shared) : Label sig Thread Turn EnvEvent → Prop
  | .act _ o r => reads dev o r = true
  | _ => True

/-- An operation on the shared state leaves the files alone. -/
lemma files_after {o : Op} {r : o.Res} {s s' : Shared} (h : s.act dev o r = some s') :
    s'.files = s.files := by
  cases o with
  | pthreadCreate fdModem =>
    cases h
    cases r with
    | false => rfl
    | true => rfl
  | pthreadJoin => obtain ⟨_, rfl⟩ := of_enabled h; rfl
  | getProperty key => obtain ⟨_, rfl⟩ := of_enabled h; rfl
  | isUserBuild => obtain ⟨_, rfl⟩ := of_enabled h; rfl
  | scandir path => obtain ⟨_, rfl⟩ := of_enabled h; rfl
  | _ => cases h; rfl

/-- The staged files and the archive are those of the thread for the modem. -/
theorem owns_files :
    (service io dev).Owns (configured dev) .modem Shared.files (effects io dev)
      (restsDelivered io dev left) where
  act {o r s s'} hG st := by
    obtain ⟨_, st⟩ := Option.ite_none_right_eq_some.mp st
    rw [files_after st]
    exact if_pos hG
  other {t o r s s'} ne st := by
    cases t with
    | board => exact files_after st
    | modem => exact absurd rfl ne
  go _ st rests := by
    cases goes_of_go st with
    | start fdModem _ =>
      rw [rests]
      apply wp_dumpModemThread.bind
      intro _ f delivered
      exact wp_step fun _ _ => delivered
  goOther ne st := by
    cases goes_of_go st with
    | serve c => exact rfl
    | start fdModem _ => exact absurd rfl ne
  env st := by
    cases st
    rfl

variable {props : String → List UInt8} {c : Config sig Thread Next Shared}

/-- When the thread for the modem has ended, the files are those of a dump. -/
lemma delivered
    (run : (service io dev).Run (configured dev) (service.start props left) c)
    (finished : c.prog .modem = .ret (.finished fdModem)) :
    Delivered io dev left fdModem c.shared.files := by
  have start : ((service.start props left).prog .modem).Wp (effects io dev)
      (service.start props left).shared.files (restsDelivered io dev left) := rfl
  have wp := run.wp owns_files start
  rw [finished] at wp
  exact wp

/-- However the dump interleaves with the request and with other processes: when its thread has
ended, the file descriptor it was created for has received what the dump computes from the logs and
from what was left behind, and the archive has been sent to no other. (What the commands write to
the standard output and the request to its own file descriptor is not counted here.) -/
theorem thread_delivers
    (run : (service io dev).Run (configured dev) (service.start props left) c)
    (finished : c.prog .modem = .ret (.finished fdModem)) :
    c.shared.files.sent =
      update (fun _ => []) fdModem (Dumpstate.dumpModemThread io dev left) := by
  have files := delivered run finished
  generalize c.shared.files = f at files ⊢
  cases files with
  | unset unset =>
    have none : Dumpstate.dumpModemThread io dev left = [] := by
      rcases unset with hd | hp
      · exact if_pos hd
      · exact (ite_congr rfl (fun _ => rfl) fun _ => if_pos hp).trans (ite_self [])
    rw [none]
    exact (update_eq_self fdModem fun _ : ℤ => ([] : List UInt8)).symm
  | sent names removed _ _ => rfl

instance (dev : Device) (s : Shared) (l : Label sig Thread Turn EnvEvent) :
    Decidable (configured dev s l) :=
  match l with
  | .act _ o r => inferInstanceAs (Decidable (reads dev o r = true))
  | .go _ _ => inferInstanceAs (Decidable True)
  | .env _ => inferInstanceAs (Decidable True)

/-- The dump of a debug build, between the first operations and the last of a request. -/
theorem thread_delivers_debugBuild :
    ∃ c : Config sig Thread Next Shared,
      (c.prog .board).head? = some .pthreadJoin ∧ c.prog .modem = .ret (.finished 4) ∧
        c.shared.files.sent =
          update (fun _ => []) 4 (Dumpstate.dumpModemThread .bytewise debugBuild .clean) := by
  have follows : ((service .bytewise debugBuild).follow (configured debugBuild)
      (fun o s => answer debugBuild s.props o)
      [.go .board (.serve (.dumpstateBoard_1_1 (some [3, 4]) .default)), .act .board 50,
        .go .modem .start, .act .modem 100, .act .board 58]
      (service.start loggingProps .clean)).map
      (fun c => ((c.prog .board).head?, (c.prog .modem).value?)) =
      some (some .pthreadJoin, some (.finished 4)) := by
    decide +kernel
  obtain ⟨c, run, e⟩ := Machine.exists_follow follows
  obtain ⟨joins, finished⟩ := Prod.mk.inj e
  have finished := Prog.eq_ret_of_value? finished
  exact ⟨c, joins, finished, thread_delivers run finished⟩

end Redfin.Dumpstate.Service
