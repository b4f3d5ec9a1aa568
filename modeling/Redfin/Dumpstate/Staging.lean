import Redfin.Dumpstate.Modem

/-!
# The staged files

With complete input and output, staging is a list of steps that depends on the device only
(`stage_complete`). The steps write to different files (`nodup_steps`), so the content of a staged
file is its log, laid over what was left behind under its name.

However the input and output turn out, what all copies preserve, staging preserves (`stage_rel`):
each staged file depends on what was there of it and on no other file (`lookup_stage_congr`), and no
file is hidden or grows over the length of files.
-/

namespace Redfin.Dumpstate

open Bytes

/-! ## Staging as a list of steps -/

/-- A log as it is staged; `truncates` says whether its file is opened with `O_TRUNC`. -/
structure Step where
  truncates : Bool
  name : FileName
  bytes : List UInt8

/-- What the file holds afterwards. -/
def Step.content (step : Step) (old : Option (List UInt8)) : List UInt8 :=
  if step.truncates then step.bytes else overlay step.bytes (old.getD [])

def Step.apply (dir : Dir) (step : Step) : Dir :=
  dir.insert step.name (step.content (dir.lookup step.name))

def applySteps (steps : List Step) (dir : Dir) : Dir := steps.foldl Step.apply dir

/-- Steps one after the other. -/
lemma applySteps_append (steps steps' : List Step) (dir : Dir) :
    applySteps (steps ++ steps') dir = applySteps steps' (applySteps steps dir) :=
  List.foldl_append

section

variable {io : Io} {dev : Device}

/-- The copy of a log, if its file opens. -/
def Device.copyStep (dev : Device) (log : LogFile) : Option Step :=
  (dev.file (log.basename.path log.dir)).map fun bytes => ⟨false, log.basename, bytes⟩

/-- The names `dumpLogs` copies. -/
def Device.selected (dev : Device) (srcDir : Path) (maxFileNum : ℤ) (logPrefix : List UInt8) :
    List FileName :=
  logsToCopy (dev.scandir srcDir) maxFileNum logPrefix

/-- The copies of `dumpLogs`. -/
def Device.dumpSteps (dev : Device) (srcDir : Path) (maxFileNum : ℤ) (logPrefix : List UInt8) :
    List Step :=
  ((dev.selected srcDir maxFileNum logPrefix).map (⟨srcDir, ·⟩)).filterMap dev.copyStep

/-- The steps of a run. -/
def Device.steps (dev : Device) : List Step :=
  (if dev.diagLogEnabled then dev.dumpSteps diagLogDir dev.diagMdlogNumber DIAG_LOG_PREFIX
    else []) ++
  (dev.copyStep diagPoweronLog).toList ++
  if dev.isUserBuild then []
  else
    (if dev.tcpdumpEnabled then dev.dumpSteps tcpdumpLogDir dev.tcpdumpNumber TCPDUMP_LOG_PREFIX
      else []) ++
    rilAndNetmgrLogs.filterMap dev.copyStep ++ [⟨true, ipaLogName, dev.ipaLog⟩] ++
    dev.dumpSteps extendedLogDir 100 EXTENDED_LOG_PREFIX

/-- Writing a file's own content into it changes nothing. -/
lemma insert_self {dir : Dir} {d_name : FileName} {bytes : List UInt8}
    (h : dir.lookup d_name = some bytes) : dir.insert d_name bytes = dir := by
  apply Finmap.ext_lookup
  intro n
  by_cases hn : n = d_name
  · rw [hn, Finmap.lookup_insert, h]
  · rw [Finmap.lookup_insert_of_ne _ hn]

/-- With complete input and output a copy is a step of the device, or nothing. -/
lemma copyInto_complete (hio : io.Complete) (destDir : Path) (log : LogFile) (dir : Dir) :
    copyInto io dev destDir log dir = applySteps (dev.copyStep log).toList dir := by
  cases src : dev.file (log.basename.path log.dir) with
  | none =>
    simp only [copyInto, Device.copyStep, src, Option.map_none, copyFile]
    cases old : dir.lookup log.basename with
    | none => exact rfl
    | some bytes => exact insert_self old
  | some bytes =>
    simp only [copyInto, Device.copyStep, src, Option.map_some, hio.opens,
      copyFile_complete (hio.writes _), hio.flatten_split]
    exact rfl

/-- A list of copies is the list of their steps. -/
lemma copyAll_complete (hio : io.Complete) (destDir : Path) (logs : List LogFile) (dir : Dir) :
    copyAll io dev destDir logs dir = applySteps (logs.filterMap dev.copyStep) dir := by
  induction logs generalizing dir with
  | nil => exact rfl
  | cons log logs ih =>
    have first : copyInto io dev destDir log dir = applySteps (dev.copyStep log).toList dir :=
      copyInto_complete hio destDir log dir
    have rest := ih (copyInto io dev destDir log dir)
    have e : copyAll io dev destDir (log :: logs) dir =
        copyAll io dev destDir logs (copyInto io dev destDir log dir) := rfl
    rw [e, rest, first, ← applySteps_append]
    cases h : dev.copyStep log with
    | none => rw [List.filterMap_cons_none h]; exact rfl
    | some step => rw [List.filterMap_cons_some h]; exact rfl

/-- Complete staging is the list of the device's steps, whatever the chunks and the paths. -/
lemma stage_complete (hio : io.Complete) (modemLogAllDir : Path) (dir : Dir) :
    stage io dev modemLogAllDir dir = applySteps dev.steps dir := by
  unfold stage Device.steps dumpLogs dumpIpaLog
  simp only [copyAll_complete hio, copyInto_complete hio, hio.opens, if_true]
  cases dev.diagLogEnabled <;> cases dev.isUserBuild <;> cases dev.tcpdumpEnabled <;>
    simp only [applySteps_append, Bool.false_eq_true, if_true, if_false] <;> exact rfl

end

/-! ## What becomes of a file -/

/-- A step gives its own file its content. -/
lemma lookup_apply (step : Step) (dir : Dir) :
    (step.apply dir).lookup step.name = some (step.content (dir.lookup step.name)) :=
  Finmap.lookup_insert _

/-- A step leaves every other file alone. -/
lemma lookup_apply_of_ne {step : Step} {d_name : FileName} (h : d_name ≠ step.name) (dir : Dir) :
    (step.apply dir).lookup d_name = dir.lookup d_name :=
  Finmap.lookup_insert_of_ne _ h

/-- A file that no step writes is left as it is. -/
lemma lookup_steps_of_notMem {steps : List Step} {d_name : FileName}
    (h : d_name ∉ steps.map Step.name) (dir : Dir) :
    (applySteps steps dir).lookup d_name = dir.lookup d_name := by
  induction steps generalizing dir with
  | nil => exact rfl
  | cons step steps ih =>
    rw [List.map_cons, List.mem_cons, not_or] at h
    exact (ih h.2 (step.apply dir)).trans (lookup_apply_of_ne h.1 dir)

/-- Where the steps write to different files, each of them has its file to itself. -/
lemma lookup_steps_of_mem {steps : List Step} (h : (steps.map Step.name).Nodup) {step : Step}
    (hs : step ∈ steps) (dir : Dir) :
    (applySteps steps dir).lookup step.name = some (step.content (dir.lookup step.name)) := by
  induction steps generalizing dir with
  | nil => exact absurd hs List.not_mem_nil
  | cons first steps ih =>
    rw [List.map_cons, List.nodup_cons] at h
    rcases List.mem_cons.mp hs with rfl | hs
    · exact (lookup_steps_of_notMem h.1 (step.apply dir)).trans (lookup_apply step dir)
    · have other : step.name ≠ first.name := by
        intro e
        exact h.1 (e ▸ List.mem_map_of_mem hs)
      rw [← lookup_apply_of_ne other dir]
      exact ih h.2 hs (first.apply dir)

/-- The steps add exactly the names that they write. -/
lemma mem_steps {steps : List Step} {dir : Dir} {d_name : FileName} :
    d_name ∈ applySteps steps dir ↔ d_name ∈ dir ∨ d_name ∈ steps.map Step.name := by
  induction steps generalizing dir with
  | nil => simp [applySteps]
  | cons step steps ih =>
    have e : applySteps (step :: steps) dir = applySteps steps (step.apply dir) := rfl
    rw [e, ih, Step.apply, Finmap.mem_insert, List.map_cons, List.mem_cons]
    tauto

/-! ## The names of the staged files -/

variable {dev : Device}

/-- The names of the logs with a fixed path. -/
def fixedNames : List FileName :=
  diagPoweronLog.basename :: rilAndNetmgrLogs.map LogFile.basename ++ [ipaLogName]

/-- All names a run may stage, in the order of the steps. -/
def Device.logNames (dev : Device) : List FileName :=
  dev.selected diagLogDir dev.diagMdlogNumber DIAG_LOG_PREFIX ++ ([diagPoweronLog.basename] ++
    (dev.selected tcpdumpLogDir dev.tcpdumpNumber TCPDUMP_LOG_PREFIX ++
      (rilAndNetmgrLogs.map LogFile.basename ++ ([ipaLogName] ++
        dev.selected extendedLogDir 100 EXTENDED_LOG_PREFIX))))

/-- The steps of a list of copies write only these logs. -/
lemma names_copySteps (dev : Device) (logs : List LogFile) :
    ((logs.filterMap dev.copyStep).map Step.name).Sublist (logs.map LogFile.basename) := by
  induction logs with
  | nil => exact .slnil
  | cons log logs ih =>
    cases h : dev.file (log.basename.path log.dir) with
    | none =>
      have none : dev.copyStep log = none := by rw [Device.copyStep, h]; rfl
      rw [List.filterMap_cons_none none]
      exact ih.cons _
    | some bytes =>
      have some : dev.copyStep log = some ⟨false, log.basename, bytes⟩ := by
        rw [Device.copyStep, h]; rfl
      rw [List.filterMap_cons_some some]
      exact ih.cons_cons _

/-- The steps of one `dumpLogs` write only names that it selects. -/
lemma names_dumpSteps (srcDir : Path) (maxFileNum : ℤ) (logPrefix : List UInt8) :
    ((dev.dumpSteps srcDir maxFileNum logPrefix).map Step.name).Sublist
      (dev.selected srcDir maxFileNum logPrefix) := by
  have h := names_copySteps dev
    ((dev.selected srcDir maxFileNum logPrefix).map (⟨srcDir, ·⟩))
  rwa [List.map_map, show LogFile.basename ∘ (⟨srcDir, ·⟩) = id from rfl, List.map_id] at h

/-- The steps of a dump write only the names of logs. -/
lemma names_steps : (dev.steps.map Step.name).Sublist dev.logNames := by
  unfold Device.steps Device.logNames
  simp only [List.map_append, List.append_assoc]
  refine .append ?_ (.append ?_ ?_)
  · split
    · exact names_dumpSteps _ _ _
    · exact List.nil_sublist _
  · have h := names_copySteps dev [diagPoweronLog]
    cases e : dev.copyStep diagPoweronLog with
    | none => exact List.nil_sublist _
    | some step => rwa [List.filterMap_cons_some e] at h
  · split
    · exact List.nil_sublist _
    · simp only [List.map_append]
      refine .append ?_ (.append (names_copySteps dev _) (.append (.refl _) ?_))
      · split
        · exact names_dumpSteps _ _ _
        · exact List.nil_sublist _
      · exact names_dumpSteps _ _ _

/-- The prefixes of the logs that are selected by their names. -/
def logPrefixes : List (List UInt8) := [DIAG_LOG_PREFIX, TCPDUMP_LOG_PREFIX, EXTENDED_LOG_PREFIX]

/-- The fixed names are different. -/
lemma nodup_fixedNames : fixedNames.Nodup := by decide +kernel

/-- No fixed name starts with one of the prefixes. -/
lemma fixed_not_prefixed : ∀ d_name ∈ fixedNames, ∀ logPrefix ∈ logPrefixes,
    ¬logPrefix <+: d_name.bytes := by
  decide +kernel

/-- No prefix starts with another. -/
lemma prefixes_apart : ∀ logPrefix ∈ logPrefixes, ∀ logPrefix' ∈ logPrefixes,
    logPrefix <+: logPrefix' → logPrefix = logPrefix' := by
  decide +kernel

section

variable {logPrefix logPrefix' : List UInt8} {a b : FileName}

/-- Names that are selected by different prefixes are different. -/
lemma prefixed_ne (hp : logPrefix ∈ logPrefixes) (hp' : logPrefix' ∈ logPrefixes)
    (h : logPrefix ≠ logPrefix') (ha : logPrefix <+: a.bytes) (hb : logPrefix' <+: b.bytes) :
    a ≠ b := by
  rintro rfl
  rcases List.prefix_or_prefix_of_prefix ha hb with hle | hle
  · exact h (prefixes_apart _ hp _ hp' hle)
  · exact h (prefixes_apart _ hp' _ hp hle).symm

/-- A name that starts with a prefix is not a fixed one. -/
lemma prefixed_ne_fixed (hp : logPrefix ∈ logPrefixes) (ha : logPrefix <+: a.bytes)
    (hb : b ∈ fixedNames) : a ≠ b := by
  rintro rfl
  exact fixed_not_prefixed a hb logPrefix hp ha

end

/-- No name is selected twice. -/
lemma nodup_selected (srcDir : Path) (maxFileNum : ℤ) (logPrefix : List UInt8) :
    (dev.selected srcDir maxFileNum logPrefix).Nodup :=
  nodup_logsToCopy (dev.scandir_nodup srcDir)

/-- A selected name starts with the prefix that is asked for. -/
lemma prefix_of_mem_selected {srcDir : Path} {maxFileNum : ℤ} {logPrefix : List UInt8}
    {d_name : FileName} (h : d_name ∈ dev.selected srcDir maxFileNum logPrefix) :
    logPrefix <+: d_name.bytes :=
  prefix_of_mem_logsToCopy h

/-- The name of a log is fixed or starts with a prefix. -/
lemma mem_logNames {d_name : FileName} (h : d_name ∈ dev.logNames) :
    d_name ∈ fixedNames ∨ ∃ logPrefix ∈ logPrefixes, logPrefix <+: d_name.bytes := by
  simp only [Device.logNames, List.mem_append] at h
  rcases h with h | h | h | h | h | h
  · exact .inr ⟨_, .head _, prefix_of_mem_selected h⟩
  · exact .inl (List.mem_append_left _ (List.mem_singleton.mp h ▸ .head _))
  · exact .inr ⟨_, .tail _ (.head _), prefix_of_mem_selected h⟩
  · exact .inl (List.mem_append_left _ (.tail _ h))
  · exact .inl (List.mem_append_right _ h)
  · exact .inr ⟨_, .tail _ (.tail _ (.head _)), prefix_of_mem_selected h⟩

/-- No two logs are staged under one name. -/
lemma nodup_logNames : dev.logNames.Nodup := by
  have diag : DIAG_LOG_PREFIX ∈ logPrefixes := .head _
  have tcpdump : TCPDUMP_LOG_PREFIX ∈ logPrefixes := .tail _ (.head _)
  have extended : EXTENDED_LOG_PREFIX ∈ logPrefixes := .tail _ (.tail _ (.head _))
  have poweron : diagPoweronLog.basename ∈ fixedNames := .head _
  have ril {d_name} (h : d_name ∈ rilAndNetmgrLogs.map LogFile.basename) : d_name ∈ fixedNames :=
    List.mem_append_left _ (.tail _ h)
  have ipa : ipaLogName ∈ fixedNames := List.mem_append_right _ (.head _)
  obtain ⟨poweron_others, others⟩ := List.nodup_cons.mp nodup_fixedNames
  obtain ⟨nodup_ril, -, ril_ipa⟩ := List.nodup_append.mp others
  unfold Device.logNames
  simp only [List.nodup_append, List.mem_append, List.mem_singleton]
  refine ⟨nodup_selected _ _ _, ⟨List.nodup_singleton _, ⟨nodup_selected _ _ _, ⟨nodup_ril,
    ⟨List.nodup_singleton _, nodup_selected _ _ _, ?_⟩, ?_⟩, ?_⟩, ?_⟩, ?_⟩
  · rintro a rfl b hb
    exact (prefixed_ne_fixed extended (prefix_of_mem_selected hb) ipa).symm
  · rintro a ha b (rfl | hb)
    · exact ril_ipa a ha ipaLogName (.head _)
    · exact (prefixed_ne_fixed extended (prefix_of_mem_selected hb) (ril ha)).symm
  · rintro a ha b (hb | rfl | hb)
    · exact prefixed_ne_fixed tcpdump (prefix_of_mem_selected ha) (ril hb)
    · exact prefixed_ne_fixed tcpdump (prefix_of_mem_selected ha) ipa
    · exact prefixed_ne tcpdump extended (by decide +kernel) (prefix_of_mem_selected ha)
        (prefix_of_mem_selected hb)
  · rintro a rfl b (hb | hb | rfl | hb)
    · exact (prefixed_ne_fixed tcpdump (prefix_of_mem_selected hb) poweron).symm
    · rintro rfl
      exact poweron_others (List.mem_append_left _ hb)
    · intro eq
      exact poweron_others (List.mem_append_right _ (List.mem_singleton.mpr eq))
    · exact (prefixed_ne_fixed extended (prefix_of_mem_selected hb) poweron).symm
  · rintro a ha b (rfl | hb | hb | rfl | hb)
    · exact prefixed_ne_fixed diag (prefix_of_mem_selected ha) poweron
    · exact prefixed_ne diag tcpdump (by decide +kernel) (prefix_of_mem_selected ha)
        (prefix_of_mem_selected hb)
    · exact prefixed_ne_fixed diag (prefix_of_mem_selected ha) (ril hb)
    · exact prefixed_ne_fixed diag (prefix_of_mem_selected ha) ipa
    · exact prefixed_ne diag extended (by decide +kernel) (prefix_of_mem_selected ha)
        (prefix_of_mem_selected hb)

/-- No two steps of a dump write the same file, so that their order does not matter. -/
theorem nodup_steps (dev : Device) : (dev.steps.map Step.name).Nodup :=
  nodup_logNames.sublist names_steps

/-- No fixed name starts with a dot. -/
lemma visible_fixed : ∀ d_name ∈ fixedNames, d_name.bytes.head? ≠ some 46 := by decide +kernel

/-- No prefix is empty or starts with a dot. -/
lemma visible_prefixes : ∀ logPrefix ∈ logPrefixes,
    logPrefix ≠ [] ∧ logPrefix.head? ≠ some 46 := by
  decide +kernel

/-- No log is hidden. -/
lemma visible_logNames {d_name : FileName} (h : d_name ∈ dev.logNames) :
    d_name.bytes.head? ≠ some 46 := by
  rcases mem_logNames h with fixed | ⟨p, hp, starts⟩
  · exact visible_fixed _ fixed
  · obtain ⟨nonempty, visible⟩ := visible_prefixes p hp
    obtain ⟨rest, e⟩ := starts
    rw [← e, List.head?_append_of_ne_nil _ nonempty]
    exact visible

/-! ## The length of the staged files -/

/-- The logs are as short as files are. -/
lemma bytes_lt {step : Step} (h : step ∈ dev.steps) : step.bytes.length < 2 ^ 63 := by
  have copied {log : LogFile} (hc : dev.copyStep log = some step) :
      step.bytes.length < 2 ^ 63 := by
    obtain ⟨bytes, hf, rfl⟩ := Option.map_eq_some_iff.mp hc
    exact dev.file_lt _ _ hf
  have all {logs : List LogFile} (hl : step ∈ logs.filterMap dev.copyStep) :
      step.bytes.length < 2 ^ 63 := by
    obtain ⟨log, -, hc⟩ := List.mem_filterMap.mp hl
    exact copied hc
  simp only [Device.steps, Device.dumpSteps, List.mem_append, Option.mem_toList,
    List.mem_ite_nil_right, List.mem_ite_nil_left, List.mem_singleton] at h
  rcases h with (⟨-, h⟩ | h) | ⟨-, ((⟨-, h⟩ | h) | rfl) | h⟩
  · exact all h
  · exact copied h
  · exact all h
  · exact all h
  · exact dev.ipaLog_lt
  · exact all h

/-! ## Staging, however it turns out -/

section

variable {io : Io} {modemLogAllDir : Path}

/-- A copy leaves all other files as they are. -/
lemma lookup_copyInto_of_ne {log : LogFile} {d_name : FileName} (h : d_name ≠ log.basename)
    (dir : Dir) :
    (copyInto io dev modemLogAllDir log dir).lookup d_name = dir.lookup d_name := by
  dsimp only [copyInto]
  split
  · exact Finmap.lookup_insert_of_ne _ h
  · exact rfl

/-- What a copy makes of its own file. -/
lemma lookup_copyInto (log : LogFile) (dir : Dir) :
    (copyInto io dev modemLogAllDir log dir).lookup log.basename =
      copyFile (io.writes (log.basename.path modemLogAllDir))
        ((dev.file (log.basename.path log.dir)).map (io.split (log.basename.path log.dir)))
        (io.opens (log.basename.path modemLogAllDir)) (dir.lookup log.basename) := by
  dsimp only [copyInto]
  split
  · rename_i content copied
    exact (Finmap.lookup_insert _).trans copied.symm
  · rename_i none
    -- a copy that leaves no file has found none
    have old : dir.lookup log.basename = .none := by
      unfold copyFile at none
      split at none
      · exact none
      · split at none
        · exact absurd none (Option.some_ne_none _)
        · exact none
    exact old.trans none.symm

/-- What each copy preserves, copying a list of logs preserves, by induction on the list. -/
lemma copyAll_rel {R : Dir → Dir → Prop}
    (copy : ∀ log : LogFile, log.basename ∈ dev.logNames → ∀ dir dir', R dir dir' →
      R (copyInto io dev modemLogAllDir log dir) (copyInto io dev modemLogAllDir log dir'))
    {logs : List LogFile} (hl : ∀ log ∈ logs, log.basename ∈ dev.logNames) {dir dir' : Dir}
    (h : R dir dir') :
    R (copyAll io dev modemLogAllDir logs dir) (copyAll io dev modemLogAllDir logs dir') := by
  induction logs generalizing dir dir' with
  | nil => exact h
  | cons log logs ih =>
    have first := copy log (hl log List.mem_cons_self) dir dir' h
    exact ih (fun log' h' => hl log' (List.mem_cons_of_mem log h')) first

/-- The logs of the RIL and of netmgr are named as logs. -/
lemma basename_rilAndNetmgrLogs {log : LogFile} (hl : log ∈ rilAndNetmgrLogs) :
    log.basename ∈ dev.logNames := by
  have name := List.mem_map_of_mem (f := LogFile.basename) hl
  simp only [Device.logNames, List.mem_append]
  exact .inr (.inr (.inr (.inl name)))

/-- What each copy and the dump of the IPA log preserve, staging preserves. -/
lemma stage_rel {R : Dir → Dir → Prop}
    (copy : ∀ log : LogFile, log.basename ∈ dev.logNames → ∀ dir dir', R dir dir' →
      R (copyInto io dev modemLogAllDir log dir) (copyInto io dev modemLogAllDir log dir'))
    (ipa : ∀ dir dir', R dir dir' →
      R (dumpIpaLog io dev modemLogAllDir dir) (dumpIpaLog io dev modemLogAllDir dir'))
    {dir dir' : Dir} (h : R dir dir') :
    R (stage io dev modemLogAllDir dir) (stage io dev modemLogAllDir dir') := by
  have dump {srcDir : Path} {maxFileNum : ℤ} {logPrefix : List UInt8}
      (hs : ∀ d_name ∈ dev.selected srcDir maxFileNum logPrefix, d_name ∈ dev.logNames)
      {dir dir' : Dir} (h : R dir dir') :
      R (dumpLogs io dev srcDir modemLogAllDir maxFileNum logPrefix dir)
        (dumpLogs io dev srcDir modemLogAllDir maxFileNum logPrefix dir') := by
    refine copyAll_rel copy (fun log hl => ?_) h
    obtain ⟨d_name, hd, rfl⟩ := List.mem_map.mp hl
    exact hs d_name hd
  have diag : ∀ d_name ∈ dev.selected diagLogDir dev.diagMdlogNumber DIAG_LOG_PREFIX,
      d_name ∈ dev.logNames := fun d_name hd => by simp [Device.logNames, hd]
  have tcpdump : ∀ d_name ∈ dev.selected tcpdumpLogDir dev.tcpdumpNumber TCPDUMP_LOG_PREFIX,
      d_name ∈ dev.logNames := fun d_name hd => by simp [Device.logNames, hd]
  have extended : ∀ d_name ∈ dev.selected extendedLogDir 100 EXTENDED_LOG_PREFIX,
      d_name ∈ dev.logNames := fun d_name hd => by simp [Device.logNames, hd]
  have poweron : diagPoweronLog.basename ∈ dev.logNames := by simp [Device.logNames]
  unfold stage
  have logged : R
      (if dev.diagLogEnabled then
        dumpLogs io dev diagLogDir modemLogAllDir dev.diagMdlogNumber DIAG_LOG_PREFIX dir
      else dir)
      (if dev.diagLogEnabled then
        dumpLogs io dev diagLogDir modemLogAllDir dev.diagMdlogNumber DIAG_LOG_PREFIX dir'
      else dir') := by
    split
    · exact dump diag h
    · exact h
  have poweredOn := copy diagPoweronLog poweron _ _ logged
  dsimp only
  split
  · exact poweredOn
  · apply dump extended
    apply ipa
    apply copyAll_rel copy fun _ => basename_rilAndNetmgrLogs
    split
    · exact dump tcpdump poweredOn
    · exact poweredOn

/-- What each copy and the dump of the IPA log keep, staging keeps. -/
lemma stage_inv {P : Dir → Prop}
    (copy : ∀ log : LogFile, log.basename ∈ dev.logNames → ∀ dir, P dir →
      P (copyInto io dev modemLogAllDir log dir))
    (ipa : ∀ dir, P dir → P (dumpIpaLog io dev modemLogAllDir dir)) {dir : Dir} (h : P dir) :
    P (stage io dev modemLogAllDir dir) := by
  have both := @stage_rel dev io modemLogAllDir (fun dir _ => P dir)
    (fun log hl dir _ h => copy log hl dir h) (fun dir _ h => ipa dir h) dir dir h
  exact both

/-- The dump of the IPA log leaves all other files as they are. -/
lemma lookup_dumpIpaLog_of_ne {d_name : FileName} (h : d_name ≠ ipaLogName) (dir : Dir) :
    (dumpIpaLog io dev modemLogAllDir dir).lookup d_name = dir.lookup d_name := by
  unfold dumpIpaLog
  split
  · exact Finmap.lookup_insert_of_ne _ h
  · exact rfl

/-- What is staged of a file depends on what was there of it, and on no other file. -/
theorem lookup_stage_congr {dir dir' : Dir} {d_name : FileName}
    (h : dir.lookup d_name = dir'.lookup d_name) :
    (stage io dev modemLogAllDir dir).lookup d_name =
      (stage io dev modemLogAllDir dir').lookup d_name := by
  apply stage_rel (R := fun dir dir' => dir.lookup d_name = dir'.lookup d_name) _ _ h
  · intro log _ dir dir' h
    by_cases hn : d_name = log.basename
    · rw [hn] at h ⊢
      rw [lookup_copyInto, lookup_copyInto, h]
    · rw [lookup_copyInto_of_ne hn, lookup_copyInto_of_ne hn, h]
  · intro dir dir' h
    by_cases hn : d_name = ipaLogName
    · rw [hn] at h ⊢
      unfold dumpIpaLog
      split
      · rw [Finmap.lookup_insert, Finmap.lookup_insert]
      · exact h
    · rw [lookup_dumpIpaLog_of_ne hn, lookup_dumpIpaLog_of_ne hn, h]

/-- Only logs are staged. -/
lemma mem_stage {dir : Dir} {d_name : FileName} (h : d_name ∈ stage io dev modemLogAllDir dir) :
    d_name ∈ dir ∨ d_name ∈ dev.logNames := by
  by_contra hn
  obtain ⟨old, name⟩ := not_or.mp hn
  have none : (stage io dev modemLogAllDir dir).lookup d_name = none := by
    apply stage_inv (P := fun dir => dir.lookup d_name = none) _ _
      (Finmap.lookup_eq_none.mpr old)
    · intro log hl dir h
      have ne : d_name ≠ log.basename := fun e => name (e ▸ hl)
      rw [lookup_copyInto_of_ne ne, h]
    · intro dir h
      have ne : d_name ≠ ipaLogName := fun e => name (by simp [e, Device.logNames])
      rw [lookup_dumpIpaLog_of_ne ne, h]
  exact Finmap.lookup_eq_none.mp none h

/-- No staged file is hidden. -/
lemma visible_stage {dir : Dir} (visible : ∀ d_name ∈ dir, d_name.bytes.head? ≠ some 46) :
    ∀ d_name ∈ stage io dev modemLogAllDir dir, d_name.bytes.head? ≠ some 46 := by
  intro d_name h
  rcases mem_stage h with old | log
  · exact visible d_name old
  · exact visible_logNames log

/-- Staged files are as short as files are. -/
lemma stage_lt {dir : Dir}
    (short : ∀ d_name bytes, dir.lookup d_name = some bytes → bytes.length < 2 ^ 63) :
    ∀ d_name bytes, (stage io dev modemLogAllDir dir).lookup d_name = some bytes →
      bytes.length < 2 ^ 63 := by
  apply stage_inv
    (P := fun dir => ∀ d_name bytes, dir.lookup d_name = some bytes → bytes.length < 2 ^ 63)
    _ _ short
  · intro log _ dir short d_name bytes h
    by_cases hn : d_name = log.basename
    · rw [hn, lookup_copyInto] at h
      cases src : dev.file (log.basename.path log.dir) with
      | none =>
        rw [src] at h
        exact short _ _ h
      | some content =>
        rw [src] at h
        simp only [Option.map_some, copyFile] at h
        split at h
        · obtain rfl := Option.some.inj h
          have source := (io.flatten_split (log.basename.path log.dir) content).length_le
          have content_lt := dev.file_lt _ _ src
          have old : ((dir.lookup log.basename).getD []).length < 2 ^ 63 := by
            cases e : dir.lookup log.basename with
            | none => exact Nat.two_pow_pos 63
            | some bytes => exact short _ _ e
          refine lt_of_le_of_lt (length_copyLoop_le _ _ _ _ _) (max_lt old ?_)
          omega
        · exact short _ _ h
    · rw [lookup_copyInto_of_ne hn] at h
      exact short _ _ h
  · intro dir short d_name bytes h
    by_cases hn : d_name = ipaLogName
    · unfold dumpIpaLog at h
      split at h
      · rw [hn, Finmap.lookup_insert] at h
        exact Option.some.inj h ▸ dev.ipaLog_lt
      · exact short _ _ h
    · rw [lookup_dumpIpaLog_of_ne hn] at h
      exact short _ _ h

end

end Redfin.Dumpstate
