import Redfin.Dumpstate.Archive
import Redfin.Dumpstate.Staging

/-!
# What is sent

With complete input and output, the modem file descriptor receives the encoding of the staged files,
in the order of the directory, laid over the old archive (`dumpModemThread_complete`).
`Device.leave` is what the next dump finds if nothing of it is removed.
-/

namespace Redfin.Dumpstate

open Bytes

/-- The content of a file; empty if there is none. -/
def contentOf (dir : Dir) (d_name : FileName) : List UInt8 := (dir.lookup d_name).getD []

/-- A file as a member of the archive. -/
def memberOf (d_name : FileName) (content : List UInt8) : Member :=
  ⟨d_name, UInt64.ofNat content.length, content⟩

/-- The archive of a directory of which no file is hidden, in the order in which it is listed. -/
def Listing.archive (order : Listing) (dir : Dir) : List UInt8 :=
  (order.readdir dir.keys).flatMap fun d_name => (memberOf d_name (contentOf dir d_name)).encode

/-- The members that `createTarFile` finds are the files of the directory. -/
lemma members_map {io : Io} (hio : io.Complete) (modemLogAllDir : Path) (dir : Dir)
    (st_size : UInt64) {names : List FileName} (h : ∀ d_name ∈ names, d_name ∈ dir)
    (visible : ∀ d_name ∈ dir, d_name.bytes.head? ≠ some 46) :
    members st_size (names.map (stagedEntry io modemLogAllDir dir)) =
      names.map fun d_name => memberOf d_name (contentOf dir d_name) := by
  induction names generalizing st_size with
  | nil => exact rfl
  | cons d_name names ih =>
    have mem := h d_name List.mem_cons_self
    obtain ⟨content, hc⟩ := Finmap.mem_iff.mp mem
    have rest (st_size : UInt64) :=
      ih st_size fun d_name' h' => h d_name' (List.mem_cons_of_mem d_name h')
    have shown : ¬(d_name.bytes.head? == some 46) = true := by simpa using visible d_name mem
    have entry : stagedEntry io modemLogAllDir dir d_name =
        ⟨d_name, some (stagedSource io (d_name.path modemLogAllDir) content)⟩ := by
      rw [stagedEntry, if_pos (hio.readable _), hc]
      exact rfl
    rw [List.map_cons, List.map_cons, memberOf, contentOf, hc, entry, members]
    refine (if_neg shown).trans ?_
    exact congrArg₂ List.cons (congrArg _ (hio.flatten_split _ _)) (rest _)

/-- What is read is sent. -/
lemma sendLoop_complete {ws : Writes} (hw : ws.Complete) (i : ℕ) (reads : List (List UInt8)) :
    sendLoop ws i reads = reads.flatten := by
  induction reads generalizing i with
  | nil => exact rfl
  | cons chunk reads ih => simp [sendLoop, hw i, ih]

/-- What a complete run stages over what was left behind. -/
def Device.staged (dev : Device) (left : Leftovers) : Dir := applySteps dev.steps left.modem_log

/-- With complete input and output the staging is the steps of the device, one after the other. -/
lemma stage_eq_staged {io : Io} (hio : io.Complete) (dev : Device) (left : Leftovers) :
    stage io dev dev.modemLogAllDir left.modem_log = dev.staged left :=
  stage_complete hio _ _

/-- With complete input and output the archive is laid over the one that was left behind. -/
lemma archived_complete {io : Io} (hio : io.Complete) (dev : Device) (left : Leftovers) :
    archived io dev left = overlay (io.archive (dev.staged left)) left.combined := by
  have visible : ∀ d_name ∈ dev.staged left, d_name.bytes.head? ≠ some 46 :=
    stage_eq_staged hio dev left ▸ visible_stage left.visible
  rw [archived, stage_eq_staged hio, listing, if_pos hio.opendir, hio.opens,
    createTarFile_complete (hio.writes _), members_map hio _ _ _ _ visible, List.flatMap_map]
  · exact rfl
  · intro d_name h
    exact Finmap.mem_keys.mp ((io.mem_readdir _ _).mp h)

/-- What a run with complete input and output sends. -/
theorem dumpModemThread_complete {io : Io} (hio : io.Complete) (dev : Device) (left : Leftovers) :
    dumpModemThread io dev left =
      if dev.modemLogDir = [] ∨ dev.filePrefix = [] then []
      else overlay (io.archive (dev.staged left)) left.combined := by
  unfold dumpModemThread
  by_cases hd : dev.modemLogDir = []
  · rw [if_pos hd, if_pos (.inl hd)]
  · by_cases hp : dev.filePrefix = []
    · rw [if_neg hd, if_pos hp, if_pos (.inr hp)]
    · rw [if_neg hd, if_neg hp, if_neg (not_or.mpr ⟨hd, hp⟩), sendLoop_complete hio.modem,
        hio.flatten_split, archived_complete hio]

/-- What the next dump finds if nothing of this one is removed. -/
def Device.leave (dev : Device) (io : Io) (left : Leftovers) : Leftovers where
  modem_log := stage io dev dev.modemLogAllDir left.modem_log
  visible := visible_stage left.visible
  modem_log_lt := stage_lt left.modem_log_lt
  combined := archived io dev left

/-- Nothing was left behind. -/
def Leftovers.clean : Leftovers where
  modem_log := ∅
  visible := fun _ h => absurd h Finmap.notMem_empty
  modem_log_lt := fun _ _ h => nomatch h
  combined := []

end Redfin.Dumpstate
