import Redfin.Dumpstate.Delivered

/-!
# Reports one after the other

A dump starts from what the one before it has left behind: the removal of the staged files and of
the archive is two commands that may fail or be timed out. Each dump of a history has its own input
and output, which may fail anywhere, and its own order of the staging directory.

Each staged file evolves on its own (`lookup_dumps_congr`), the archive does not. What was left
behind at first is forgotten once all of it has been removed and the archive has been after that
(`report_forgets`).
-/

namespace Redfin.Dumpstate

open Bytes
open Service (Removal)

/-- A dump of a device whose properties are set, how it reads and writes, and what it removes. -/
structure Dump where
  io : Io
  dev : Device
  modemLogDir : dev.modemLogDir ≠ []
  filePrefix : dev.filePrefix ≠ []
  removal : Removal

/-- Removing names one by one removes exactly these. -/
lemma lookup_erased (names : List FileName) (dir : Dir) (d_name : FileName) :
    (names.foldl (fun dir d_name => dir.erase d_name) dir).lookup d_name =
      if d_name ∈ names then none else dir.lookup d_name := by
  induction names generalizing dir with
  | nil => exact rfl
  | cons name names ih =>
    rw [List.foldl_cons, ih]
    by_cases h : d_name ∈ names
    · rw [if_pos h, if_pos (List.mem_cons_of_mem name h)]
    · rw [if_neg h]
      by_cases e : d_name = name
      · rw [e, Finmap.lookup_erase, if_pos List.mem_cons_self]
      · rw [Finmap.lookup_erase_ne e, if_neg (List.not_mem_cons_of_ne_of_not_mem e h)]

namespace Dump

/-- What a dump leaves behind over what it finds. -/
def leaves (d : Dump) (left : Leftovers) : Leftovers where
  modem_log :=
    d.removal.names.foldl (fun dir d_name => dir.erase d_name) (d.dev.leave d.io left).modem_log
  visible d_name h := by
    apply (d.dev.leave d.io left).visible
    rw [← Finmap.lookup_isSome, lookup_erased] at h
    split at h
    · cases h
    · exact Finmap.lookup_isSome.mp h
  modem_log_lt d_name bytes h := by
    rw [lookup_erased] at h
    split at h
    · cases h
    · exact (d.dev.leave d.io left).modem_log_lt d_name bytes h
  combined := if d.removal.file then [] else (d.dev.leave d.io left).combined

/-- The same dump, with the directory listed in another order. -/
def reordered (d : Dump) (order : Listing) : Dump :=
  { d with io := { d.io with toListing := order } }

/-- What a dump makes of a file depends on what was there of it: on no other file, and not on the
order of the directory. -/
lemma lookup_leaves_congr (d : Dump) (order : Listing) {left left' : Leftovers} {d_name : FileName}
    (h : left.modem_log.lookup d_name = left'.modem_log.lookup d_name) :
    (d.leaves left).modem_log.lookup d_name =
      ((d.reordered order).leaves left').modem_log.lookup d_name := by
  have staged : (d.dev.leave d.io left).modem_log.lookup d_name =
      ((d.reordered order).dev.leave (d.reordered order).io left').modem_log.lookup d_name :=
    lookup_stage_congr h
  simp only [leaves, lookup_erased, staged]
  exact rfl

/-- A file that has been removed is no longer there. -/
lemma lookup_leaves_removed {d : Dump} {d_name : FileName} (h : d_name ∈ d.removal.names)
    (left : Leftovers) : (d.leaves left).modem_log.lookup d_name = none := by
  simp only [leaves, lookup_erased, if_pos h]

end Dump

/-- What dumps leave behind one after the other. -/
def dumps (ds : List Dump) (left : Leftovers) : Leftovers :=
  ds.foldl (fun left d => d.leaves left) left

/-- Two histories of the same dumps, in which the directory may have been listed in other orders. -/
def Reordered (ds ds' : List Dump) : Prop :=
  List.Forall₂ (fun d d' => ∃ order, d' = d.reordered order) ds ds'

/-- A file in `modem_log` depends on what was there of it, and on no other file. -/
theorem lookup_dumps_congr {ds ds' : List Dump} (same : Reordered ds ds')
    {left left' : Leftovers} {d_name : FileName}
    (h : left.modem_log.lookup d_name = left'.modem_log.lookup d_name) :
    (dumps ds left).modem_log.lookup d_name = (dumps ds' left').modem_log.lookup d_name := by
  induction same generalizing left left' with
  | nil => exact h
  | @cons d d' ds ds' first _ ih =>
    obtain ⟨order, rfl⟩ := first
    exact ih (d.lookup_leaves_congr order h)

/-- Once a file has been removed, what was there of it does not matter. -/
lemma lookup_dumps_removed {ds ds' : List Dump} (same : Reordered ds ds') {d_name : FileName}
    (h : ∃ d ∈ ds, d_name ∈ d.removal.names) (left left' : Leftovers) :
    (dumps ds left).modem_log.lookup d_name = (dumps ds' left').modem_log.lookup d_name := by
  induction same generalizing left left' with
  | nil =>
    obtain ⟨d, hd, _⟩ := h
    exact absurd hd List.not_mem_nil
  | @cons d d' ds ds' first rest ih =>
    obtain ⟨e, he, removed⟩ := h
    rcases List.mem_cons.mp he with rfl | later
    · obtain ⟨order, rfl⟩ := first
      have gone := Dump.lookup_leaves_removed removed left
      have gone' := Dump.lookup_leaves_removed (d := e.reordered order) removed left'
      exact lookup_dumps_congr rest (gone.trans gone'.symm)
    · exact ih ⟨e, later, removed⟩ _ _

/-- What a dump leaves is its log directory and its archive. -/
lemma leftovers_ext {left left' : Leftovers} (modem_log : left.modem_log = left'.modem_log)
    (combined : left.combined = left'.combined) : left = left' := by
  cases left
  cases left'
  cases modem_log
  cases combined
  rfl

/-- Each file that was left behind has been removed, and then the archive: what comes after that is
the same whatever was left behind. -/
lemma dumps_forget {left left' : Leftovers} {before before' after : List Dump} {d : Dump}
    {order : Listing} (same : Reordered before before')
    (names : ∀ d_name, d_name ∈ left.modem_log ∨ d_name ∈ left'.modem_log →
      ∃ e ∈ before ++ [d], d_name ∈ e.removal.names)
    (archive : d.removal.file = true) :
    dumps (before ++ d :: after) left = dumps (before' ++ d.reordered order :: after) left' := by
  have all : Reordered (before ++ [d]) (before' ++ [d.reordered order]) :=
    List.rel_append same (.cons ⟨order, rfl⟩ .nil)
  have forgotten :
      dumps (before ++ [d]) left = dumps (before' ++ [d.reordered order]) left' := by
    apply leftovers_ext
    · apply Finmap.ext_lookup
      intro d_name
      by_cases h : d_name ∈ left.modem_log ∨ d_name ∈ left'.modem_log
      · exact lookup_dumps_removed all (names d_name h) _ _
      · obtain ⟨none, none'⟩ := not_or.mp h
        apply lookup_dumps_congr all
        rw [Finmap.lookup_eq_none.mpr none, Finmap.lookup_eq_none.mpr none']
    · have archive' : (d.reordered order).removal.file = true := archive
      simp only [dumps, List.foldl_append, List.foldl_cons, List.foldl_nil, Dump.leaves,
        if_pos archive, if_pos archive']
  have split (before : List Dump) (d : Dump) (left : Leftovers) :
      dumps (before ++ d :: after) left = dumps after (dumps (before ++ [d]) left) := by
    simp only [dumps, List.foldl_append, List.foldl_cons, List.foldl_nil]
  rw [split, split, forgotten]

/-- What was left behind at first does not show in a report once each of its files has been removed
by some dump, and the archive by that dump or a later one: the report is the one after any other
leftovers, also where these have made the directory be listed in other orders until then. -/
theorem report_forgets {left left' : Leftovers} {before before' : List Dump} (after : List Dump)
    {d : Dump} (order : Listing) (same : Reordered before before')
    (names : ∀ d_name, d_name ∈ left.modem_log ∨ d_name ∈ left'.modem_log →
      ∃ e ∈ before ++ [d], d_name ∈ e.removal.names)
    (archive : d.removal.file = true) (io : Io) (dev : Device) :
    dumpModemThread io dev (dumps (before ++ d :: after) left) =
      dumpModemThread io dev (dumps (before' ++ d.reordered order :: after) left') := by
  rw [dumps_forget same names archive]

/-- What the dump of a shorter log has left behind is forgotten by the dump of a longer one that
removes its files. -/
theorem report_forgets_brief :
    let d : Dump := ⟨.bytewise, logged, by decide, by decide, ⟨[diagPoweronLog.basename], true⟩⟩
    dumpModemThread .bytewise quiet (dumps [d] (brief.leave .bytewise .clean)) =
      dumpModemThread .bytewise quiet (dumps [d.reordered .byName] .clean) := by
  apply report_forgets [] .byName .nil _ rfl
  intro d_name h
  refine ⟨_, List.mem_singleton_self _, ?_⟩
  rcases h with left | none
  · have staged : (brief.leave .bytewise .clean).modem_log = brief.staged .clean :=
      stage_eq_staged Io.complete_bytewise brief .clean
    rw [staged, ← Finmap.mem_keys, keys_clean] at left
    obtain ⟨step, hs, rfl⟩ := mem_names.mp left
    rw [brief, steps_userBuild] at hs
    rw [List.mem_singleton.mp hs]
    exact List.mem_singleton_self _
  · exact absurd none Finmap.notMem_empty

/-! ## The runs of the service -/

namespace Service

open Program

/-- A run of the service is a dump: the next process of the service finds what it leaves. -/
theorem run_leaves {io : Io} {dev : Device} {left : Leftovers} {props : String → List UInt8}
    {c : Config sig Thread Next Shared} {fdModem : ℤ} (modemLogDir : dev.modemLogDir ≠ [])
    (filePrefix : dev.filePrefix ≠ [])
    (run : (service io dev).Run (configured dev) (service.start props left) c)
    (finished : c.prog .modem = .ret (.finished fdModem)) :
    ∃ removal, c.shared.files =
      { Files.of ((Dump.mk io dev modemLogDir filePrefix removal).leaves left) with
        sent := Function.update (fun _ => []) fdModem (Dumpstate.dumpModemThread io dev left) } := by
  have files := delivered run finished
  generalize c.shared.files = f at files ⊢
  cases files with
  | unset unset => exact absurd unset (not_or.mpr ⟨modemLogDir, filePrefix⟩)
  | sent names removed _ _ => exact ⟨⟨names, removed⟩, rfl⟩

end Service

end Redfin.Dumpstate
