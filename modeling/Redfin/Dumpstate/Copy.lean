import Redfin.Dumpstate.Tar

/-!
# Copying the logs

`copyFile` and `dumpLogs` of `DumpstateDevice.cpp`. The destination of a copy is opened without
`O_TRUNC` and written from the start on, so what it held before stays behind the end of the new
content (`copyFile_complete`).

The control flow of `dumpLogs` does not depend on how its copies turn out: `logsToCopy` is the list
of the files it calls `copyFile` for, in the order of the calls.
-/

namespace Redfin.Dumpstate

open Bytes

abbrev Path := List UInt8

/-- The loop of `copyFile` from the call number `i` on: the result of the write is dropped. -/
def copyLoop (ws : Writes) : List (List UInt8) → ℕ → ℕ → List UInt8 → List UInt8
  | [], _, _, dest => dest
  | chunk :: reads, i, offset, dest =>
    let accepted := (ws.res i chunk.length).getD 0
    copyLoop ws reads (i + 1) (offset + accepted) (writeAt dest offset (chunk.take accepted))

/-- `copyFile`: what the destination holds afterwards, none if there is no such file. `src` is none
if the source does not open, `opened` says whether the destination does. -/
def copyFile (ws : Writes) (src : Option (List (List UInt8))) (opened : Bool)
    (dest : Option (List UInt8)) : Option (List UInt8) :=
  match src with
  | none => dest
  | some reads => if opened then some (copyLoop ws reads 0 0 (dest.getD [])) else dest

/-- With complete writes the loop lays all that it reads over the old content, by induction on the
reads. -/
lemma copyLoop_complete {ws : Writes} (hw : ws.Complete) (reads : List (List UInt8)) (i : ℕ)
    (copied old : List UInt8) :
    copyLoop ws reads i copied.length (overlay copied old) =
      overlay (copied ++ reads.flatten) old := by
  induction reads generalizing i copied with
  | nil => rw [copyLoop, List.flatten_nil, List.append_nil]
  | cons chunk reads ih =>
    have accepted : (ws.res i chunk.length).getD 0 = chunk.length := by rw [hw i]; rfl
    rw [copyLoop, accepted, List.take_length, writeAt_overlay, ← List.length_append, ih,
      List.append_assoc]
    exact rfl

/-- A complete copy lies over what the destination held before. -/
theorem copyFile_complete {ws : Writes} (hw : ws.Complete) (reads : List (List UInt8))
    (dest : Option (List UInt8)) :
    copyFile ws (some reads) true dest = some (overlay reads.flatten (dest.getD [])) :=
  congrArg some (copyLoop_complete hw reads 0 [] (dest.getD []))

/-- However the writes turn out, the destination is no longer than it was or the source is. -/
lemma length_copyLoop_le (ws : Writes) (reads : List (List UInt8)) (i offset : ℕ)
    (dest : List UInt8) :
    (copyLoop ws reads i offset dest).length ≤
      max dest.length (offset + reads.flatten.length) := by
  induction reads generalizing i offset dest with
  | nil => exact le_max_left _ _
  | cons chunk reads ih =>
    set accepted := (ws.res i chunk.length).getD 0 with answer
    have accepted_le : accepted ≤ chunk.length := by
      rw [answer]
      cases h : ws.res i chunk.length with
      | none => exact Nat.zero_le _
      | some k => exact ws.res_le i _ k h
    have rest := ih (i + 1) (offset + accepted) (writeAt dest offset (chunk.take accepted))
    have first := length_writeAt_le dest offset (chunk.take accepted)
    rw [List.length_take, min_eq_left accepted_le] at first
    have e : copyLoop ws (chunk :: reads) i offset dest =
        copyLoop ws reads (i + 1) (offset + accepted)
          (writeAt dest offset (chunk.take accepted)) := rfl
    rw [e, List.flatten_cons, List.length_append]
    omega

/-- A complete copy gives the destination the content of the source exactly if the destination was
no longer than the source. -/
theorem copyFile_eq_source_iff {ws : Writes} (hw : ws.Complete) (reads : List (List UInt8))
    (dest : Option (List UInt8)) :
    copyFile ws (some reads) true dest = some reads.flatten ↔
      (dest.getD []).length ≤ reads.flatten.length := by
  rw [copyFile_complete hw, Option.some_inj]
  exact overlay_eq_left_iff

/-- A copy over a file of the same length. -/
theorem copyFile_same_length :
    copyFile .full (some [[1, 2], [3]]) true (some [7, 8, 9]) = some [1, 2, 3] :=
  (copyFile_eq_source_iff Writes.complete_full [[1, 2], [3]] (some [7, 8, 9])).mpr (by decide)

/-- A longer file keeps its end. -/
theorem copyFile_keeps_rest :
    Writes.full.Complete ∧
      copyFile .full (some [[1, 2], [3]]) true (some [6, 7, 8, 9]) = some [1, 2, 3, 9] ∧
      copyFile .full (some [[1, 2], [3]]) true (some [6, 7, 8, 9]) ≠
        some [[1, 2], [3]].flatten := by
  have kept : copyFile .full (some [[1, 2], [3]]) true (some [6, 7, 8, 9]) =
      some [1, 2, 3, 9] := by
    rw [copyFile_complete Writes.complete_full]
    decide
  exact ⟨Writes.complete_full, kept, kept ▸ by decide⟩

/-! ## Which logs are copied -/

/-- The names `scandir` lists: those of the directory in the order of `alphasort`. -/
def alphasort (names : List FileName) : List FileName :=
  names.mergeSort fun a b => decide (a.bytes ≤ b.bytes)

/-- The loop of `dumpLogs` over the names from the last to the first. -/
def selectLogs (maxFileNum : ℤ) (logPrefix : List UInt8) : ℤ → List FileName → List FileName
  | _, [] => []
  | copiedFiles, d_name :: names =>
    if !logPrefix.isPrefixOf d_name.bytes then selectLogs maxFileNum logPrefix copiedFiles names
    else if copiedFiles ≥ maxFileNum ∧ maxFileNum ≠ -1 then
      selectLogs maxFileNum logPrefix copiedFiles names
    else d_name :: selectLogs maxFileNum logPrefix (copiedFiles + 1) names

/-- The names of the files `dumpLogs` calls `copyFile` for, in the order of the calls; `srcDir` is
none if `scandir` fails. -/
def logsToCopy (srcDir : Option (List FileName)) (maxFileNum : ℤ) (logPrefix : List UInt8) :
    List FileName :=
  match srcDir with
  | none => []
  | some names => selectLogs maxFileNum logPrefix 0 (alphasort names).reverse

/-- The selected names stand in the order of the listing. -/
lemma sublist_selectLogs (maxFileNum : ℤ) (logPrefix : List UInt8) (copiedFiles : ℤ)
    (names : List FileName) :
    (selectLogs maxFileNum logPrefix copiedFiles names).Sublist names := by
  induction names generalizing copiedFiles with
  | nil => exact .slnil
  | cons d_name names ih =>
    unfold selectLogs
    split
    · exact (ih _).cons _
    · split
      · exact (ih _).cons _
      · exact (ih _).cons_cons _

/-- What is selected starts with the prefix. -/
lemma prefix_of_mem_selectLogs {maxFileNum : ℤ} {logPrefix : List UInt8} {copiedFiles : ℤ}
    {names : List FileName} {d_name : FileName}
    (h : d_name ∈ selectLogs maxFileNum logPrefix copiedFiles names) :
    logPrefix <+: d_name.bytes := by
  induction names generalizing copiedFiles with
  | nil => exact absurd h List.not_mem_nil
  | cons name names ih =>
    unfold selectLogs at h
    split at h
    · exact ih h
    · rename_i selected
      split at h
      · exact ih h
      · rcases List.mem_cons.mp h with rfl | h
        · exact List.isPrefixOf_iff_prefix.mp (by simpa using selected)
        · exact ih h

/-- The loop copies all names with the prefix, or as many of them as the limit leaves. -/
lemma selectLogs_eq (maxFileNum : ℤ) (logPrefix : List UInt8) (copiedFiles : ℤ)
    (names : List FileName) :
    selectLogs maxFileNum logPrefix copiedFiles names =
      if maxFileNum = -1 then names.filter (logPrefix.isPrefixOf ·.bytes)
      else (names.filter (logPrefix.isPrefixOf ·.bytes)).take (maxFileNum - copiedFiles).toNat := by
  induction names generalizing copiedFiles with
  | nil => simp [selectLogs]
  | cons d_name names ih =>
    unfold selectLogs
    cases carries : logPrefix.isPrefixOf d_name.bytes with
    | false =>
      rw [List.filter_cons_of_neg (by simp [carries])]
      exact ih copiedFiles
    | true =>
      have kept : (d_name :: names).filter (logPrefix.isPrefixOf ·.bytes) =
          d_name :: names.filter (logPrefix.isPrefixOf ·.bytes) := by
        rw [List.filter_cons, if_pos carries]
      rw [kept, if_neg (by simp)]
      by_cases all : maxFileNum = -1
      · have next := ih (copiedFiles + 1)
        rw [if_pos all] at next
        rw [if_neg (fun full => full.2 all), if_pos all, next]
      · have next := ih
        simp only [if_neg all] at next
        rw [if_neg all]
        rcases le_or_gt maxFileNum copiedFiles with full | room
        · have spent : (maxFileNum - copiedFiles).toNat = 0 := by omega
          rw [if_pos ⟨full, all⟩, next, spent, List.take_zero, List.take_zero]
        · have left : (maxFileNum - copiedFiles).toNat =
              (maxFileNum - (copiedFiles + 1)).toNat + 1 := by omega
          rw [if_neg (fun full => absurd full.1 (not_le.mpr room)), next, left,
            List.take_succ_cons]

/-- `alphasort` sorts by the bytes of the names. -/
lemma pairwise_alphasort (names : List FileName) :
    (alphasort names).Pairwise fun a b => a.bytes ≤ b.bytes := by
  have sorted : (alphasort names).Pairwise fun a b => decide (a.bytes ≤ b.bytes) := by
    refine List.pairwise_mergeSort (fun a b c hab hbc => ?_) (fun a b => ?_) names
    · rw [decide_eq_true_eq] at hab hbc ⊢
      exact List.le_trans hab hbc
    · simpa using List.le_total a.bytes b.bytes
  simpa using sorted

section

variable {srcDir : Option (List FileName)} {maxFileNum : ℤ} {logPrefix : List UInt8}

/-- No file is copied twice. -/
lemma nodup_logsToCopy (h : ∀ names, srcDir = some names → names.Nodup) :
    (logsToCopy srcDir maxFileNum logPrefix).Nodup := by
  cases srcDir with
  | none => exact List.nodup_nil
  | some names =>
    have listed : (alphasort names).reverse.Nodup :=
      List.nodup_reverse.mpr ((List.mergeSort_perm names _).nodup_iff.mpr (h names rfl))
    exact listed.sublist (sublist_selectLogs _ _ _ _)

/-- A selected name starts with the prefix that is asked for. -/
lemma prefix_of_mem_logsToCopy {d_name : FileName}
    (h : d_name ∈ logsToCopy srcDir maxFileNum logPrefix) : logPrefix <+: d_name.bytes := by
  cases srcDir with
  | none => exact absurd h List.not_mem_nil
  | some names => exact prefix_of_mem_selectLogs h

end

/-- Of the names that carry the prefix, in ascending order, `dumpLogs` copies the last ones up to
the limit, each of them once, from the last to the first. -/
lemma logsToCopy_eq (names : List FileName) (maxFileNum : ℤ) (logPrefix : List UInt8) :
    ∃ logs : List FileName, logs.Perm (names.filter (logPrefix.isPrefixOf ·.bytes)) ∧
      logs.Pairwise (fun a b => a.bytes ≤ b.bytes) ∧
      (names.Nodup → (logsToCopy (some names) maxFileNum logPrefix).Nodup) ∧
      logsToCopy (some names) maxFileNum logPrefix =
        (if maxFileNum = -1 then logs
          else if maxFileNum ≤ 0 then []
          else logs.drop (logs.length - min logs.length maxFileNum.toNat)).reverse := by
  refine ⟨(alphasort names).filter (logPrefix.isPrefixOf ·.bytes), ?_, ?_, ?_, ?_⟩
  · exact (List.mergeSort_perm names _).filter _
  · exact (pairwise_alphasort names).sublist List.filter_sublist
  · intro distinct
    exact nodup_logsToCopy fun _ e => Option.some.inj e ▸ distinct
  · set logs := (alphasort names).filter (logPrefix.isPrefixOf ·.bytes)
    have selected : logsToCopy (some names) maxFileNum logPrefix =
        if maxFileNum = -1 then logs.reverse
        else logs.reverse.take maxFileNum.toNat := by
      rw [logsToCopy, selectLogs_eq, List.filter_reverse, Int.sub_zero]
    rw [selected]
    split
    · exact rfl
    · split
      · rename_i none
        rw [Int.toNat_of_nonpos none, List.take_zero, List.reverse_nil]
      · rw [List.take_reverse]
        congr 2
        omega

end Redfin.Dumpstate
