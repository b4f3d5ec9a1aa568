import Redfin.Dumpstate.Archive

/-!
# Framing of the archive

Where the headers of an archive stand and how `tarLen` relates to what has been appended.

`Framed` says that every header stands where the one before it says. With complete writes this
depends on the source files alone: `fstat` and the reads of each member but the last must agree up
to the rounding to blocks (`framed_iff`). A directory is the plain case where they do not: `open`
and `fstat` succeed on it, and `read` fails.

For arbitrary results of the writes, `tarLen` is advanced by what was asked for, so it stays equal
to the file offset exactly as long as every write completes, a header write that fails outright
apart: its entry is skipped (`tarLen_eq_offset_iff`).
-/

namespace Redfin.Dumpstate

/-- Each header starts at the offset that the header before it predicts. -/
def Framed (hs : List Written) : Prop :=
  hs.IsChain fun a b => b.off = a.off + 512 + roundUp (sizeField a.data)

/-- The header and the body of a member take the same number of blocks. -/
def Member.Fits (m : Member) : Prop := roundUp (promised m.st_size.toNat) = roundUp m.body.length

/-- Headers laid out one after the other are framed when every member but the last fits. -/
lemma framed_headersFrom (off : Nat) (ms : List Member) :
    Framed (headersFrom off ms) ↔ ∀ m ∈ ms.dropLast, m.Fits := by
  induction ms generalizing off with
  | nil => simp [Framed, headersFrom]
  | cons m ms ih =>
    cases ms with
    | nil => simp [Framed, headersFrom]
    | cons m' ms =>
      have ih' := ih (off + 512 + roundUp m.body.length)
      rw [headersFrom] at ih'
      -- the second header stands behind the body of the first, so it is the body that counts
      rw [headersFrom, headersFrom, Framed, List.isChain_cons_cons, ← Framed, ih',
        List.dropLast_cons_of_ne_nil (List.cons_ne_nil _ _), List.forall_mem_cons,
        sizeField_tarHeader, Member.Fits]
      constructor
      · rintro ⟨h, hs⟩
        exact ⟨(Nat.add_left_cancel h).symm, hs⟩
      · rintro ⟨h, hs⟩
        exact ⟨congrArg (off + 512 + ·) h.symm, hs⟩

/-- With complete writes, each header of the archive stands where the one before it predicts if
and only if every member but the last has a body of the size promised for it, up to the
rounding to whole blocks. -/
theorem framed_iff {ws : Writes} (hw : ws.Complete) (dir : List Entry) (old : List UInt8)
    (st_size : UInt64) :
    Framed (headers (tarLoop ws dir (.start old st_size)).log) ↔
      ∀ m ∈ (members st_size dir).dropLast, m.Fits := by
  obtain ⟨h, _⟩ := tarLoop_complete hw dir (.start old st_size) (Nat.dvd_zero 512)
  rw [h]
  exact framed_headersFrom 0 (members st_size dir)

/-- A subdirectory between two files: it opens, `fstat` gives 4096 bytes and `read` fails. -/
def subdirListing : List Entry := [
  ⟨⟨ascii "modem_fs", by decide, by decide, by decide +kernel⟩,
    some ⟨some 4096, [], List.forall_mem_nil _⟩⟩,
  ⟨⟨ascii "ssr_log.txt", by decide, by decide, by decide +kernel⟩,
    some ⟨some 1, [[10]], by decide +kernel⟩⟩]

/-- After a subdirectory the next header is not where its header predicts. -/
theorem not_framed_after_subdir :
    ¬ Framed (headers (tarLoop .full subdirListing (.start [] 0)).log) := by
  obtain ⟨h, _⟩ := tarLoop_complete Writes.complete_full subdirListing (.start [] 0)
    (Nat.dvd_zero 512)
  rw [h]
  refine fun hf => absurd ((framed_headersFrom 0 _).mp hf _ List.mem_cons_self) ?_
  unfold Member.Fits
  decide

/-- The framing of an archive whose members have the sizes promised. -/
theorem framed_of_two_files :
    Framed (headers (tarLoop .full [
      ⟨⟨ascii "ril_log0", by decide, by decide, by decide +kernel⟩,
        some ⟨some 2, [[1], [2]], by decide +kernel⟩⟩,
      ⟨⟨ascii "ril_log1", by decide, by decide, by decide +kernel⟩,
        some ⟨some 9, [], List.forall_mem_nil _⟩⟩]
      (.start [] 0)).log) := by
  refine (framed_iff Writes.complete_full _ [] 0).mpr ?_
  intro m hm
  obtain rfl : m = _ := List.mem_singleton.mp hm
  unfold Member.Fits
  decide

/-! ## The length count -/

/-- The write accepted all of its data. -/
def Written.Complete (w : Written) : Prop := w.res = some w.data.length

/-- A header write that fails or accepts nothing, after which the entry is skipped. -/
def Written.Skipped (w : Written) : Prop := w.kind = .header ∧ headerWritten w.res = false

/-- The count is right: it is at least the file offset, and equal to it just where every write
was complete or skipped its entry. -/
structure Counted (s : TarState) : Prop where
  le : s.offset ≤ s.tarLen
  eq_iff : s.tarLen = s.offset ↔ ∀ w ∈ s.log, w.Complete ∨ w.Skipped

variable {ws : Writes}

/-- A write that is counted in full keeps the count right. -/
lemma Counted.write {s : TarState} (h : Counted s) {kind : WriteKind} {data : List UInt8}
    (hk : kind = .header → headerWritten (s.write ws kind data).1 = true) (hd : data ≠ []) :
    Counted ((s.write ws kind data).2.advance data.length) := by
  have hpos := List.length_pos_of_ne_nil hd
  have hle := ws.res_le s.log.length data.length
  have hres : ((⟨kind, s.offset, data, ws.res s.log.length data.length⟩ : Written).Complete ∨
      (⟨kind, s.offset, data, ws.res s.log.length data.length⟩ : Written).Skipped) ↔
      (ws.res s.log.length data.length).getD 0 = data.length := by
    constructor
    · rintro (hc | ⟨hkind, hskip⟩)
      · have hc' : ws.res s.log.length data.length = some data.length := hc
        rw [hc']
        rfl
      · have hw' : headerWritten (ws.res s.log.length data.length) = true := hk hkind
        rw [hskip] at hw'
        cases hw'
    · intro hg
      left
      cases hr : ws.res s.log.length data.length with
      | none =>
        rw [hr] at hg
        simp only [Option.getD_none] at hg
        omega
      | some k =>
        rw [hr] at hg
        exact congrArg some hg
  have hacc : (ws.res s.log.length data.length).getD 0 ≤ data.length := by
    cases hr : ws.res s.log.length data.length with
    | none => exact Nat.zero_le _
    | some k => exact hle k hr
  have h1 := h.le
  refine ⟨?_, ?_⟩
  · simp only [TarState.advance, TarState.write]
    omega
  · simp only [TarState.advance, TarState.write, List.forall_mem_append, List.forall_mem_singleton,
      hres, ← h.eq_iff]
    omega

/-- A header write that is refused leaves the count right. -/
lemma Counted.refused {s : TarState} (h : Counted s) {data : List UInt8}
    (hk : headerWritten (s.write ws .header data).1 = false) :
    Counted (s.write ws .header data).2 := by
  have hk' : headerWritten (ws.res s.log.length data.length) = false := hk
  have hz : (ws.res s.log.length data.length).getD 0 = 0 := by
    cases hr : ws.res s.log.length data.length with
    | none => rfl
    | some k =>
      rw [hr] at hk'
      simpa [headerWritten] using hk'
  have hskip :
      (⟨.header, s.offset, data, ws.res s.log.length data.length⟩ : Written).Complete ∨
      (⟨.header, s.offset, data, ws.res s.log.length data.length⟩ : Written).Skipped :=
    .inr ⟨rfl, hk'⟩
  refine ⟨?_, ?_⟩
  · simp only [TarState.write, hz]
    exact h.le
  · simp only [TarState.write, hz, List.forall_mem_append, List.forall_mem_singleton, hskip,
      and_true]
    exact h.eq_iff

variable (ws)

/-- The loop over the content counts what it writes. -/
lemma Counted.copyBody {reads : List (List UInt8)} (hr : ∀ c ∈ reads, 0 < c.length)
    {s : TarState} (h : Counted s) : Counted (copyBody ws reads s) := by
  induction reads generalizing s with
  | nil => exact h
  | cons c reads ih =>
    refine ih (fun c' hc' => hr c' (by simp [hc'])) (h.write (by intro hk; cases hk) ?_)
    exact List.ne_nil_of_length_pos (hr c (by simp))

/-- The padding counts what it writes. -/
lemma Counted.padBody {s : TarState} (h : Counted s) : Counted (padBody ws s) := by
  induction s using padBody.induct ws with
  | case1 s hs ih =>
    rw [Dumpstate.padBody, if_pos hs]
    exact ih (h.write (by intro hk; cases hk) (List.cons_ne_nil _ _))
  | case2 s hs =>
    rw [Dumpstate.padBody, if_neg hs]
    exact h

/-- The padding ends at a block boundary. -/
lemma dvd_padBody (s : TarState) : 512 ∣ (padBody ws s).tarLen := by
  induction s using padBody.induct ws with
  | case1 s hs ih =>
    rw [padBody, if_pos hs]
    exact ih
  | case2 s hs =>
    rw [padBody, if_neg hs]
    exact Nat.dvd_of_mod_eq_zero (by simpa using hs)

/-- At a block boundary nothing is padded. -/
lemma padBody_of_dvd {s : TarState} (h : 512 ∣ s.tarLen) : padBody ws s = s := by
  rw [padBody, if_neg]
  simpa using Nat.mod_eq_zero_of_dvd h

/-- A turn of the loop leaves the count right and at a block boundary. -/
lemma Counted.tarEntry {e : Entry} {s : TarState} (h : Counted s) (hd : 512 ∣ s.tarLen) :
    Counted (tarEntry ws e s) ∧ 512 ∣ (tarEntry ws e s).tarLen := by
  unfold Dumpstate.tarEntry
  split
  · exact ⟨h, hd⟩
  · split
    · exact ⟨h, hd⟩
    · rename_i src _
      have h' : Counted (s.stat src) := ⟨h.le, h.eq_iff⟩
      have hlen := (tarHeader e.d_name (s.stat src).st_size).length_eq
      cases hk : headerWritten
        ((s.stat src).write ws .header (tarHeader e.d_name (s.stat src).st_size).bytes).1 with
      | true =>
        have hw := h'.write (fun _ => hk) (List.ne_nil_of_length_pos (by omega))
        rw [hlen] at hw
        have hc := hw.copyBody ws fun c hc => (src.reads_le c hc).1
        simp only [hk, if_true]
        exact ⟨hc.padBody ws, dvd_padBody ws _⟩
      | false =>
        simp only [hk]
        exact ⟨h'.refused hk, hd⟩

/-- The loop over the directory counts what it writes and ends at a whole block. -/
lemma Counted.tarLoop (dir : List Entry) {s : TarState} (h : Counted s) (hd : 512 ∣ s.tarLen) :
    Counted (tarLoop ws dir s) ∧ 512 ∣ (tarLoop ws dir s).tarLen := by
  induction dir generalizing s with
  | nil => exact ⟨h, hd⟩
  | cons e dir ih =>
    obtain ⟨h', hd'⟩ := h.tarEntry ws (e := e) hd
    exact ih h' hd'

/-! ### The record of the writes only grows -/

/-- A write only adds to the log. -/
lemma log_write (kind : WriteKind) (data : List UInt8) (s : TarState) :
    s.log <+: (s.write ws kind data).2.log := List.prefix_append _ _

/-- The loop over the content only adds to the log. -/
lemma log_copyBody (reads : List (List UInt8)) (s : TarState) :
    s.log <+: (copyBody ws reads s).log := by
  induction reads generalizing s with
  | nil => exact List.prefix_rfl
  | cons c reads ih =>
    exact (log_write ws .body c s).trans (ih ((s.write ws .body c).2.advance c.length))

/-- The padding only adds to the log. -/
lemma log_padBody (s : TarState) : s.log <+: (padBody ws s).log := by
  induction s using padBody.induct ws with
  | case1 s hs ih =>
    rw [padBody, if_pos hs]
    exact (log_write ws .padding [0] s).trans ih
  | case2 s hs =>
    rw [padBody, if_neg hs]

/-- An entry only adds to the log. -/
lemma log_tarEntry (e : Entry) (s : TarState) : s.log <+: (tarEntry ws e s).log := by
  unfold tarEntry
  split
  · exact List.prefix_rfl
  · split
    · exact List.prefix_rfl
    · rename_i src _
      let s' := ((s.stat src).write ws .header (tarHeader e.d_name (s.stat src).st_size).bytes).2
      have hw : s.log <+: s'.log := log_write ws .header _ (s.stat src)
      have hc := log_copyBody ws src.reads (s'.advance PosixTarHeader.blockSize)
      dsimp only
      split
      · exact hw.trans (hc.trans (log_padBody ws _))
      · exact hw

/-- The loop over the directory only adds to the log. -/
lemma log_tarLoop (dir : List Entry) (s : TarState) : s.log <+: (tarLoop ws dir s).log := by
  induction dir generalizing s with
  | nil => exact List.prefix_rfl
  | cons e dir ih => exact (log_tarEntry ws e s).trans (ih _)

/-- At every start of a turn of the directory loop `tarLen` is the number of bytes appended and a
multiple of the block size if and only if every write of the run is complete or is a header
write that is refused. -/
theorem tarLen_eq_offset_iff (dir : List Entry) (old : List UInt8)
    (st_size : UInt64) :
    (∀ before rest, dir = before ++ rest →
      (tarLoop ws before (.start old st_size)).tarLen =
          (tarLoop ws before (.start old st_size)).offset ∧
        512 ∣ (tarLoop ws before (.start old st_size)).tarLen) ↔
      ∀ w ∈ (tarLoop ws dir (.start old st_size)).log, w.Complete ∨ w.Skipped := by
  have h₀ : Counted (.start old st_size) := ⟨le_rfl, by simp [TarState.start]⟩
  constructor
  · intro h
    obtain ⟨hc, _⟩ := h₀.tarLoop ws dir (Nat.dvd_zero 512)
    exact hc.eq_iff.mp (h dir [] (List.append_nil _).symm).1
  · rintro h before rest rfl
    obtain ⟨hc, hd⟩ := h₀.tarLoop ws before (Nat.dvd_zero 512)
    refine ⟨hc.eq_iff.mpr fun w hw => h w ?_, hd⟩
    rw [tarLoop, List.foldl_append]
    exact (log_tarLoop ws rest _).subset hw

/-- The header write accepts one byte; the later writes complete. -/
def shortHeader : Writes :=
  ⟨fun i n => some (if i = 0 then min 1 n else n), fun i n k h => by
    obtain rfl := Option.some.inj h
    split <;> omega⟩

/-- After a header that was written short, `tarLen` is not the number of bytes appended. -/
theorem tarLen_ne_offset_after_short_header :
    ¬ ∀ before rest, subdirListing = before ++ rest →
      (tarLoop shortHeader before (.start [] 0)).tarLen =
          (tarLoop shortHeader before (.start [] 0)).offset ∧
        512 ∣ (tarLoop shortHeader before (.start [] 0)).tarLen := by
  intro h
  have h1 := (h [_] [_] rfl).1
  have hh : Entry.hidden ⟨⟨ascii "modem_fs", by decide, by decide, by decide +kernel⟩,
      some ⟨some 4096, [], List.forall_mem_nil _⟩⟩ = false := by decide
  -- nothing is copied and `tarLen` is 512 after the header, so the padding loop is not entered
  simp only [tarLoop, List.foldl_cons, List.foldl_nil, tarEntry, hh, TarState.write,
    TarState.advance, TarState.stat, TarState.start, shortHeader, headerWritten, copyBody,
    PosixTarHeader.length_eq, List.length_nil, if_true, Bool.false_eq_true, if_false] at h1
  rw [padBody_of_dvd _ (by decide)] at h1
  simp at h1

end Redfin.Dumpstate
