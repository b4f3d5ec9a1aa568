import Redfin.Dumpstate.Reader

/-!
# What the loop writes

The archive as the list of its members, without file offsets and write calls: `members` lists what
the loop over the directory copies, `encode` is one member's blocks. If all writes complete, the
loop appends `encode` of each member in turn (`tarLoop_complete`), starting each of them at a
multiple of the block size; the headers it writes are those of the members at the offsets of
`headersFrom`.
-/

namespace Redfin.Dumpstate

open Bytes

/-- A member of the archive: the name and the size for its header, and its body. -/
structure Member where
  d_name : FileName
  st_size : UInt64
  body : List UInt8

/-- The members for a directory listing; `st_size` is what `st` holds before. -/
def members (st_size : UInt64) : List Entry → List Member
  | [] => []
  | e :: dir =>
    if e.hidden then members st_size dir
    else match e.file with
      | none => members st_size dir
      | some src =>
        let st_size := src.fstat.getD st_size
        ⟨e.d_name, st_size, src.reads.flatten⟩ :: members st_size dir

/-- A member's header, its body and the padding to a whole block. -/
def Member.encode (m : Member) : List UInt8 :=
  (tarHeader m.d_name m.st_size).bytes ++ m.body ++
    List.replicate (roundUp m.body.length - m.body.length) 0

/-- The header writes for the members of an archive from the offset `off` on. -/
def headersFrom (off : Nat) : List Member → List Written
  | [] => []
  | m :: ms =>
    ⟨.header, off, (tarHeader m.d_name m.st_size).bytes, some 512⟩ ::
      headersFrom (off + 512 + roundUp m.body.length) ms

/-- The header writes of a run. -/
def headers (log : List Written) : List Written := log.filter (·.kind = .header)

/-- A member takes a header block and its content rounded up to whole blocks. -/
lemma Member.length_encode (m : Member) : m.encode.length = 512 + roundUp m.body.length := by
  have h := le_roundUp m.body.length
  simp only [Member.encode, List.length_append, PosixTarHeader.length_eq, List.length_replicate]
  omega

/-- The archive has been written without a gap: what it holds is what has been appended. -/
structure Appended (s : TarState) (bs : List UInt8) (hs : List Written) (s' : TarState) : Prop where
  offset : s'.offset = s.offset + bs.length
  tarLen : s'.tarLen = s.tarLen + bs.length
  st_size : s'.st_size = s.st_size
  written : headers s'.log = headers s.log ++ hs
  content : s.content.length = s.offset → s'.content = s.content ++ bs

/-- Nothing is appended by doing nothing. -/
lemma Appended.refl (s : TarState) : Appended s [] [] s :=
  ⟨rfl, rfl, rfl, (List.append_nil _).symm, fun _ => (List.append_nil _).symm⟩

/-- Two appended parts make one. -/
lemma Appended.trans {s s' s'' : TarState} {bs bs' : List UInt8} {hs hs' : List Written}
    (h : Appended s bs hs s') (h' : Appended s' bs' hs' s'') :
    Appended s (bs ++ bs') (hs ++ hs') s'' := by
  refine ⟨?_, ?_, h'.st_size.trans h.st_size, ?_, fun hc => ?_⟩
  · rw [h'.offset, h.offset, List.length_append, Nat.add_assoc]
  · rw [h'.tarLen, h.tarLen, List.length_append, Nat.add_assoc]
  · rw [h'.written, h.written, List.append_assoc]
  · have hs' := h.content hc
    rw [h'.content (by rw [hs', h.offset, List.length_append, hc]), hs', List.append_assoc]

variable {ws : Writes}

/-- A complete write, counted in `tarLen`, appends its data. -/
lemma Appended.write (hw : ws.Complete) (kind : WriteKind) (data : List UInt8) (s : TarState) :
    Appended s data (headers [⟨kind, s.offset, data, some data.length⟩])
      ((s.write ws kind data).2.advance data.length) := by
  have hr := hw s.log.length data.length
  refine ⟨?_, rfl, rfl, ?_, fun hc => ?_⟩
  · simp [TarState.write, TarState.advance, hr]
  · simp [TarState.write, TarState.advance, hr, headers]
  · simp only [TarState.write, TarState.advance, hr, Option.getD_some, List.take_length]
    rw [← hc, writeAt_end]

/-- The copy loop appends the file's data. -/
lemma copyBody_complete (hw : ws.Complete) (reads : List (List UInt8)) (s : TarState) :
    Appended s reads.flatten [] (copyBody ws reads s) := by
  induction reads generalizing s with
  | nil => exact .refl s
  | cons chunk reads ih => exact (Appended.write hw .body chunk s).trans (ih _)

/-- The padding loop appends NULs up to the next block. -/
lemma padBody_complete (hw : ws.Complete) (s : TarState) :
    Appended s (List.replicate (roundUp s.tarLen - s.tarLen) 0) [] (padBody ws s) := by
  induction s using padBody.induct ws with
  | case1 s h ih =>
    rw [padBody, if_pos h]
    have ht : ((s.write ws .padding [0]).2.advance 1).tarLen = s.tarLen + 1 := rfl
    rw [ht] at ih
    have e : roundUp s.tarLen - s.tarLen = 1 + (roundUp (s.tarLen + 1) - (s.tarLen + 1)) := by
      simp only [PosixTarHeader.blockSize] at h
      unfold roundUp
      omega
    rw [e, List.replicate_add]
    exact (Appended.write hw .padding [0] s).trans ih
  | case2 s h =>
    rw [padBody, if_neg h]
    have e : roundUp s.tarLen - s.tarLen = 0 := by
      simp only [PosixTarHeader.blockSize] at h
      unfold roundUp
      omega
    rw [e]
    exact .refl s

/-- An entry that is copied appends its member. -/
lemma tarEntry_complete (hw : ws.Complete) {e : Entry} {src : Source} (s : TarState)
    (hh : e.hidden = false) (hf : e.file = some src) (h512 : 512 ∣ s.tarLen) :
    let m : Member := ⟨e.d_name, src.fstat.getD s.st_size, src.reads.flatten⟩
    Appended (s.stat src) m.encode (headersFrom s.offset [m]) (tarEntry ws e s) := by
  intro m
  have hlen := (tarHeader m.d_name m.st_size).length_eq
  have hr := hw s.log.length (tarHeader m.d_name m.st_size).bytes.length
  have hH := Appended.write hw .header (tarHeader m.d_name m.st_size).bytes (s.stat src)
  rw [hlen] at hH
  have hB := hH.trans (copyBody_complete hw src.reads _)
  have hP := hB.trans (padBody_complete hw _)
  have hlB : ((tarHeader m.d_name m.st_size).bytes ++ src.reads.flatten).length =
      512 + m.body.length := by
    rw [List.length_append, hlen]
  have ht := hB.tarLen
  rw [hlB] at ht
  -- `tarLen` counts from the start of the archive, which is a whole number of blocks away
  have hpad : roundUp (s.tarLen + (512 + m.body.length)) - (s.tarLen + (512 + m.body.length)) =
      roundUp m.body.length - m.body.length := by
    obtain ⟨k, hk⟩ := h512
    unfold roundUp
    omega
  rw [ht] at hP
  have e1 : tarEntry ws e s =
      padBody ws (copyBody ws src.reads
        (((s.stat src).write ws .header (tarHeader m.d_name m.st_size).bytes).2.advance 512)) := by
    have hwr : headerWritten ((s.stat src).write ws .header
        (tarHeader m.d_name m.st_size).bytes).1 = true := by
      have h1 : ((s.stat src).write ws .header (tarHeader m.d_name m.st_size).bytes).1 =
          some (tarHeader m.d_name m.st_size).bytes.length := hr
      rw [h1, hlen]
      rfl
    rw [tarEntry, hh, hf]
    exact if_pos hwr
  rw [e1]
  have e2 : (s.stat src).tarLen = s.tarLen := rfl
  rw [e2, hpad] at hP
  exact hP

/-- If all writes complete, the loop appends the members of the directory one after the other. -/
theorem tarLoop_complete (hw : ws.Complete) (dir : List Entry) (s : TarState)
    (h512 : 512 ∣ s.tarLen) :
    headers (tarLoop ws dir s).log =
        headers s.log ++ headersFrom s.offset (members s.st_size dir) ∧
      (s.content.length = s.offset →
        (tarLoop ws dir s).content =
          s.content ++ (members s.st_size dir).flatMap Member.encode) := by
  induction dir generalizing s with
  | nil => exact ⟨(List.append_nil _).symm, fun _ => (List.append_nil _).symm⟩
  | cons e dir ih =>
    rw [tarLoop, List.foldl_cons, ← tarLoop]
    cases hh : e.hidden with
    | true =>
      have e1 : tarEntry ws e s = s := by rw [tarEntry, hh]; rfl
      rw [e1, members, hh]
      exact ih s h512
    | false =>
      cases hf : e.file with
      | none =>
        have e1 : tarEntry ws e s = s := by rw [tarEntry, hh, hf]; rfl
        rw [e1, members, hh, hf]
        exact ih s h512
      | some src =>
        have hA := tarEntry_complete hw s hh hf h512
        have hd : 512 ∣ (tarEntry ws e s).tarLen := by
          have h1 := hA.tarLen
          rw [Member.length_encode] at h1
          rw [h1]
          exact (h512.add ((Nat.dvd_refl 512).add (dvd_roundUp _)))
        obtain ⟨ihh, ihc⟩ := ih _ hd
        have hst : (tarEntry ws e s).st_size = src.fstat.getD s.st_size := hA.st_size
        have hoff := hA.offset
        rw [Member.length_encode, ← Nat.add_assoc] at hoff
        -- the rest of the directory is copied from where this member ends
        rw [hst] at ihh ihc
        rw [hoff] at ihh
        rw [members, hh, hf]
        constructor
        · rw [ihh, hA.written, List.append_assoc]
          rfl
        · intro hc
          have hc' := hA.content hc
          have hl : (tarEntry ws e s).content.length = (tarEntry ws e s).offset := by
            have h1 : (s.stat src).content.length = s.offset := hc
            rw [hc', hA.offset, List.length_append, h1]
            rfl
          rw [ihc hl, hc', List.append_assoc]
          rfl

/-! ## Over an old archive

The archive is written from the start without truncation, so an old one stays behind the end of the
new one and changes nothing else. -/

/-- The same state over the content of an old archive. -/
def TarState.above (old : List UInt8) (s : TarState) : TarState :=
  { s with content := overlay s.content old }

/-- The next byte is written at the end. -/
def TarState.AtEnd (s : TarState) : Prop := s.content.length = s.offset

/-- The function of the archive's state does the same over an old archive. -/
def Oblivious (f : TarState → TarState) : Prop :=
  ∀ old s, s.AtEnd → f (s.above old) = (f s).above old ∧ (f s).AtEnd

/-- Oblivious steps compose. -/
lemma Oblivious.comp {f g : TarState → TarState} (hg : Oblivious g) (hf : Oblivious f) :
    Oblivious fun s => g (f s) := by
  intro old s h
  obtain ⟨above, atEnd⟩ := hf old s h
  show g (f (s.above old)) = _ ∧ _
  rw [above]
  exact hg old (f s) atEnd

/-- A write does the same over an old archive. -/
lemma oblivious_write (kind : WriteKind) (data : List UInt8) :
    Oblivious fun s => (s.write ws kind data).2 := by
  intro old s h
  have accepted : (data.take ((ws.res s.log.length data.length).getD 0)).length =
      (ws.res s.log.length data.length).getD 0 := by
    rw [List.length_take]
    cases hr : ws.res s.log.length data.length with
    | none => exact Nat.zero_min _
    | some n => exact min_eq_left (ws.res_le _ _ _ hr)
  have atEnd : s.content.length = s.offset := h
  constructor
  · simp only [TarState.write, TarState.above, ← atEnd, writeAt_overlay, writeAt_end]
  · simp only [TarState.AtEnd, TarState.write, ← atEnd, writeAt_end, List.length_append, accepted]

/-- So does the counting of a length. -/
lemma oblivious_advance (n : Nat) : Oblivious (·.advance n) := fun _ _ h => ⟨rfl, h⟩

/-- The loop over the content is oblivious. -/
lemma oblivious_copyBody (reads : List (List UInt8)) : Oblivious (copyBody ws reads) := by
  induction reads with
  | nil => exact fun _ _ h => ⟨rfl, h⟩
  | cons chunk reads ih =>
    exact ih.comp ((oblivious_advance chunk.length).comp (oblivious_write .body chunk))

/-- The padding is oblivious. -/
lemma oblivious_padBody : Oblivious (padBody ws) := by
  intro old s h
  induction s using padBody.induct ws with
  | case1 s hpad ih =>
    have pad : Oblivious fun s => (s.write ws .padding [0]).2.advance 1 :=
      (oblivious_advance 1).comp (oblivious_write .padding [0])
    obtain ⟨above, atEnd⟩ := pad old s h
    have state : ((s.above old).write ws .padding [0]).2.advance 1 =
        ((s.write ws .padding [0]).2.advance 1).above old := above
    have hpad' : (s.above old).tarLen % PosixTarHeader.blockSize ≠ 0 := hpad
    have e : padBody ws s = padBody ws ((s.write ws .padding [0]).2.advance 1) := by
      rw [padBody, if_pos hpad]
    rw [padBody, if_pos hpad', e, state]
    exact ih atEnd
  | case2 s hpad =>
    have hpad' : ¬(s.above old).tarLen % PosixTarHeader.blockSize ≠ 0 := hpad
    have e : padBody ws s = s := by rw [padBody, if_neg hpad]
    rw [padBody, if_neg hpad', e]
    exact ⟨rfl, h⟩

/-- A whole entry is oblivious. -/
lemma oblivious_tarEntry (e : Entry) : Oblivious (tarEntry ws e) := by
  intro old s h
  cases hh : e.hidden with
  | true =>
    have same (s : TarState) : tarEntry ws e s = s := by rw [tarEntry, hh]; rfl
    rw [same, same]
    exact ⟨rfl, h⟩
  | false =>
    cases hf : e.file with
    | none =>
      have same (s : TarState) : tarEntry ws e s = s := by rw [tarEntry, hh, hf]; rfl
      rw [same, same]
      exact ⟨rfl, h⟩
    | some src =>
      set header := (tarHeader e.d_name (s.stat src).st_size).bytes with hheader
      have copied (s' : TarState) (hst : (s'.stat src).st_size = (s.stat src).st_size) :
          tarEntry ws e s' =
            if headerWritten ((s'.stat src).write ws .header header).1 then
              padBody ws (copyBody ws src.reads
                (((s'.stat src).write ws .header header).2.advance 512))
            else ((s'.stat src).write ws .header header).2 := by
        rw [tarEntry, hh, hf, hheader, ← hst]
        rfl
      have head : Oblivious fun s => (s.write ws .header header).2 := oblivious_write .header header
      obtain ⟨above, atEnd⟩ := head old (s.stat src) h
      have body : Oblivious fun s => padBody ws (copyBody ws src.reads (s.advance 512)) :=
        oblivious_padBody.comp ((oblivious_copyBody src.reads).comp (oblivious_advance 512))
      have rest := body old ((s.stat src).write ws .header header).2 atEnd
      have result : (((s.above old).stat src).write ws .header header).1 =
          ((s.stat src).write ws .header header).1 := rfl
      have state : (((s.above old).stat src).write ws .header header).2 =
          ((s.stat src).write ws .header header).2.above old := above
      rw [copied s rfl, copied (s.above old) rfl, result, state]
      split
      · exact rest
      · exact ⟨rfl, atEnd⟩

/-- The loop over the directory does the same over an old archive. -/
theorem oblivious_tarLoop (dir : List Entry) : Oblivious (tarLoop ws dir) := by
  induction dir with
  | nil => exact fun _ _ h => ⟨rfl, h⟩
  | cons e dir ih => exact ih.comp (oblivious_tarEntry e)

/-- If all writes complete, the archive is the encoding of its members over the old archive. -/
theorem createTarFile_complete (hw : ws.Complete) (dir : List Entry) (old : List UInt8)
    (st_size : UInt64) :
    createTarFile ws (some dir) true old st_size =
      overlay ((members st_size dir).flatMap Member.encode) old := by
  obtain ⟨-, fresh⟩ := tarLoop_complete hw dir (.start [] st_size) (Nat.dvd_zero 512)
  have content : (tarLoop ws dir (.start [] st_size)).content =
      (members st_size dir).flatMap Member.encode := fresh rfl
  have loop : Oblivious (tarLoop ws dir) := oblivious_tarLoop dir
  obtain ⟨above, -⟩ := loop old (.start [] st_size) rfl
  have e : createTarFile ws (some dir) true old st_size =
      (tarLoop ws dir ((TarState.start [] st_size).above old)).content := rfl
  rw [e, above, ← content]
  exact rfl

end Redfin.Dumpstate
