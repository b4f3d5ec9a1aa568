import Redfin.Dumpstate.Archive

/-!
# Round trip of the archive

Reading what `createTarFile` has written gives the files back. `read_encode` is one member: the
reader takes off the front of an archive exactly the blocks of `Member.encode`, whatever follows
them. The list of members is then read by induction (`read_members`), and `createTarFile_roundTrip`
puts this together with what the loop writes.
-/

namespace Redfin.Dumpstate

/-- A member whose header can hold its name and its size, and whose size is right. -/
structure Member.Exact (m : Member) : Prop where
  name_le : m.d_name.bytes.length ≤ 100
  size_eq : m.st_size.toNat = m.body.length
  size_lt : m.body.length < 8 ^ 11

/-- An entry that opens and whose `st_size` is the number of bytes its reads deliver. -/
def Entry.Regular (e : Entry) : Prop :=
  ∃ src size, e.file = some src ∧ src.fstat = some size ∧
    Member.Exact ⟨e.d_name, size, src.reads.flatten⟩

/-- The contents of the file behind an entry. -/
def Entry.contents (e : Entry) : List UInt8 := (e.file.map (·.reads.flatten)).getD []

/-- What is extracted of a member. -/
def Member.extracted (m : Member) : Extracted := ⟨m.d_name.bytes, m.body⟩

/-- The reader takes one member off the front of an archive. -/
lemma read_encode {m : Member} (h : m.Exact) (archive : List UInt8) :
    ustarRead (m.encode ++ archive) = (ustarRead archive).map (m.extracted :: ·) := by
  have h512 := (tarHeader m.d_name m.st_size).length_eq
  have hle := le_roundUp m.body.length
  have hsize : sizeField (tarHeader m.d_name m.st_size).bytes = m.body.length := by
    rw [sizeField_tarHeader, h.size_eq, promised_of_lt (h.size_lt.trans (by norm_num))]
  have hname := nameField_tarHeader m.d_name m.st_size h.name_le
  have e : m.encode ++ archive = (tarHeader m.d_name m.st_size).bytes ++
      (m.body ++ (List.replicate (roundUp m.body.length - m.body.length) 0 ++ archive)) := by
    simp only [Member.encode, List.append_assoc]
  have htake : (m.encode ++ archive).take 512 = (tarHeader m.d_name m.st_size).bytes := by
    rw [e, List.take_left' h512]
  have hdrop : (m.encode ++ archive).drop 512 =
      m.body ++ (List.replicate (roundUp m.body.length - m.body.length) 0 ++ archive) := by
    rw [e, List.drop_left' h512]
  have hlen : (m.encode ++ archive).length = 512 + roundUp m.body.length + archive.length := by
    rw [List.length_append, Member.length_encode]
  have hrest : ((m.encode ++ archive).drop 512).length =
      roundUp m.body.length + archive.length := by
    rw [List.length_drop, hlen]
    omega
  have hnext : ((m.encode ++ archive).drop 512).drop (roundUp m.body.length) = archive := by
    rw [List.drop_drop, ← Member.length_encode, List.drop_left]
  have hbody : ((m.encode ++ archive).drop 512).take m.body.length = m.body := by
    rw [hdrop, List.take_left]
  rw [ustarRead, if_neg (by omega), if_neg (by omega)]
  simp only [htake, hsize, hname, hnext, hbody, checksum_tarHeader, Bool.true_and,
    decide_eq_true_eq]
  rw [if_pos (by omega)]
  rfl

/-- The reader gives back the members of an archive, in their order. -/
lemma read_members {ms : List Member} (h : ∀ m ∈ ms, m.Exact) :
    ustarRead (ms.flatMap Member.encode) = some (ms.map Member.extracted) := by
  induction ms with
  | nil => rw [List.flatMap_nil, ustarRead]; rfl
  | cons m ms ih =>
    rw [List.flatMap_cons, read_encode (h m (by simp)), ih fun m' hm' => h m' (by simp [hm'])]
    rfl

/-- The members of a directory of regular files are its entries that are not hidden. -/
lemma members_regular {dir : List Entry} (h : ∀ e ∈ dir, e.hidden = false → e.Regular)
    (st_size : UInt64) :
    (∀ m ∈ members st_size dir, m.Exact) ∧
      (members st_size dir).map Member.extracted =
        (dir.filter (!·.hidden)).map fun e => ⟨e.d_name.bytes, e.contents⟩ := by
  induction dir generalizing st_size with
  | nil => exact ⟨fun _ hm => (List.not_mem_nil hm).elim, rfl⟩
  | cons e dir ih =>
    have ih' := ih fun e' he' => h e' (List.mem_cons_of_mem _ he')
    cases hh : e.hidden with
    | true =>
      have e1 : members st_size (e :: dir) = members st_size dir := by rw [members, hh]; rfl
      rw [e1, List.filter_cons_of_neg (by simp [hh])]
      exact ih' st_size
    | false =>
      obtain ⟨src, size, hf, hs, hm⟩ := h e (by simp) hh
      obtain ⟨hx, hmap⟩ := ih' size
      have e1 : members st_size (e :: dir) =
          ⟨e.d_name, size, src.reads.flatten⟩ :: members size dir := by
        rw [members, hh, hf]
        simp only [hs, Option.getD_some]
        rfl
      rw [e1, List.filter_cons_of_pos (by simp [hh])]
      constructor
      · intro m hm'
        rcases List.mem_cons.mp hm' with rfl | hm'
        · exact hm
        · exact hx m hm'
      · rw [List.map_cons, List.map_cons, hmap]
        simp [Member.extracted, Entry.contents, hf]

/-- If every write completes and the archive was empty, reading it gives back the names and the
contents of the files that are not hidden, in the order of the directory. -/
theorem createTarFile_roundTrip {ws : Writes} (hw : ws.Complete) {dir : List Entry}
    (h : ∀ e ∈ dir, e.hidden = false → e.Regular) (st_size : UInt64) :
    ustarRead (createTarFile ws (some dir) true [] st_size) =
      some ((dir.filter (!·.hidden)).map fun e => ⟨e.d_name.bytes, e.contents⟩) := by
  obtain ⟨_, hc⟩ := tarLoop_complete hw dir (.start [] st_size) (Nat.dvd_zero 512)
  obtain ⟨hx, hmap⟩ := members_regular h st_size
  have hcreate : createTarFile ws (some dir) true [] st_size =
      (members st_size dir).flatMap Member.encode := hc rfl
  rw [hcreate, read_members hx, hmap]

/-- The round trip of a directory with a hidden entry, a file read in two chunks and an empty
file. -/
theorem roundTrip_of_three_entries :
    ustarRead (createTarFile .full (some [
        ⟨⟨ascii ".", by decide, by decide, by decide +kernel⟩, none⟩,
        ⟨⟨ascii "qmdl", by decide, by decide, by decide +kernel⟩,
          some ⟨some 3, [[1, 2], [3]], by decide +kernel⟩⟩,
        ⟨⟨ascii "ipa_log", by decide, by decide, by decide +kernel⟩,
          some ⟨some 0, [], List.forall_mem_nil _⟩⟩]) true [] 77) =
      some [⟨ascii "qmdl", [1, 2, 3]⟩, ⟨ascii "ipa_log", []⟩] := by
  refine createTarFile_roundTrip Writes.complete_full ?_ 77
  intro e he hh
  simp only [List.mem_cons, List.not_mem_nil, or_false] at he
  obtain rfl | rfl | rfl := he
  · exact absurd hh (by decide)
  · exact ⟨_, _, rfl, rfl, by decide, by decide, by decide⟩
  · exact ⟨_, _, rfl, rfl, by decide, by decide, by decide⟩

end Redfin.Dumpstate
