import Redfin.Dumpstate.Reader

/-!
# Decoding a header

A header of `tarHeader` read back member by member, by the rules of the ustar format: a name is
what its member holds up to a NUL, behind the directories that the member for its front names, and
a number is in octal digits.

The checksum member is always right (`chksum_tarHeader`), since it is written last and over spaces;
that the bytes are added as signed chars makes no difference (`tarCheckSum_eq_foldl`).
The other members hold what was passed exactly if each string fits the member it is copied to: the
copy of a longer name is cut off at the member's end and runs on over the members behind
(`decode_tarHeader_iff`).
-/

namespace Redfin.Dumpstate

open Bytes

namespace Field

def uid : Field := ⟨108, 8⟩
def gid : Field := ⟨116, 8⟩
def linkname : Field := ⟨157, 100⟩
def uname : Field := ⟨265, 32⟩
def gname : Field := ⟨297, 32⟩
def devmajor : Field := ⟨329, 8⟩
def devminor : Field := ⟨337, 8⟩
/-- `prefix`, the front of a name that does not fit its member. -/
def namePrefix : Field := ⟨345, 155⟩
def pad : Field := ⟨500, 12⟩

/-- The members that `tarHeader` leaves as `memset` has filled them. -/
def unwritten : List Field :=
  [uid, gid, linkname, uname, gname, devmajor, devminor, namePrefix, pad]

end Field

/-- What a header says of its file. -/
structure Decoded where
  name : List UInt8
  mode : Nat
  uid : Nat
  gid : Nat
  size : Nat
  mtime : Nat
  deriving DecidableEq

/-- The string in a member: up to a NUL or all of it. -/
def PosixTarHeader.text (h : PosixTarHeader) (f : Field) : List UInt8 :=
  (h.get f).takeWhile (· != 0)

/-- The octal number in a member. -/
def PosixTarHeader.number (h : PosixTarHeader) (f : Field) : Nat := field 8 (h.get f)

/-- The name of the file: the front and the rest are joined with a slash. -/
def PosixTarHeader.path (h : PosixTarHeader) : List UInt8 :=
  if h.text .namePrefix = [] then h.text .name
  else h.text .namePrefix ++ ascii "/" ++ h.text .name

/-- Read a header. -/
def PosixTarHeader.decode (h : PosixTarHeader) : Decoded where
  name := h.path
  mode := h.number .mode
  uid := h.number .uid
  gid := h.number .gid
  size := h.number .size'
  mtime := h.number .mtime

/-- What is read beside a write is unchanged by it. -/
lemma PosixTarHeader.slice_write_beside {h : PosixTarHeader} {f : Field} {bs : List UInt8}
    {o n : Nat} (fits) (hd : o + n ≤ f.off ∨ f.off + bs.length ≤ o) :
    slice (h.write f bs fits).bytes o n = slice h.bytes o n := by
  rcases hd with before | after
  · exact slice_write_before fits before
  · exact slice_write_after fits after

/-! ## The checksum -/

/-- `*p++ & 0xff` for a signed `char`: the byte is extended by its sign and masked. -/
def masked (p : UInt8) : UInt32 := p.toInt8.toInt32.toUInt32 &&& 0xff

/-- The mask undoes the extension by the sign. -/
lemma toNat_masked (p : UInt8) : (masked p).toNat = p.toNat := by
  have all : ∀ p : Fin 256, (masked (UInt8.ofFin p)).toNat = p := by decide +kernel
  exact all p.toFin

/-- The second loop of `tarCheckSum` as it is written. -/
lemma tarCheckSum_eq_foldl (header : PosixTarHeader) :
    tarCheckSum header =
      (header.blank.bytes.foldl (fun sum p => sum + masked p) (0 : UInt32)).toNat := by
  have sums (l : List UInt8) (sum : UInt32) :
      (l.foldl (fun sum p => sum + masked p) sum).toNat =
        (sum.toNat + (l.map UInt8.toNat).sum) % 2 ^ 32 := by
    induction l generalizing sum with
    | nil => simp
    | cons p l ih =>
      rw [List.foldl_cons, ih, UInt32.toNat_add, toNat_masked, List.map_cons, List.sum_cons]
      omega
  rw [sums, tarCheckSum]
  simp

variable (fileName : FileName) (fileSize : UInt64)

/-- The checksum member holds six octal digits, a NUL and a space. They denote what the loop over the
signed chars has added up, which is the sum of all bytes with its own eight counted as spaces. -/
theorem chksum_tarHeader :
    ∃ sum : List UInt8,
      (tarHeader fileName fileSize).get .chksum = sum ++ [0, 32] ∧
      sum.length = 6 ∧ (∀ c ∈ sum, IsDigit 8 c = true) ∧
      value 8 sum = ((tarFields fileName fileSize).blank.bytes.foldl
        (fun sum p => sum + masked p) (0 : UInt32)).toNat ∧
      value 8 sum =
        (((tarHeader fileName fileSize).bytes.take 148).map UInt8.toNat).sum + 8 * 32 +
          (((tarHeader fileName fileSize).bytes.drop 156).map UInt8.toNat).sum := by
  refine ⟨digits 8 6 (tarCheckSum (tarFields fileName fileSize)), get_chksum _ _, ?_, ?_, ?_, ?_⟩
  · exact length_digits_of_lt (by norm_num) (tarCheckSum_lt _)
  · intro c hc
    exact isDigit_digits (by norm_num) (by norm_num) hc
  · rw [value_digits (by norm_num) (by norm_num), tarCheckSum_eq_foldl]
  · have blank : writeAt (tarHeader fileName fileSize).bytes 148 (List.replicate 8 32) =
        (tarFields fileName fileSize).blank.bytes := blank_tarHeader fileName fileSize
    rw [value_digits (by norm_num) (by norm_num), tarCheckSum_eq, ← blank, writeAt,
      List.map_append, List.map_append, List.sum_append, List.sum_append]
    exact rfl

/-! ## The members that no string runs over -/

variable {fileName}

/-- Adding the checksum changes nothing beside its member. -/
lemma slice_tarHeader_beside {o n : Nat} (chksum : o + n ≤ 148 ∨ 156 ≤ o) :
    slice (tarHeader fileName fileSize).bytes o n =
      slice (tarFields fileName fileSize).bytes o n := by
  have sum := length_digits_of_lt (by norm_num : 1 < 8)
    (tarCheckSum_lt (tarFields fileName fileSize))
  unfold tarHeader PosixTarHeader.strcpy PosixTarHeader.blank
  refine (PosixTarHeader.slice_write_beside _ ?_).trans (PosixTarHeader.slice_write_beside _ ?_)
  · simp only [Field.chksum, List.length_append, sum, List.length_singleton]
    omega
  · simp only [Field.chksum, List.length_replicate]
    omega

/-- A range that no string is copied to is as `memset` has left it. -/
lemma slice_tarHeader_untouched {o n : Nat} (name : fileName.bytes.length < o)
    (mode : 108 ≤ o) (size : o + n ≤ 124 ∨ 148 ≤ o) (chksum : o + n ≤ 148 ∨ 156 ≤ o)
    (type : o + n ≤ 156 ∨ 157 ≤ o) (magic : o + n ≤ 257 ∨ 265 ≤ o) :
    slice (tarHeader fileName fileSize).bytes o n = slice (List.replicate 512 0) o n := by
  have long := length_size_le fileSize
  have lengths : (digits 8 7 0o600 ++ [0]).length = 8 ∧ (digits 8 11 0 ++ [0]).length = 12 ∧
      (ascii "0").length = 1 ∧ (ascii "ustar" ++ [0]).length = 6 ∧
      (ascii " " ++ [0]).length = 2 := by decide
  obtain ⟨hmode, hmtime, htype, hmagic, hversion⟩ := lengths
  rw [slice_tarHeader_beside fileSize chksum]
  unfold tarFields PosixTarHeader.strcpy
  -- the copies from the last to the first
  refine (PosixTarHeader.slice_write_beside _ ?_).trans <|
    (PosixTarHeader.slice_write_beside _ ?_).trans <|
    (PosixTarHeader.slice_write_beside _ ?_).trans <|
    (PosixTarHeader.slice_write_beside _ ?_).trans <|
    (PosixTarHeader.slice_write_beside _ ?_).trans <|
    (PosixTarHeader.slice_write_beside _ ?_).trans <|
    PosixTarHeader.slice_write_beside _ ?_
  · simp only [hversion, Field.version]
    omega
  · simp only [hmagic, Field.magic]
    omega
  · simp only [htype, Field.typeflag]
    omega
  · simp only [hmtime, Field.mtime]
    omega
  · simp only [List.length_append, List.length_singleton, Field.size']
    omega
  · simp only [hmode, Field.mode]
    omega
  · simp only [List.length_append, List.length_singleton, Field.name]
    omega

/-- The members that `tarHeader` does not write are zero if the name does not run over them. -/
lemma get_unwritten (h : fileName.bytes.length ≤ 107) {f : Field} (hf : f ∈ Field.unwritten) :
    (tarHeader fileName fileSize).get f = List.replicate f.size 0 := by
  have places : ∀ f ∈ Field.unwritten, 108 ≤ f.off ∧ f.off + f.size ≤ 512 ∧
      (f.off + f.size ≤ 124 ∨ 157 ≤ f.off ∧ f.off + f.size ≤ 257 ∨ 265 ≤ f.off) := by
    decide
  obtain ⟨first, last, beside⟩ := places f hf
  rw [PosixTarHeader.get, slice_tarHeader_untouched fileSize (by omega) first (by omega)
    (by omega) (by omega) (by omega), slice, List.drop_replicate, List.take_replicate]
  congr 1
  omega

/-- Their numbers are zero and their strings empty. -/
lemma number_unwritten (h : fileName.bytes.length ≤ 107) {f : Field} (hf : f ∈ Field.unwritten) :
    (tarHeader fileName fileSize).number f = 0 ∧ (tarHeader fileName fileSize).text f = [] := by
  rw [PosixTarHeader.number, PosixTarHeader.text, get_unwritten fileSize h hf]
  cases f.size with
  | zero => decide
  | succ n => exact ⟨rfl, rfl⟩

/-! ## The members that hold a string -/

/-- The mode is written over what the name leaves there. -/
lemma number_mode : (tarHeader fileName fileSize).number .mode = 0o600 := by
  have copied : slice (tarHeader fileName fileSize).bytes 100 8 = digits 8 7 0o600 ++ [0] := by
    rw [slice_tarHeader _ _ (by decide)]
    unfold tarFields PosixTarHeader.strcpy
    rw [PosixTarHeader.slice_write_before _ (by decide),
      PosixTarHeader.slice_write_before _ (by decide),
      PosixTarHeader.slice_write_before _ (by decide),
      PosixTarHeader.slice_write_before _ (by decide),
      PosixTarHeader.slice_write_before _ (by decide)]
    exact PosixTarHeader.slice_write_inside _ le_rfl (by decide)
  exact (congrArg (field 8) copied).trans
    (field_digits (by norm_num) (by norm_num) _ _ (by decide) [])

/-- The time is written over what the size leaves there. -/
lemma number_mtime : (tarHeader fileName fileSize).number .mtime = 0 := by
  have copied : slice (tarHeader fileName fileSize).bytes 136 12 = digits 8 11 0 ++ [0] := by
    rw [slice_tarHeader _ _ (by decide)]
    unfold tarFields PosixTarHeader.strcpy
    rw [PosixTarHeader.slice_write_before _ (by decide),
      PosixTarHeader.slice_write_before _ (by decide),
      PosixTarHeader.slice_write_before _ (by decide)]
    exact PosixTarHeader.slice_write_inside _ le_rfl (by decide)
  exact (congrArg (field 8) copied).trans
    (field_digits (by norm_num) (by norm_num) _ _ (by decide) [])

/-- A name that fills its member or runs over it is cut off at the end of the member. -/
lemma get_name_of_le (h : 100 ≤ fileName.bytes.length) :
    (tarHeader fileName fileSize).get .name = fileName.bytes.take 100 := by
  unfold PosixTarHeader.get
  rw [slice_tarHeader _ _ (by decide)]
  unfold tarFields PosixTarHeader.strcpy
  rw [PosixTarHeader.slice_write_before _ (by decide),
    PosixTarHeader.slice_write_before _ (by decide),
    PosixTarHeader.slice_write_before _ (by decide),
    PosixTarHeader.slice_write_before _ (by decide),
    PosixTarHeader.slice_write_before _ (by decide),
    PosixTarHeader.slice_write_before _ (by decide)]
  have room : Field.name.off + 100 ≤ Field.name.off + (fileName.bytes ++ [0]).length := by
    rw [List.length_append, List.length_singleton]
    omega
  apply (PosixTarHeader.slice_write_inside _ le_rfl room).trans
  rw [slice, Nat.sub_self, List.drop_zero, List.take_append_of_le_length h]

/-- The name that is read back is the first hundred bytes of what was passed. -/
theorem text_name : (tarHeader fileName fileSize).text .name = fileName.bytes.take 100 := by
  rcases le_or_gt fileName.bytes.length 100 with short | long
  · rw [List.take_of_length_le short]
    exact nameField_tarHeader fileName fileSize short
  · rw [PosixTarHeader.text, get_name_of_le fileSize long.le, List.takeWhile_eq_self_iff]
    intro b hb
    simpa using fileName.noNul b (List.mem_of_mem_take hb)

/-- There is no front to it. -/
lemma path_tarHeader (h : (tarHeader fileName fileSize).text .namePrefix = []) :
    (tarHeader fileName fileSize).path = fileName.bytes.take 100 := by
  rw [PosixTarHeader.path, if_pos h, text_name]

/-- A size that fits its member is promised as it is, and no other. -/
lemma promised_eq_iff {n : Nat} : promised n = n ↔ n < 8 ^ 12 := by
  refine ⟨fun same => ?_, promised_of_lt⟩
  by_contra large
  have wide : 12 < (Nat.digits 8 n).length :=
    (Nat.lt_digits_length_iff (by norm_num) n).mpr (not_lt.mp large)
  have less : promised n < n :=
    Nat.div_lt_self (by omega) (Nat.one_lt_pow (by omega) (by norm_num))
  exact absurd same less.ne

/-! ## The whole header -/

/-- What a header built for a file should say. -/
def passed (fileName : FileName) (fileSize : UInt64) : Decoded :=
  ⟨fileName.bytes, 0o600, 0, 0, fileSize.toNat, 0⟩

/-- A header that passes on the name and the size holds them. -/
lemma path_of_decode {header : PosixTarHeader} (h : header.decode = passed fileName fileSize) :
    header.path = fileName.bytes ∧ header.number .size' = fileSize.toNat := by
  rw [PosixTarHeader.decode, passed, Decoded.mk.injEq] at h
  exact ⟨h.1, h.2.2.2.2.1⟩

/-- A header gives back exactly what was passed, with no string spilled over a member that is not
written afterwards, if the name has at most a hundred bytes and the size at most twelve octal
digits, and in no other case. -/
theorem decode_tarHeader_iff (fileName : FileName) (fileSize : UInt64) :
    ((tarHeader fileName fileSize).decode = passed fileName fileSize ∧
        ∀ f ∈ Field.unwritten, (tarHeader fileName fileSize).get f = List.replicate f.size 0) ↔
      fileName.bytes.length ≤ 100 ∧ fileSize.toNat < 8 ^ 12 := by
  have sized : (tarHeader fileName fileSize).number .size' = promised fileSize.toNat :=
    sizeField_tarHeader fileName fileSize
  constructor
  · rintro ⟨decoded, zero⟩
    obtain ⟨named, size⟩ := path_of_decode fileSize decoded
    have front : (tarHeader fileName fileSize).text .namePrefix = [] := by
      rw [PosixTarHeader.text, zero _ (by simp [Field.unwritten])]
      exact rfl
    rw [path_tarHeader fileSize front] at named
    rw [sized] at size
    refine ⟨?_, promised_eq_iff.mp size⟩
    rw [← named]
    exact List.length_take_le 100 _
  · rintro ⟨short, small⟩
    have unwritten {f : Field} (hf : f ∈ Field.unwritten) :=
      number_unwritten fileSize (by omega : fileName.bytes.length ≤ 107) hf
    have named : (tarHeader fileName fileSize).path = fileName.bytes := by
      rw [path_tarHeader fileSize (unwritten (by simp [Field.unwritten])).2,
        List.take_of_length_le short]
    refine ⟨?_, fun f hf => get_unwritten fileSize (by omega) hf⟩
    rw [PosixTarHeader.decode, passed, named, sized, promised_of_lt small, number_mode,
      number_mtime, (unwritten (f := .uid) (by simp [Field.unwritten])).1,
      (unwritten (f := .gid) (by simp [Field.unwritten])).1]

/-- A name of 101 bytes. -/
def longName : FileName :=
  ⟨List.replicate 101 97, by decide +kernel, by decide +kernel, by decide +kernel⟩

/-- A name of 101 bytes loses the last one. -/
theorem decode_longName :
    (tarHeader longName 0).decode ≠ passed longName 0 ∧
      (tarHeader longName 0).path = List.replicate 100 97 := by
  have front : (tarHeader longName 0).text .namePrefix = [] :=
    (number_unwritten 0 (by simp [longName]) (by simp [Field.unwritten])).2
  have named : (tarHeader longName 0).path = List.replicate 100 97 := by
    rw [path_tarHeader 0 front]
    simp [longName]
  refine ⟨fun decoded => ?_, named⟩
  have whole := congrArg List.length (named.symm.trans (path_of_decode 0 decoded).1)
  simp [longName] at whole

end Redfin.Dumpstate
