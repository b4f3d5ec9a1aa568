import Redfin.Bytes.Digits
import Redfin.Bytes.Memory

/-!
# The archive header

`PosixTarHeader`, `tarCheckSum` and `tarHeader` of `DumpstateDevice.cpp`. The header is the 512
bytes of the C struct, because the functions fill it by string copies that run over the field they
are aimed at: a copy writes its string and a NUL from the start of the field on, and a later copy
overwrites what an earlier one has spilled. `tarFields` is the header before its checksum;
`tarHeader` adds it.

The copies of `tarHeader` stay inside the struct for every file name `readdir` can return and every
64-bit size, which is what the proofs in `tarFields` and `tarHeader` discharge.
-/

namespace Redfin.Dumpstate

open Bytes

/-- A name in `dirent::d_name`: one to 255 bytes, none of them NUL. -/
structure FileName where
  bytes : List UInt8
  length_pos : 0 < bytes.length
  length_le : bytes.length ≤ 255
  noNul : ∀ b ∈ bytes, b ≠ 0

/-- The bytes of a string literal. -/
def ascii (s : String) : List UInt8 := s.toList.map fun c => UInt8.ofNat c.toNat

/-- A member of the struct: its offset and its size. -/
structure Field where
  off : Nat
  size : Nat

namespace Field

def name : Field := ⟨0, 100⟩
def mode : Field := ⟨100, 8⟩
def size' : Field := ⟨124, 12⟩
def mtime : Field := ⟨136, 12⟩
def chksum : Field := ⟨148, 8⟩
def typeflag : Field := ⟨156, 1⟩
def magic : Field := ⟨257, 6⟩
def version : Field := ⟨263, 2⟩

end Field

/-- The header as the 512 bytes it occupies. -/
structure PosixTarHeader where
  bytes : List UInt8
  length_eq : bytes.length = 512

namespace PosixTarHeader

/-- `sizeof(PosixTarHeader)`. -/
abbrev blockSize : Nat := 512

/-- `memset(header, 0, sizeof(PosixTarHeader))`. -/
def memset : PosixTarHeader := ⟨List.replicate 512 0, List.length_replicate⟩

/-- Overwrite the bytes from the start of a member on. -/
def write (h : PosixTarHeader) (f : Field) (bs : List UInt8)
    (fits : f.off + bs.length ≤ 512) : PosixTarHeader :=
  ⟨writeAt h.bytes f.off bs, by rw [length_writeAt (by rw [h.length_eq]; exact fits), h.length_eq]⟩

/-- `strcpy` or `sprintf` to a member: the string and its NUL. -/
def strcpy (h : PosixTarHeader) (f : Field) (s : List UInt8)
    (fits : f.off + (s ++ [0]).length ≤ 512) : PosixTarHeader :=
  h.write f (s ++ [0]) fits

/-- The first loop of `tarCheckSum`: the checksum member filled with spaces. -/
def blank (h : PosixTarHeader) : PosixTarHeader :=
  h.write .chksum (List.replicate 8 32) (by decide)

/-- The bytes of a member. -/
def get (h : PosixTarHeader) (f : Field) : List UInt8 := slice h.bytes f.off f.size

end PosixTarHeader

namespace PosixTarHeader

variable {h : PosixTarHeader} {f : Field} {bs : List UInt8}

/-- What is read before a write is unchanged by it. -/
lemma slice_write_before {o n : Nat} (fits) (hd : o + n ≤ f.off) :
    slice (h.write f bs fits).bytes o n = slice h.bytes o n :=
  slice_writeAt_before (by rw [h.length_eq]; omega) hd

/-- What is read after a write is unchanged by it. -/
lemma slice_write_after {o n : Nat} (fits) (hd : f.off + bs.length ≤ o) :
    slice (h.write f bs fits).bytes o n = slice h.bytes o n :=
  slice_writeAt_after (by rw [h.length_eq]; omega) hd

/-- What is read inside a write is what was written there. -/
lemma slice_write_inside {o n : Nat} (fits) (ho : f.off ≤ o) (hn : o + n ≤ f.off + bs.length) :
    slice (h.write f bs fits).bytes o n = slice bs (o - f.off) n :=
  slice_writeAt_inside (by rw [h.length_eq]; omega) ho hn

/-- Of a string that runs over its member, a string copied to the next member leaves the bytes of
the first one only. -/
lemma strcpy_strcpy {g : Field} {s s' t : List UInt8} (hg : g.off = f.off + f.size) (fits fits')
    (fitst) (hs : f.size ≤ (s ++ [0]).length) (hs' : f.size ≤ (s' ++ [0]).length)
    (ht : (s ++ [0]).length ≤ f.size + (t ++ [0]).length)
    (ht' : (s' ++ [0]).length ≤ f.size + (t ++ [0]).length)
    (h12 : (s ++ [0]).take f.size = (s' ++ [0]).take f.size) :
    (h.strcpy f s fits).strcpy g t fitst = (h.strcpy f s' fits').strcpy g t fitst := by
  have bytes : writeAt (writeAt h.bytes f.off (s ++ [0])) g.off (t ++ [0]) =
      writeAt (writeAt h.bytes f.off (s' ++ [0])) g.off (t ++ [0]) := by
    rw [hg, writeAt_take (by rw [h.length_eq]; exact fits) hs ht, h12,
      ← writeAt_take (by rw [h.length_eq]; exact fits') hs' ht']
  simp only [strcpy, write, bytes]

end PosixTarHeader

/-- The sum of the header's bytes as `unsigned int`, its checksum member counted as spaces. -/
def tarCheckSum (header : PosixTarHeader) : Nat :=
  (header.blank.bytes.map UInt8.toNat).sum % 2 ^ 32

/-- A sum of bytes is at most 255 for each of them. -/
lemma sum_toNat_le (l : List UInt8) : (l.map UInt8.toNat).sum ≤ l.length * 255 := by
  induction l with
  | nil => simp
  | cons b l ih =>
    have hb := b.toNat_lt
    simp only [List.map_cons, List.sum_cons, List.length_cons]
    omega

/-- The bytes of a header cannot add up to more than the checksum member holds. -/
lemma tarCheckSum_lt (header : PosixTarHeader) : tarCheckSum header < 8 ^ 6 := by
  have h := sum_toNat_le header.blank.bytes
  rw [header.blank.length_eq] at h
  unfold tarCheckSum
  omega

/-- The checksum does not wrap. -/
lemma tarCheckSum_eq (header : PosixTarHeader) :
    tarCheckSum header = (header.blank.bytes.map UInt8.toNat).sum := by
  have h := sum_toNat_le header.blank.bytes
  rw [header.blank.length_eq] at h
  unfold tarCheckSum
  omega

/-- A 64-bit number has at most 22 octal digits. -/
lemma length_size_le (n : UInt64) : (digits 8 11 n.toNat).length ≤ 22 := by
  have hn : n.toNat < 8 ^ 22 := lt_trans n.toNat_lt (by norm_num)
  have h := (Nat.digits_length_le_iff (by norm_num : 1 < 8) n.toNat).mpr hn
  rw [length_digits]
  omega

/-- What `tarHeader` fills in before the checksum. -/
def tarFields (fileName : FileName) (fileSize : UInt64) : PosixTarHeader :=
  PosixTarHeader.memset
  |>.strcpy .name fileName.bytes (by
    have h := fileName.length_le
    simp only [Field.name, List.length_append, List.length_singleton]
    omega)
  |>.strcpy .mode (digits 8 7 0o600) (by decide)
  |>.strcpy .size' (digits 8 11 fileSize.toNat) (by
    have h := length_size_le fileSize
    simp only [Field.size', List.length_append, List.length_singleton]
    omega)
  |>.strcpy .mtime (digits 8 11 0) (by decide)
  |>.write .typeflag (ascii "0") (by decide)
  |>.strcpy .magic (ascii "ustar") (by decide)
  |>.strcpy .version (ascii " ") (by decide)

/-- The header of a member of the archive. -/
def tarHeader (fileName : FileName) (fileSize : UInt64) : PosixTarHeader :=
  let header := tarFields fileName fileSize
  header.blank.strcpy .chksum (digits 8 6 (tarCheckSum header)) (by
    have h := length_digits_of_lt (by norm_num : 1 < 8) (tarCheckSum_lt header)
    simp only [Field.chksum, List.length_append, List.length_singleton, h]
    omega)

/-! ## What the header holds -/

variable (fileName : FileName) (fileSize : UInt64)

/-- The header depends on the first twelve bytes of the octal size and its NUL only. -/
lemma tarHeader_congr {fileSize' : UInt64}
    (h : (digits 8 11 fileSize.toNat ++ [0]).take 12 =
      (digits 8 11 fileSize'.toNat ++ [0]).take 12) :
    tarHeader fileName fileSize = tarHeader fileName fileSize' := by
  have short (n : UInt64) :
      (digits 8 11 n.toNat ++ [0]).length ≤ 12 + (digits 8 11 0 ++ [0]).length := by
    have hn := length_size_le n
    have hz : (digits 8 11 0 ++ [0]).length = 12 := by decide
    rw [List.length_append, List.length_singleton, hz]
    omega
  have long (n : UInt64) : 12 ≤ (digits 8 11 n.toNat ++ [0]).length := by
    rw [List.length_append, length_digits, List.length_singleton]
    omega
  have fields : tarFields fileName fileSize = tarFields fileName fileSize' := by
    unfold tarFields
    rw [PosixTarHeader.strcpy_strcpy (f := .size') (g := .mtime) rfl _ _ _ (long _) (long _)
      (short _) (short _) h]
  unfold tarHeader
  simp only [fields]

/-- Adding the checksum changes nothing in front of its member. -/
lemma slice_tarHeader {o n : Nat} (h : o + n ≤ 148) :
    slice (tarHeader fileName fileSize).bytes o n =
      slice (tarFields fileName fileSize).bytes o n := by
  unfold tarHeader PosixTarHeader.strcpy PosixTarHeader.blank
  rw [PosixTarHeader.slice_write_before _ h, PosixTarHeader.slice_write_before _ h]

/-- The size member holds the first twelve bytes of the octal size and its NUL. -/
lemma get_size :
    (tarHeader fileName fileSize).get .size' =
      (digits 8 11 fileSize.toNat ++ [0]).take 12 := by
  have hl : 12 ≤ (digits 8 11 fileSize.toNat ++ [0]).length := by
    rw [List.length_append, length_digits, List.length_singleton]
    omega
  unfold PosixTarHeader.get
  rw [slice_tarHeader _ _ (by decide)]
  unfold tarFields PosixTarHeader.strcpy
  rw [PosixTarHeader.slice_write_before _ (by decide),
    PosixTarHeader.slice_write_before _ (by decide),
    PosixTarHeader.slice_write_before _ (by decide),
    PosixTarHeader.slice_write_before _ (by decide)]
  exact PosixTarHeader.slice_write_inside _ le_rfl (Nat.add_le_add_left hl _)

/-- A name of at most 100 bytes is in its member, filled up with NULs. -/
lemma get_name (h : fileName.bytes.length ≤ 100) :
    (tarHeader fileName fileSize).get .name =
      fileName.bytes ++ List.replicate (100 - fileName.bytes.length) 0 := by
  unfold PosixTarHeader.get
  rw [slice_tarHeader _ _ (by decide)]
  unfold tarFields PosixTarHeader.strcpy
  rw [PosixTarHeader.slice_write_before _ (by decide),
    PosixTarHeader.slice_write_before _ (by decide),
    PosixTarHeader.slice_write_before _ (by decide),
    PosixTarHeader.slice_write_before _ (by decide),
    PosixTarHeader.slice_write_before _ (by decide),
    PosixTarHeader.slice_write_before _ (by decide)]
  apply List.ext_getElem?
  intro i
  simp only [PosixTarHeader.write, PosixTarHeader.memset, Field.name, getElem?_slice]
  rw [getElem?_writeAt (Nat.zero_le _)]
  simp only [List.getElem?_append, List.getElem?_replicate, List.length_append,
    List.length_singleton]
  grind

/-- The header with its checksum member filled with spaces is the one that was summed up. -/
lemma blank_tarHeader :
    (tarHeader fileName fileSize).blank.bytes = (tarFields fileName fileSize).blank.bytes := by
  have hc := length_digits_of_lt (by norm_num : 1 < 8)
    (tarCheckSum_lt (tarFields fileName fileSize))
  have hb := (tarFields fileName fileSize).blank.length_eq
  have h512 := (tarFields fileName fileSize).length_eq
  unfold tarHeader PosixTarHeader.strcpy
  calc writeAt (writeAt (tarFields fileName fileSize).blank.bytes 148 _) 148 _
      = writeAt (tarFields fileName fileSize).blank.bytes 148 (List.replicate 8 32) :=
        writeAt_writeAt (by simp [hb, hc]) (by simp [hc])
    _ = (tarFields fileName fileSize).blank.bytes :=
        writeAt_writeAt (by simp [h512, Field.chksum]) le_rfl

/-- The checksum member holds the sum in six octal digits, a NUL and a space. -/
lemma get_chksum :
    (tarHeader fileName fileSize).get .chksum =
      digits 8 6 (tarCheckSum (tarFields fileName fileSize)) ++ [0, 32] := by
  have hc := length_digits_of_lt (by norm_num : 1 < 8)
    (tarCheckSum_lt (tarFields fileName fileSize))
  have hd : slice (tarHeader fileName fileSize).bytes 148 7 =
      digits 8 6 (tarCheckSum (tarFields fileName fileSize)) ++ [0] := by
    refine (PosixTarHeader.slice_write_inside (f := .chksum) (by simp [hc, Field.chksum]) le_rfl
      (by simp [hc])).trans ?_
    simp [slice, hc]
  have hs : slice (tarHeader fileName fileSize).bytes 155 1 = [32] := by
    unfold tarHeader PosixTarHeader.strcpy
    rw [PosixTarHeader.slice_write_after _ (by simp [hc, Field.chksum])]
    exact PosixTarHeader.slice_write_inside _ (by decide) (by decide)
  rw [PosixTarHeader.get, show Field.chksum.size = 7 + 1 from rfl, slice_append]
  exact (congrArg₂ (· ++ ·) hd hs).trans (by simp)

end Redfin.Dumpstate
