import Redfin.Dumpstate.Tar

/-!
# A ustar reader

What a reader makes of an archive, by the rules of the format and not by any function of the
source: a member is a header of 512 bytes, whose checksum must be right, and a body of the size the
header gives, rounded up to whole blocks; the archive ends where the file ends at a block boundary.

`roundUp`, `sizeField` and `nameField` are also the vocabulary in which the framing of an archive is
stated. The rest of the module is what the reader finds in a header that `tarHeader` has built: the
size with at most twelve digits (`sizeField_tarHeader`), a name of at most 100 bytes
(`nameField_tarHeader`) and a valid checksum (`checksum_tarHeader`).
-/

namespace Redfin.Dumpstate

open Bytes

/-- A size rounded up to whole blocks. -/
def roundUp (n : Nat) : Nat := (n + 511) / 512 * 512

/-- The size a header gives. -/
def sizeField (header : List UInt8) : Nat := field 8 (slice header 124 12)

/-- The name a header gives: up to a NUL or all of the member. -/
def nameField (header : List UInt8) : List UInt8 := (slice header 0 100).takeWhile (· != 0)

/-- The sum of a header's bytes with the checksum member counted as spaces is the one it gives. -/
def checksumValid (header : List UInt8) : Bool :=
  field 8 (slice header 148 8) ==
    ((writeAt header 148 (List.replicate 8 32)).map UInt8.toNat).sum

/-- A file as it comes out of an archive. -/
structure Extracted where
  name : List UInt8
  contents : List UInt8
  deriving DecidableEq

/-- Read an archive; none if it is not one. -/
def ustarRead (archive : List UInt8) : Option (List Extracted) :=
  if archive.length = 0 then some []
  else if archive.length < 512 then none
  else
    let header := archive.take 512
    let rest := archive.drop 512
    let size := sizeField header
    if checksumValid header && roundUp size ≤ rest.length then
      (ustarRead (rest.drop (roundUp size))).map (⟨nameField header, rest.take size⟩ :: ·)
    else none
termination_by archive.length
decreasing_by
  simp only [List.length_drop]
  omega

/-- A length is at most its rounded value. -/
lemma le_roundUp (n : Nat) : n ≤ roundUp n := by
  unfold roundUp
  omega

/-- A rounded length is whole blocks. -/
lemma dvd_roundUp (n : Nat) : 512 ∣ roundUp n := Nat.dvd_mul_left _ _

/-- The size that the twelve bytes of the size member can hold of `n`: all of it below `8 ^ 12`,
else its twelve leading octal digits. -/
def promised (n : Nat) : Nat := n / 8 ^ ((Nat.digits 8 n).length - 12)

/-- A size below `8 ^ 12` is promised as it is. -/
lemma promised_of_lt {n : Nat} (h : n < 8 ^ 12) : promised n = n := by
  have hl := (Nat.digits_length_le_iff (by norm_num : 1 < 8) n).mpr h
  rw [promised, Nat.sub_eq_zero_of_le hl, pow_zero, Nat.div_one]

/-- The twelve bytes of the size member for a size that needs them all. -/
lemma take_digits {n : Nat} (h : 8 ^ 11 ≤ n) :
    (digits 8 11 n ++ [0]).take 12 = (digits 8 11 n).take 12 ∧
      ((digits 8 11 n).take 12).length = 12 ∧ value 8 ((digits 8 11 n).take 12) = promised n := by
  have h12 : 11 < (Nat.digits 8 n).length := (Nat.lt_digits_length_iff (by norm_num) n).mpr h
  have hl : (digits 8 11 n).length = (Nat.digits 8 n).length := by
    rw [length_digits]
    omega
  refine ⟨List.take_append_of_le_length (by omega), List.length_take_of_le (by omega), ?_⟩
  rw [value_take _ fun c hc => isDigit_digits (by norm_num) (by norm_num) hc,
    value_digits (by norm_num) (by norm_num), hl, promised]

variable (fileName : FileName) (fileSize : UInt64)

/-- The size a reader finds in the header. -/
theorem sizeField_tarHeader :
    sizeField (tarHeader fileName fileSize).bytes = promised fileSize.toNat := by
  have hd : ∀ c ∈ digits 8 11 fileSize.toNat, IsDigit 8 c = true :=
    fun c hc => isDigit_digits (by norm_num) (by norm_num) hc
  have hs : slice (tarHeader fileName fileSize).bytes 124 12 = _ := get_size fileName fileSize
  rw [sizeField, hs]
  by_cases h : fileSize.toNat < 8 ^ 11
  · have hl := length_digits_of_lt (by norm_num : 1 < 8) h
    rw [List.take_of_length_le (by simp [hl]),
      field_digits (by norm_num) (by norm_num) _ _ (by decide),
      promised_of_lt (h.trans (by norm_num))]
  · -- the digits fill the member and their NUL is spilled into the next one
    obtain ⟨e, -, hv⟩ := take_digits (not_lt.mp h)
    rw [e, field_of_digits fun c hc => hd c (List.mem_of_mem_take hc), hv]

/-- A size that needs all twelve digits promises one that does. -/
lemma le_promised {n : Nat} (h : 8 ^ 11 ≤ n) : 8 ^ 11 ≤ promised n := by
  have h12 : 11 < (Nat.digits 8 n).length := (Nat.lt_digits_length_iff (by norm_num) n).mpr h
  have top : 8 ^ ((Nat.digits 8 n).length - 1) ≤ n :=
    (Nat.lt_digits_length_iff (by norm_num) n).mp (by omega)
  have e : 11 + ((Nat.digits 8 n).length - 12) = (Nat.digits 8 n).length - 1 := by omega
  rw [promised, Nat.le_div_iff_mul_le (Nat.pow_pos (by norm_num)), ← pow_add, e]
  exact top

/-- The header depends on the size that it promises only. -/
theorem tarHeader_eq_iff {fileSize' : UInt64} :
    tarHeader fileName fileSize = tarHeader fileName fileSize' ↔
      promised fileSize.toNat = promised fileSize'.toNat := by
  constructor
  · intro h
    rw [← sizeField_tarHeader fileName, ← sizeField_tarHeader fileName, h]
  · intro h
    apply tarHeader_congr
    rcases lt_or_ge fileSize.toNat (8 ^ 11) with small | large <;>
      rcases lt_or_ge fileSize'.toNat (8 ^ 11) with small' | large'
    · rw [promised_of_lt (small.trans (by norm_num)), promised_of_lt (small'.trans (by norm_num))]
        at h
      rw [h]
    · rw [promised_of_lt (small.trans (by norm_num))] at h
      exact absurd (h ▸ le_promised large') (not_le.mpr small)
    · rw [promised_of_lt (small'.trans (by norm_num))] at h
      exact absurd (h ▸ le_promised large) (not_le.mpr small')
    · obtain ⟨e, hl, hv⟩ := take_digits large
      obtain ⟨e', hl', hv'⟩ := take_digits large'
      rw [e, e']
      have digit {n : Nat} {c : UInt8} (hc : c ∈ (digits 8 11 n).take 12) : IsDigit 8 c = true :=
        isDigit_digits (by norm_num) (by norm_num) (List.mem_of_mem_take hc)
      exact value_inj (fun c hc => digit hc) (fun c hc => digit hc) (hl.trans hl'.symm)
        (hv.trans (h.trans hv'.symm))

/-- A name that fits its member is read back. -/
theorem nameField_tarHeader (h : fileName.bytes.length ≤ 100) :
    nameField (tarHeader fileName fileSize).bytes = fileName.bytes := by
  have hn : slice (tarHeader fileName fileSize).bytes 0 100 = _ := get_name fileName fileSize h
  have hz : (List.replicate (100 - fileName.bytes.length) (0 : UInt8)).takeWhile (· != 0) = [] := by
    cases 100 - fileName.bytes.length <;> simp [List.replicate_succ]
  rw [nameField, hn, List.takeWhile_append_of_pos, hz, List.append_nil]
  intro b hb
  simpa using fileName.noNul b hb

/-- The checksum of a header is valid, whatever its name and its size. -/
theorem checksum_tarHeader : checksumValid (tarHeader fileName fileSize).bytes = true := by
  have hc : slice (tarHeader fileName fileSize).bytes 148 8 = _ := get_chksum fileName fileSize
  have hb : writeAt (tarHeader fileName fileSize).bytes 148 (List.replicate 8 32) = _ :=
    blank_tarHeader fileName fileSize
  rw [checksumValid, hc, hb, field_digits (by norm_num) (by norm_num) _ _ (by decide),
    tarCheckSum_eq]
  simp

end Redfin.Dumpstate
