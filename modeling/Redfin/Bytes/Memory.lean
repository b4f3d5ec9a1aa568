import Mathlib.Tactic.Common

/-!
# Writes into a flat buffer

A buffer is a list; `writeAt m off bs` overwrites the cells from `off` on with `bs` and extends the
buffer where `bs` runs past its end, and `slice m off n` reads `n` cells. The lemmas say what a
read finds after a write: the written cells (`slice_writeAt_inside`), or what was there before where
the two do not meet (`slice_writeAt_before`, `slice_writeAt_after`). `overlay new old` is the buffer
`old` after `new` has been written from its start on.
-/

namespace Redfin.Bytes

variable {α : Type}

/-- Overwrite the cells from `off` on with `bs`. -/
def writeAt (m : List α) (off : Nat) (bs : List α) : List α :=
  m.take off ++ bs ++ m.drop (off + bs.length)

/-- The `n` cells from `off` on. -/
def slice (m : List α) (off n : Nat) : List α := (m.drop off).take n

/-- A write inside the buffer keeps its length. -/
lemma length_writeAt {m : List α} {off : Nat} {bs : List α} (h : off + bs.length ≤ m.length) :
    (writeAt m off bs).length = m.length := by
  simp only [writeAt, List.length_append, List.length_take, List.length_drop]
  omega

/-- A write makes the buffer no longer than where it ends. -/
lemma length_writeAt_le (m : List α) (off : Nat) (bs : List α) :
    (writeAt m off bs).length ≤ max m.length (off + bs.length) := by
  simp only [writeAt, List.length_append, List.length_take, List.length_drop]
  omega

/-- A cell after a write comes from the written cells inside their range, else from before. -/
lemma getElem?_writeAt {m : List α} {off : Nat} {bs : List α} (h : off ≤ m.length) (i : Nat) :
    (writeAt m off bs)[i]? =
      if i < off then m[i]? else if i < off + bs.length then bs[i - off]? else m[i]? := by
  have hl : (m.take off).length = off := by simp [h]
  unfold writeAt
  rw [List.append_assoc]
  split
  · rename_i hi
    rw [List.getElem?_append_left (by omega), List.getElem?_take, if_pos hi]
  · rename_i hi
    rw [List.getElem?_append_right (by omega), hl]
    split
    · rw [List.getElem?_append_left (by omega)]
    · rw [List.getElem?_append_right (by omega), List.getElem?_drop]
      congr 1
      omega

/-- A cell of a slice is the cell of the buffer that lies as far behind its start. -/
lemma getElem?_slice (m : List α) (off n i : Nat) :
    (slice m off n)[i]? = if i < n then m[off + i]? else none := by
  simp only [slice, List.getElem?_take, List.getElem?_drop]

/-- A read inside the written range finds what was written there. -/
lemma slice_writeAt_inside {m : List α} {off o n : Nat} {bs : List α} (h : off ≤ m.length)
    (ho : off ≤ o) (hn : o + n ≤ off + bs.length) :
    slice (writeAt m off bs) o n = slice bs (o - off) n := by
  apply List.ext_getElem?
  intro i
  rw [getElem?_slice, getElem?_slice, getElem?_writeAt h]
  split
  · rw [if_neg (by omega), if_pos (by omega)]
    congr 1
    omega
  · rfl

/-- A read before the written range is unchanged. -/
lemma slice_writeAt_before {m : List α} {off o n : Nat} {bs : List α} (h : off ≤ m.length)
    (hd : o + n ≤ off) : slice (writeAt m off bs) o n = slice m o n := by
  apply List.ext_getElem?
  intro i
  rw [getElem?_slice, getElem?_slice, getElem?_writeAt h]
  split
  · rw [if_pos (by omega)]
  · rfl

/-- A read after the written range is unchanged. -/
lemma slice_writeAt_after {m : List α} {off o n : Nat} {bs : List α} (h : off ≤ m.length)
    (hd : off + bs.length ≤ o) : slice (writeAt m off bs) o n = slice m o n := by
  apply List.ext_getElem?
  intro i
  rw [getElem?_slice, getElem?_slice, getElem?_writeAt h]
  split
  · rw [if_neg (by omega), if_neg (by omega)]
  · rfl

/-- A range is read in two parts. -/
lemma slice_append (m : List α) (off k n : Nat) :
    slice m off (k + n) = slice m off k ++ slice m (off + k) n := by
  simp only [slice, List.take_add, List.drop_drop]

/-- A write that covers an earlier one undoes it. -/
lemma writeAt_writeAt {m : List α} {off : Nat} {bs cs : List α}
    (h : off + bs.length ≤ m.length) (hl : bs.length ≤ cs.length) :
    writeAt (writeAt m off bs) off cs = writeAt m off cs := by
  have hb : off ≤ (writeAt m off bs).length := by
    rw [length_writeAt h]
    omega
  apply List.ext_getElem?
  intro i
  rw [getElem?_writeAt hb, getElem?_writeAt (by omega), getElem?_writeAt (by omega)]
  split
  · rfl
  · rename_i hi
    split
    · rfl
    · rw [if_neg (by omega)]

/-- Of a write that a later one covers from `k` on, only the first `k` cells matter. -/
lemma writeAt_take {m bs cs : List α} {off k : Nat} (h : off + bs.length ≤ m.length)
    (hk : k ≤ bs.length) (hc : bs.length ≤ k + cs.length) :
    writeAt (writeAt m off bs) (off + k) cs = writeAt (writeAt m off (bs.take k)) (off + k) cs := by
  have hb : off + k ≤ (writeAt m off bs).length := by
    rw [length_writeAt h]
    omega
  have ht : (bs.take k).length = k := List.length_take_of_le hk
  have hb' : off + k ≤ (writeAt m off (bs.take k)).length := by
    rw [length_writeAt (by omega)]
    omega
  apply List.ext_getElem?
  intro i
  rw [getElem?_writeAt hb, getElem?_writeAt hb', getElem?_writeAt (by omega),
    getElem?_writeAt (by omega), ht, List.getElem?_take]
  by_cases inside : i < off + k
  · rw [if_pos inside, if_pos inside]
    split
    · rfl
    · rw [if_pos (by omega), if_pos (by omega)]
  · rw [if_neg inside, if_neg inside]
    split
    · rfl
    · rw [if_neg (by omega), if_neg (by omega), if_neg (by omega)]

/-- A write at the end of the buffer appends. -/
lemma writeAt_end (m bs : List α) : writeAt m m.length bs = m ++ bs := by
  simp [writeAt]

/-! ## Writing from the start without truncation -/

/-- What a buffer holds after `new` has been written over `old` from its start on. -/
def overlay (new old : List α) : List α := new ++ old.drop new.length

/-- Over nothing there is only what was written. -/
@[simp] lemma overlay_nil (new : List α) : overlay new [] = new := by
  simp [overlay]

/-- The longer of the two buffers gives the length. -/
lemma length_overlay (new old : List α) :
    (overlay new old).length = max new.length old.length := by
  simp only [overlay, List.length_append, List.length_drop]
  omega

/-- The old buffer shows exactly where it is longer. -/
lemma overlay_eq_left_iff {new old : List α} :
    overlay new old = new ↔ old.length ≤ new.length := by
  rw [overlay, List.append_right_eq_self, List.drop_eq_nil_iff]

/-- Writing on where the new buffer ends. -/
lemma writeAt_overlay (new old bs : List α) :
    writeAt (overlay new old) new.length bs = overlay (new ++ bs) old := by
  simp only [writeAt, overlay, List.take_left', List.length_append, List.drop_append,
    List.drop_drop]
  simp

end Redfin.Bytes
