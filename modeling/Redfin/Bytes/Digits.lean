import Mathlib.Data.List.TakeWhile
import Mathlib.Data.Nat.Digits.Lemmas

/-!
# Numbers written in ASCII digits

`digits b w n` is what `printf` writes for the conversion of `n` to the base `b` (at most ten) with
the flag `0` and the width `w`: at least `w` digits, more where the number needs them. `value b`
reads a string of digits back, `field b` reads the digits a fixed-width field starts with. Reading
undoes writing (`value_digits`, `field_digits`), and a field that cuts the last digits off holds
the number divided by the power they stand for (`value_take`).
-/

namespace Redfin.Bytes

/-- The ASCII digit of `d`. -/
def digit (d : Nat) : UInt8 := UInt8.ofNat (48 + d)

/-- `n` in base `b`, zero-padded to the width `w`. -/
def digits (b w n : Nat) : List UInt8 :=
  List.replicate (w - (Nat.digits b n).length) (digit 0) ++ (Nat.digits b n).reverse.map digit

/-- A digit of the base `b`. -/
def IsDigit (b : Nat) (c : UInt8) : Bool := 48 ≤ c.toNat && c.toNat < 48 + b

/-- The number a string of digits denotes. -/
def value (b : Nat) (l : List UInt8) : Nat := l.foldl (fun a c => a * b + (c.toNat - 48)) 0

/-- The number at the front of a field. -/
def field (b : Nat) (l : List UInt8) : Nat := value b (l.takeWhile (IsDigit b))

variable {b : Nat}

/-- The characters of the decimal digits follow each other from `'0'` on. -/
lemma toNat_digit {d : Nat} (h : d < 10) : (digit d).toNat = 48 + d := by
  simp only [digit, UInt8.toNat_ofNat']
  omega

/-- Everything that is written is a digit. -/
lemma isDigit_digits (hb : 1 < b) (hb' : b ≤ 10) {w n : Nat} {c : UInt8}
    (h : c ∈ digits b w n) : IsDigit b c = true := by
  simp only [digits, List.mem_append, List.mem_map, List.mem_reverse] at h
  obtain h | ⟨d, hd, rfl⟩ := h
  · rw [List.eq_of_mem_replicate h]
    simp only [IsDigit, toNat_digit (by omega : 0 < 10)]
    simpa using by omega
  · have hlt := Nat.digits_lt_base hb hd
    simp only [IsDigit, toNat_digit (by omega : d < 10)]
    simpa using hlt

/-- As many digits are written as the number needs, and at least the width. -/
lemma length_digits (b w n : Nat) :
    (digits b w n).length = max w (Nat.digits b n).length := by
  simp only [digits, List.length_append, List.length_replicate, List.length_map,
    List.length_reverse]
  omega

/-- A number that fits the width is written in exactly that many digits. -/
lemma length_digits_of_lt (hb : 1 < b) {w n : Nat} (h : n < b ^ w) :
    (digits b w n).length = w := by
  rw [length_digits]
  exact max_eq_left ((Nat.digits_length_le_iff hb n).mpr h)

/-- Digits in front count as many places higher as there are digits behind them. -/
lemma value_append (b : Nat) (l l' : List UInt8) :
    value b (l ++ l') = value b l * b ^ l'.length + value b l' := by
  induction l' using List.reverseRecOn with
  | nil => simp [value]
  | append_singleton l' c ih =>
    have h (m : List UInt8) : value b (m ++ [c]) = value b m * b + (c.toNat - 48) := by
      simp [value]
    rw [← List.append_assoc, h, h, ih, List.length_append, List.length_singleton]
    ring

/-- Zeros denote zero. -/
lemma value_replicate_zero (b k : Nat) : value b (List.replicate k (digit 0)) = 0 := by
  induction k with
  | zero => rfl
  | succ k ih =>
    rw [List.replicate_succ', value_append, ih]
    simp [value, toNat_digit]

/-- The digits of a number, the last one first, denote it when they are turned round. -/
lemma value_map_digit (hb' : b ≤ 10) (ds : List Nat) (h : ∀ d ∈ ds, d < b) :
    value b (ds.reverse.map digit) = Nat.ofDigits b ds := by
  induction ds with
  | nil => rfl
  | cons d ds ih =>
    have hd := h d (by simp)
    have hs := ih fun d' hd' => h d' (by simp [hd'])
    rw [List.reverse_cons, List.map_append, value_append, hs, Nat.ofDigits_cons]
    simp only [value, List.map_cons, List.map_nil, List.length_singleton, List.foldl_cons,
      List.foldl_nil, toNat_digit (by omega : d < 10)]
    ring_nf
    omega

/-- Reading undoes writing. -/
theorem value_digits (hb : 1 < b) (hb' : b ≤ 10) (w n : Nat) : value b (digits b w n) = n := by
  rw [digits, value_append, value_replicate_zero,
    value_map_digit hb' _ fun d hd => Nat.digits_lt_base hb hd, Nat.ofDigits_digits]
  simp

/-- A string of `k` digits denotes a number below `b ^ k`. -/
lemma value_lt (l : List UInt8) (h : ∀ c ∈ l, IsDigit b c = true) : value b l < b ^ l.length := by
  induction l using List.reverseRecOn with
  | nil => simp [value]
  | append_singleton l c ih =>
    have hl := ih fun c' hc' => h c' (by simp [hc'])
    have hc := h c (by simp)
    simp only [IsDigit, Bool.and_eq_true, decide_eq_true_eq] at hc
    have hv : value b [c] < b := by
      simp only [value, List.foldl_cons, List.foldl_nil]
      omega
    rw [value_append, List.length_append, List.length_singleton, pow_one, pow_succ]
    calc value b l * b + value b [c] < value b l * b + b := by omega
      _ = (value b l + 1) * b := by ring
      _ ≤ b ^ l.length * b := Nat.mul_le_mul_right b hl

/-- The first digits of a number are the number without the power of the others. -/
lemma value_take (l : List UInt8) (h : ∀ c ∈ l, IsDigit b c = true) (k : Nat) :
    value b (l.take k) = value b l / b ^ (l.length - k) := by
  have hd : value b (l.drop k) < b ^ (l.drop k).length :=
    value_lt _ fun c hc => h c (List.mem_of_mem_drop hc)
  have e : value b l = value b (l.take k) * b ^ (l.length - k) + value b (l.drop k) := by
    have := value_append b (l.take k) (l.drop k)
    rwa [List.take_append_drop, List.length_drop] at this
  rw [List.length_drop] at hd
  rw [e, mul_comm, Nat.mul_add_div (by omega), Nat.div_eq_of_lt hd, add_zero]

/-- Two strings of as many digits that denote the same number are the same. -/
lemma value_inj {l l' : List UInt8} (h : ∀ c ∈ l, IsDigit b c = true)
    (h' : ∀ c ∈ l', IsDigit b c = true) (hl : l.length = l'.length)
    (hv : value b l = value b l') : l = l' := by
  induction l using List.reverseRecOn generalizing l' with
  | nil => exact (List.eq_nil_of_length_eq_zero hl.symm).symm
  | append_singleton l c ih =>
    rcases List.eq_nil_or_concat l' with rfl | ⟨l', c', rfl⟩
    · simp at hl
    · rw [List.concat_eq_append] at h' hl hv ⊢
      have hc := h c (by simp)
      have hc' := h' c' (by simp)
      simp only [IsDigit, Bool.and_eq_true, decide_eq_true_eq] at hc hc'
      have one (c : UInt8) : value b [c] = c.toNat - 48 := by simp [value]
      rw [value_append, value_append, one, one, List.length_singleton, List.length_singleton,
        pow_one] at hv
      -- the last digit is the remainder
      have last : c.toNat - 48 = c'.toNat - 48 := by
        have e := congrArg (· % b) hv
        simpa [Nat.mod_eq_of_lt (by omega : c.toNat - 48 < b),
          Nat.mod_eq_of_lt (by omega : c'.toNat - 48 < b)] using e
      have front : value b l = value b l' := by
        rw [last] at hv
        exact Nat.eq_of_mul_eq_mul_right (by omega) (Nat.add_right_cancel hv)
      have same : c = c' := UInt8.toNat_inj.mp (by omega)
      rw [same, ih (fun c hc => h c (by simp [hc])) (fun c hc => h' c (by simp [hc]))
        (by simpa using hl) front]

/-- A field of digits only is read whole. -/
lemma field_of_digits {l : List UInt8} (h : ∀ c ∈ l, IsDigit b c = true) :
    field b l = value b l := by
  rw [field, List.takeWhile_eq_self_iff.mpr h]

/-- A field is read up to the first byte that is not a digit. -/
lemma field_append {l : List UInt8} (h : ∀ c ∈ l, IsDigit b c = true) {z : UInt8}
    (hz : IsDigit b z = false) (l' : List UInt8) : field b (l ++ z :: l') = value b l := by
  rw [field, List.takeWhile_append_of_pos h, List.takeWhile_cons_of_neg (by simp [hz]),
    List.append_nil]

/-- Reading a field undoes writing it, whatever follows the terminator. -/
theorem field_digits (hb : 1 < b) (hb' : b ≤ 10) (w n : Nat) {z : UInt8}
    (hz : IsDigit b z = false) (l : List UInt8) : field b (digits b w n ++ z :: l) = n := by
  rw [field_append (fun c hc => isDigit_digits hb hb' hc) hz, value_digits hb hb']

end Redfin.Bytes
