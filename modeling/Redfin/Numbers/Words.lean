import Mathlib.Algebra.Ring.Int.Defs
import Mathlib.Algebra.Ring.Nat
import Mathlib.Data.Int.Notation
import Mathlib.Tactic.Common

/-!
# Machine integers and truncating division

The quotients `M / x` of a fixed dividend are antitone in `x` and adjoint to themselves
(`le_div_comm`), so that there and back never falls below where it started (`le_div_div`). A
conversion between the signed and the unsigned 32-bit integers keeps the number exactly where both
types have it (`toNat_toUInt32_eq_iff`, `toNat_eq_toInt_toInt32_iff`).
-/

namespace Redfin.Numbers

section

variable {M x y : ℕ}

/-- The quotients of a fixed dividend are adjoint to themselves. -/
lemma le_div_comm (hx : 0 < x) (hy : 0 < y) : x ≤ M / y ↔ y ≤ M / x := by
  rw [Nat.le_div_iff_mul_le hy, Nat.le_div_iff_mul_le hx, Nat.mul_comm]

/-- There and back. -/
lemma le_div_div (hx : 0 < x) (le : x ≤ M) : x ≤ M / (M / x) :=
  (le_div_comm hx (Nat.div_pos le hx)).mpr (Nat.le_refl _)

/-- There and back from below a quotient stays below it. -/
lemma div_div_le_div (hx : 0 < x) (hy : 0 < y) (le : x ≤ M / y) : M / (M / x) ≤ M / y :=
  Nat.div_le_div_left ((le_div_comm hx hy).mp le) hy

end

/-- The signed reading of a word. -/
lemma toInt_toInt32 (n : UInt32) :
    (n.toNat < 2 ^ 31 ∧ n.toInt32.toInt = n.toNat) ∨
      (2 ^ 31 ≤ n.toNat ∧ n.toInt32.toInt = n.toNat - 2 ^ 32) := by
  rw [← Int32.toInt_toBitVec, UInt32.toBitVec_toInt32, BitVec.toInt_eq_toNat_cond,
    UInt32.toNat_toBitVec]
  split
  · exact .inl ⟨by omega, rfl⟩
  · exact .inr ⟨by omega, rfl⟩

/-- An unsigned integer is kept exactly when its top bit is clear. -/
lemma toNat_eq_toInt_toInt32_iff (n : UInt32) :
    (n.toNat : ℤ) = n.toInt32.toInt ↔ n.toNat < 2 ^ 31 := by
  have word := toInt_toInt32 n
  omega

/-- A signed integer is kept exactly when it is not negative. -/
lemma toNat_toUInt32_eq_iff (t : Int32) : (t.toUInt32.toNat : ℤ) = t.toInt ↔ 0 ≤ t.toInt := by
  have word := toInt_toInt32 t.toUInt32
  rw [Int32.toInt32_toUInt32] at word
  have bound := t.toUInt32.toNat_lt
  omega

end Redfin.Numbers
