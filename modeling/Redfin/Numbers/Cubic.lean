import Mathlib.Analysis.SpecialFunctions.Pow.Real
import Mathlib.Tactic.LinearCombination

/-!
# Cubic equations

A cubic equation `a x³ + b x² + c x + e = 0` becomes, in `y = 3 a x + b`, the depressed equation
`y³ - 3 A y + S = 0`. What its roots are depends on the sign of `S² - 4 A³`: the quadratic
`z² - S z + A³` has two roots, one or none, and the solution is by cube roots, by a repeated root
or by angles.
-/

namespace Redfin.Numbers

section

variable {R : Type*} [CommRing R] {A S y₀ : R}

/-- The depressed cubic. -/
def depressed (A S y : R) : R := y ^ 3 - 3 * A * y + S

/-- The substitution `y = 3 a x + b`. -/
lemma depressed_linear (a b c e x : R) :
    depressed (b * b - 3 * a * c)
        (2 * (b * b - 3 * a * c) * b - 3 * a * (b * c - 9 * a * e)) (3 * a * x + b) =
      27 * a ^ 2 * (a * x ^ 3 + b * x ^ 2 + c * x + e) := by
  unfold depressed
  ring

/-- A root splits off. -/
lemma depressed_eq_mul (h : depressed A S y₀ = 0) (y : R) :
    depressed A S y = (y - y₀) * (y ^ 2 + y * y₀ + y₀ ^ 2 - 3 * A) := by
  unfold depressed at *
  linear_combination h

/-- The discriminant of the quadratic by a root of the cubic. -/
lemma discrim_of_depressed (h : depressed A S y₀ = 0) :
    S ^ 2 - 4 * A ^ 3 = (y₀ ^ 2 - A) ^ 2 * (y₀ ^ 2 - 4 * A) := by
  have hS : S = 3 * A * y₀ - y₀ ^ 3 := by
    unfold depressed at h
    linear_combination h
  rw [hS]
  ring

/-- The root by cube roots. -/
lemma depressed_neg_add (u w : R) : depressed (u * w) (u ^ 3 + w ^ 3) (-(u + w)) = 0 := by
  unfold depressed
  ring

/-- The roots by an angle `φ` with `c = cos φ`, `s = sin φ` and `k = √3`. -/
lemma depressed_angle {c s k : R} (unit : c ^ 2 + s ^ 2 = 1) (hk : k ^ 2 = 3) (r y : R) :
    depressed (r ^ 2) (2 * r ^ 3 * (4 * c ^ 3 - 3 * c)) y =
      (y + 2 * r * c) * (y - r * (c + k * s)) * (y - r * (c - k * s)) := by
  unfold depressed
  linear_combination
    (3 * r ^ 2 * y + 6 * r ^ 3 * c) * unit + (r ^ 2 * s ^ 2 * (y + 2 * r * c)) * hk

end

/-! ## The roots by the sign of the discriminant -/

section

variable {K : Type*} [Field K] {A S : K}

/-- The roots with a repeated one. -/
lemma depressed_repeated [NeZero (2 : K)] (hA : A ≠ 0) (h : S ^ 2 = 4 * A ^ 3) (y : K) :
    depressed A S y = (y + S / A) * (y - S / (2 * A)) ^ 2 := by
  have two : (2 : K) ≠ 0 := NeZero.ne 2
  obtain ⟨t, rfl⟩ : ∃ t, S = 2 * A * t := ⟨S / (2 * A), by field_simp⟩
  have ht : t ^ 2 = A := by
    apply mul_left_cancel₀ (pow_ne_zero 2 (mul_ne_zero two hA))
    linear_combination h
  have h₁ : 2 * A * t / A = 2 * t := by field_simp
  have h₂ : 2 * A * t / (2 * A) = t := by field_simp
  rw [h₁, h₂, ← ht]
  unfold depressed
  ring

variable [LinearOrder K] [IsStrictOrderedRing K] {y₀ : K}

/-- The quadratic factor that a simple root leaves has no root. -/
lemma factor_pos (h : depressed A S y₀ = 0) (pos : 0 < S ^ 2 - 4 * A ^ 3) (y : K) :
    0 < y ^ 2 + y * y₀ + y₀ ^ 2 - 3 * A := by
  have far : 4 * A < y₀ ^ 2 := by
    rw [discrim_of_depressed h] at pos
    exact sub_pos.mp (pos_of_mul_pos_right pos (sq_nonneg _))
  linarith [sq_nonneg (y + y₀ / 2), show y ^ 2 + y * y₀ + y₀ ^ 2 - 3 * A =
    (y + y₀ / 2) ^ 2 + 3 / 4 * (y₀ ^ 2 - 4 * A) by ring]

/-- `A` is positive where the quadratic has no root. -/
lemma pos_of_discrim_neg (neg : S ^ 2 - 4 * A ^ 3 < 0) : 0 < A := by
  by_contra hA
  have cube : A ^ 3 ≤ 0 := Odd.pow_nonpos (by decide) (not_lt.mp hA)
  linarith [sq_nonneg S]

end

/-! ## Two numbers by their sum and their product -/

section

variable {K : Type*} [Field K] [LinearOrder K] [IsStrictOrderedRing K] {u w ε : K}

/-- Two numbers are not negative exactly if neither their product nor their sum is. -/
lemma nonneg_and_nonneg_iff : 0 ≤ u ∧ 0 ≤ w ↔ 0 ≤ u * w ∧ 0 ≤ u + w := by
  constructor
  · rintro ⟨hu, hw⟩
    exact ⟨mul_nonneg hu hw, add_nonneg hu hw⟩
  · rintro ⟨mul, add⟩
    obtain both | ⟨hu, hw⟩ := nonneg_and_nonneg_or_nonpos_and_nonpos_of_mul_nonneg mul
    · exact both
    · constructor <;> linarith

/-- Two numbers lie below a bound exactly if their sum lies below twice the bound and both lie on
the same side of it. -/
lemma lt_neg_and_lt_neg_iff :
    u < -ε ∧ w < -ε ↔ u + w < -(ε + ε) ∧ 0 < ε ^ 2 + ε * (u + w) + u * w := by
  rw [show ε ^ 2 + ε * (u + w) + u * w = (ε + u) * (ε + w) by ring]
  constructor
  · rintro ⟨hu, hw⟩
    refine ⟨by linarith, ?_⟩
    apply mul_pos_of_neg_of_neg <;> linarith
  · rintro ⟨add, mul⟩
    obtain ⟨hu, hw⟩ | ⟨hu, hw⟩ := mul_pos_iff.mp mul
    · exact absurd add (by linarith)
    · constructor <;> linarith

/-- A number lies below a negative bound and a positive one above its opposite exactly if a
quadratic form is negative. -/
lemma lt_neg_and_lt_iff (hε : 0 < ε) (hw : 0 < w) :
    u < -ε ∧ ε < w ↔ ε ^ 2 + ε * |u + w| + u * w < 0 := by
  have sum : ε ^ 2 + ε * (u + w) + u * w = (ε + u) * (ε + w) := by ring
  have difference : ε ^ 2 + ε * -(u + w) + u * w = (ε - u) * (ε - w) := by ring
  constructor
  · rintro ⟨hu', hw'⟩
    rcases abs_choice (u + w) with h | h
    · rw [h, sum]
      apply mul_neg_of_neg_of_pos <;> linarith
    · rw [h, difference]
      apply mul_neg_of_pos_of_neg <;> linarith
  · intro h
    have below : (ε + u) * (ε + w) < 0 := by
      rw [← sum]
      linarith [mul_le_mul_of_nonneg_left (le_abs_self (u + w)) hε.le]
    have above : (ε - u) * (ε - w) < 0 := by
      rw [← difference]
      linarith [mul_le_mul_of_nonneg_left (neg_le_abs (u + w)) hε.le]
    have hu' := neg_of_mul_neg_left below (by linarith)
    have hw' := neg_of_mul_neg_right above (by linarith)
    constructor <;> linarith

/-- Two numbers of opposite signs are both larger than a bound exactly if a quadratic form is
negative. -/
lemma lt_abs_and_lt_abs_iff (hε : 0 < ε) (opposite : u * w < 0) :
    ε < |u| ∧ ε < |w| ↔ ε ^ 2 + ε * |u + w| + u * w < 0 := by
  obtain ⟨hu, hw⟩ | ⟨hu, hw⟩ := mul_neg_iff.mp opposite
  · rw [abs_of_pos hu, abs_of_neg hw, add_comm u, mul_comm u, ← lt_neg_and_lt_iff hε hu,
      and_comm, lt_neg]
  · rw [abs_of_neg hu, abs_of_pos hw, ← lt_neg_and_lt_iff hε hw, lt_neg]

/-- Two numbers away from zero, or neither negative. -/
lemma away_or_nonneg_iff (hε : 0 < ε) :
    (ε < |u| ∧ ε < |w|) ∨ (0 ≤ u ∧ 0 ≤ w) ↔
      (0 ≤ u * w ∧ 0 ≤ u + w) ∨
      (0 ≤ u * w ∧ u + w < -(ε + ε) ∧ 0 < ε ^ 2 + ε * (u + w) + u * w) ∨
      (u * w < 0 ∧ ε ^ 2 + ε * |u + w| + u * w < 0) := by
  rw [← lt_neg_and_lt_neg_iff, ← nonneg_and_nonneg_iff]
  rcases lt_or_ge (u * w) 0 with opposite | same
  · rw [lt_abs_and_lt_abs_iff hε opposite]
    have apart : ¬(0 ≤ u ∧ 0 ≤ w) := fun ⟨hu, hw⟩ => absurd opposite (mul_nonneg hu hw).not_gt
    simp only [opposite, opposite.not_ge, apart, or_false, false_or, true_and, false_and]
  · simp only [same, same.not_gt, true_and, false_and, or_false]
    constructor
    · rintro (⟨hu, hw⟩ | both)
      · obtain both | ⟨hu', hw'⟩ := nonneg_and_nonneg_or_nonpos_and_nonpos_of_mul_nonneg same
        · exact .inl both
        · rw [abs_of_nonpos hu', lt_neg] at hu
          rw [abs_of_nonpos hw', lt_neg] at hw
          exact .inr ⟨hu, hw⟩
      · exact .inl both
    · rintro (both | ⟨hu, hw⟩)
      · exact .inr both
      · exact .inl ⟨lt_abs.mpr (.inr (lt_neg.mpr hu)), lt_abs.mpr (.inr (lt_neg.mpr hw))⟩

end

/-! ## Real cube roots -/

/-- The cube root of a real number of either sign. -/
noncomputable def cbrt (x : ℝ) : ℝ := if 0 ≤ x then x ^ (1 / 3 : ℝ) else -(-x) ^ (1 / 3 : ℝ)

/-- The cube root of a number that is not negative is its power. -/
lemma cbrt_of_nonneg {x : ℝ} (hx : 0 ≤ x) : cbrt x = x ^ (1 / 3 : ℝ) := if_pos hx

/-- The cube root of a negative number is the opposite of that of its opposite. -/
lemma cbrt_of_neg {x : ℝ} (hx : x < 0) : cbrt x = -(-x) ^ (1 / 3 : ℝ) := if_neg hx.not_ge

/-- The third power undoes the power of a third. -/
lemma rpow_third_pow {x : ℝ} (hx : 0 ≤ x) : (x ^ (1 / 3 : ℝ)) ^ 3 = x := by
  rw [one_div]
  exact Real.rpow_inv_natCast_pow hx (by decide)

/-- The third power undoes the cube root. -/
@[simp] lemma cbrt_pow (x : ℝ) : cbrt x ^ 3 = x := by
  rcases le_or_gt 0 x with hx | hx
  · rw [cbrt_of_nonneg hx, rpow_third_pow hx]
  · rw [cbrt_of_neg hx, Odd.neg_pow (by decide), rpow_third_pow (neg_nonneg.mpr hx.le), neg_neg]

/-- Cube roots solve the cubic if they are taken of the roots of the quadratic. -/
lemma depressed_cbrt {A S u w : ℝ} (sum : u + w = S) (product : u * w = A ^ 3) :
    depressed A S (-(cbrt u + cbrt w)) = 0 := by
  have hA : cbrt u * cbrt w = A := by
    apply (Odd.pow_inj (n := 3) (by decide)).mp
    rw [mul_pow, cbrt_pow, cbrt_pow, product]
  have root := depressed_neg_add (cbrt u) (cbrt w)
  rwa [hA, cbrt_pow, cbrt_pow, sum] at root

end Redfin.Numbers
