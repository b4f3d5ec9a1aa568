import Redfin.Drv2624.Cubic

/-!
# The outputs of the cubic equation

What `targetGToVlevelsUnderCubicEquation` returns, over all its cases: when it returns 0 or a valid
output at all (`wellBehaved_iff`), and that its output solves the equation (`solves`).
-/

namespace Redfin.Drv2624

noncomputable section

/-! ## The function by its cases -/

open Shengjin

section

variable (inputCoeffs : Coeffs) (targetG : ℝ)

def Case1 : Prop := |AA inputCoeffs| ≤ FLOAT_EPS ∧ |BB inputCoeffs targetG| ≤ FLOAT_EPS

def Case2 : Prop := ¬Case1 inputCoeffs targetG ∧ FLOAT_EPS < Delta inputCoeffs targetG

def Case3 : Prop := ¬Case1 inputCoeffs targetG ∧ Delta inputCoeffs targetG < -FLOAT_EPS

def Case4 : Prop := ¬Case1 inputCoeffs targetG ∧ |Delta inputCoeffs targetG| ≤ FLOAT_EPS

end

variable {inputCoeffs : Coeffs} {targetG : ℝ}

/-- In the second case the discriminant is positive. -/
lemma Case2.pos (h : Case2 inputCoeffs targetG) : 0 < Delta inputCoeffs targetG :=
  FLOAT_EPS_pos.trans h.2

/-- In the third case the discriminant is negative. -/
lemma Case3.neg (h : Case3 inputCoeffs targetG) : Delta inputCoeffs targetG < 0 :=
  h.2.trans (neg_neg_of_pos FLOAT_EPS_pos)

/-- The first case is taken where its condition holds. -/
lemma solve_case1 (h : Case1 inputCoeffs targetG) :
    targetGToVlevelsUnderCubicEquation inputCoeffs targetG = case1 inputCoeffs :=
  if_pos h

/-- The second case is taken where its condition holds. -/
lemma solve_case2 (h : Case2 inputCoeffs targetG) :
    targetGToVlevelsUnderCubicEquation inputCoeffs targetG = case2 inputCoeffs targetG :=
  (if_neg h.1).trans (if_pos h.2)

/-- The third case is taken where its condition holds. -/
lemma solve_case3 (h : Case3 inputCoeffs targetG) :
    targetGToVlevelsUnderCubicEquation inputCoeffs targetG = case3 inputCoeffs targetG := by
  have eps := FLOAT_EPS_pos
  have low : ¬Delta inputCoeffs targetG > FLOAT_EPS := by linarith [h.2]
  exact (if_neg h.1).trans ((if_neg low).trans (if_pos h.2))

/-- The fourth case is taken where its condition holds. -/
lemma solve_case4 (h : Case4 inputCoeffs targetG) :
    targetGToVlevelsUnderCubicEquation inputCoeffs targetG = case4 inputCoeffs targetG := by
  obtain ⟨low, high⟩ := abs_le.mp h.2
  exact (if_neg h.1).trans ((if_neg high.not_gt).trans ((if_neg low.not_gt).trans (if_pos high)))

/-- Every input is in one of the cases. -/
lemma exists_case (inputCoeffs : Coeffs) (targetG : ℝ) :
    Case1 inputCoeffs targetG ∨ Case2 inputCoeffs targetG ∨ Case3 inputCoeffs targetG ∨
      Case4 inputCoeffs targetG := by
  by_cases h : Case1 inputCoeffs targetG
  · exact .inl h
  · rcases lt_or_ge FLOAT_EPS (Delta inputCoeffs targetG) with high | high
    · exact .inr (.inl ⟨h, high⟩)
    · rcases lt_or_ge (Delta inputCoeffs targetG) (-FLOAT_EPS) with low | low
      · exact .inr (.inr (.inl ⟨h, low⟩))
      · exact .inr (.inr (.inr ⟨h, abs_le.mpr ⟨low, high⟩⟩))

/-- A result of the function: every operation was defined, and the output is 0 or valid. -/
def WellBehaved (output : Option ℝ) : Prop := ∃ v, output = some v ∧ (v = 0 ∨ Valid v)

/-- The first valid candidate is in range, or it is zero. -/
lemma wellBehaved_firstValid (candidates : List ℝ) :
    WellBehaved (firstValid (candidates.map some)) := by
  obtain ⟨v, hv, ⟨-, valid⟩ | ⟨zero, -⟩⟩ := firstValid_map_some candidates
  · exact ⟨v, hv, .inr valid⟩
  · exact ⟨v, hv, .inl zero⟩

/-- The only solution is 0 or a valid output: 0 solves the equation, or the polynomial crosses the
target between the bounds of the output. -/
def SolutionInRange (inputCoeffs : Coeffs) (targetG : ℝ) : Prop :=
  cubic inputCoeffs 0 = targetG ∨
    (inputCoeffs.a * (cubic inputCoeffs FLOAT_EPS - targetG) < 0 ∧
      0 ≤ inputCoeffs.a * (cubic inputCoeffs MAX_VOLTAGE - targetG))

/-- With one solution, that one is to be in range. -/
lemma solutionInRange_iff (ha : inputCoeffs.a ≠ 0) (pos : 0 < Delta inputCoeffs targetG) :
    SolutionInRange inputCoeffs targetG ↔
      simpleRoot inputCoeffs targetG = 0 ∨ Valid (simpleRoot inputCoeffs targetG) := by
  have upper : 0 ≤ inputCoeffs.a * (cubic inputCoeffs MAX_VOLTAGE - targetG) ↔
      simpleRoot inputCoeffs targetG ≤ MAX_VOLTAGE := by
    rw [← not_lt, ← lt_simpleRoot_iff ha pos, not_lt]
  unfold SolutionInRange Valid
  rw [← eq_simpleRoot_iff ha pos, ← lt_simpleRoot_iff ha pos, upper, eq_comm]

/-- The second case is well behaved exactly if it has a value and the solution is in range. -/
lemma wellBehaved_case2_iff (ha : inputCoeffs.a ≠ 0) (pos : 0 < Delta inputCoeffs targetG) :
    WellBehaved (case2 inputCoeffs targetG) ↔
      Defined inputCoeffs targetG ∧ SolutionInRange inputCoeffs targetG := by
  rw [solutionInRange_iff ha pos, case2_eq ha pos.le]
  constructor
  · rintro ⟨v, hv, good⟩
    split_ifs at hv with defined
    cases hv
    exact ⟨defined, good⟩
  · rintro ⟨defined, good⟩
    exact ⟨_, if_pos defined, good⟩

/-- The fourth case is well behaved exactly if it does not divide by zero. -/
lemma wellBehaved_case4_iff (ha : inputCoeffs.a ≠ 0) :
    WellBehaved (case4 inputCoeffs targetG) ↔ AA inputCoeffs ≠ 0 := by
  constructor
  · rintro ⟨v, hv, -⟩ hA
    rw [case4_undefined hA] at hv
    cases hv
  · intro hA
    rw [case4_eq ha hA]
    exact wellBehaved_firstValid _

/-- The function is well behaved but for the second case, whose fractional powers may be of
negative numbers and whose output is not compared with the bounds, and for the fourth, which
divides by A. -/
theorem wellBehaved_iff (inputCoeffs : Coeffs) (targetG : ℝ) (ha : inputCoeffs.a ≠ 0) :
    WellBehaved (targetGToVlevelsUnderCubicEquation inputCoeffs targetG) ↔
      (Case2 inputCoeffs targetG →
        Defined inputCoeffs targetG ∧ SolutionInRange inputCoeffs targetG) ∧
      (Case4 inputCoeffs targetG → AA inputCoeffs ≠ 0) := by
  have eps := FLOAT_EPS_pos
  obtain h | h | h | h := exists_case inputCoeffs targetG
  · rw [solve_case1 h, case1_eq ha]
    refine iff_of_true (wellBehaved_firstValid _) ⟨fun h' => ?_, fun h' => ?_⟩
    · exact absurd h h'.1
    · exact absurd h h'.1
  · rw [solve_case2 h, wellBehaved_case2_iff ha h.pos]
    constructor
    · intro good
      exact ⟨fun _ => good, fun h' => absurd (abs_le.mp h'.2).2 h.2.not_ge⟩
    · intro good
      exact good.1 h
  · rw [solve_case3 h, case3_eq ha h.neg]
    refine iff_of_true (wellBehaved_firstValid _) ⟨fun h' => ?_, fun h' => ?_⟩
    · exact absurd h.2 (by linarith [h'.2])
    · exact absurd (abs_le.mp h'.2).1 h.2.not_ge
  · rw [solve_case4 h, wellBehaved_case4_iff ha]
    constructor
    · intro good
      exact ⟨fun h' => absurd (abs_le.mp h.2).2 h'.2.not_ge, fun _ => good⟩
    · intro good
      exact good.2 h

/-- The solution 1 is well behaved. -/
theorem wellBehaved_one : WellBehaved (targetGToVlevelsUnderCubicEquation ![1, 0, 3, 0] 4) := by
  apply (wellBehaved_iff ![1, 0, 3, 0] 4 (by simp)).mpr
  norm_num [Case2, Case4, Case1, Defined, SolutionInRange, cubic, AA_eq, BB_eq, CC_eq,
    Delta_eq, numerator_eq, FLOAT_EPS, MAX_VOLTAGE]

/-- With a pure cube the function takes a fractional power of a negative number for a target whose
voltage level is 1, returns -2 for a target below, and divides by zero close to the constant
term. -/
theorem not_wellBehaved_cube :
    ¬WellBehaved (targetGToVlevelsUnderCubicEquation ![1, 0, 0, 1] 2) ∧
    ¬WellBehaved (targetGToVlevelsUnderCubicEquation ![1, 0, 0, 1] (-7)) ∧
    ¬WellBehaved (targetGToVlevelsUnderCubicEquation ![1, 0, 0, 1] (1 - 1e-5)) := by
  refine ⟨?_, ?_, ?_⟩
  · have h : Case2 ![1, 0, 0, 1] 2 := by
      norm_num [Case2, Case1, AA_eq, BB_eq, CC_eq, Delta_eq, FLOAT_EPS]
    rw [solve_case2 h, wellBehaved_case2_iff (by simp) h.pos]
    norm_num [Defined, AA_eq, BB_eq, numerator_eq, FLOAT_EPS]
  · have h : Case2 ![1, 0, 0, 1] (-7) := by
      norm_num [Case2, Case1, AA_eq, BB_eq, CC_eq, Delta_eq, FLOAT_EPS]
    rw [solve_case2 h, wellBehaved_case2_iff (by simp) h.pos]
    norm_num [SolutionInRange, cubic, FLOAT_EPS]
  · have h : Case4 ![1, 0, 0, 1] (1 - 1e-5) := by
      norm_num [Case4, Case1, AA_eq, BB_eq, CC_eq, Delta_eq, FLOAT_EPS, abs_of_pos]
    rw [solve_case4 h, wellBehaved_case4_iff (by simp)]
    norm_num [AA_eq]

/-! ## The outputs solve the equation -/

/-- What is returned and is not zero is one of the candidates. -/
lemma mem_of_firstValid {candidates : List ℝ} {v : ℝ} (hv : v ≠ 0)
    (h : firstValid (candidates.map some) = some v) : v ∈ candidates := by
  obtain ⟨v', hv', chosen⟩ := firstValid_map_some candidates
  obtain rfl : v' = v := Option.some.inj (hv'.symm.trans h)
  obtain ⟨mem, -⟩ | ⟨zero, -⟩ := chosen
  · exact mem
  · exact absurd zero hv

/-- Where zero is returned none of the candidates is valid. -/
lemma not_valid_of_firstValid {candidates : List ℝ}
    (h : firstValid (candidates.map some) = some 0) : ∀ x ∈ candidates, ¬Valid x := by
  obtain ⟨v', hv', chosen⟩ := firstValid_map_some candidates
  obtain rfl : v' = 0 := Option.some.inj (hv'.symm.trans h)
  obtain ⟨-, valid⟩ | ⟨-, all⟩ := chosen
  · exact absurd valid.1 FLOAT_EPS_pos.not_gt
  · exact all

/-- The third case returns 0 if no solution is valid. -/
lemma solve_eq_zero (ha : inputCoeffs.a ≠ 0) (h : Case3 inputCoeffs targetG)
    (out : ∀ x, cubic inputCoeffs x = targetG → ¬Valid x) :
    targetGToVlevelsUnderCubicEquation inputCoeffs targetG = some 0 := by
  rw [solve_case3 h, case3_eq ha h.neg]
  obtain ⟨v, hv, ⟨mem, valid⟩ | ⟨rfl, -⟩⟩ := firstValid_map_some (roots inputCoeffs targetG)
  · exact absurd valid (out v ((mem_roots_iff ha h.neg v).mp mem))
  · exact hv

/-- The outputs that are to solve the equation: all of the second case, and those other than 0 of
the third, of the first where A and B are zero and of the fourth where Delta is zero. -/
inductive Exact (inputCoeffs : Coeffs) (targetG v : ℝ) : Prop where
  | case1 (hA : AA inputCoeffs = 0) (hB : BB inputCoeffs targetG = 0) (hv : v ≠ 0)
  | case2 (h : Case2 inputCoeffs targetG)
  | case3 (h : Case3 inputCoeffs targetG) (hv : v ≠ 0)
  | case4 (h : Case4 inputCoeffs targetG) (zero : Delta inputCoeffs targetG = 0) (hv : v ≠ 0)

/-- The formula as coded is right in every case. In the third the equation has three solutions, and
the output is not 0 if one of them is valid. -/
theorem solves (inputCoeffs : Coeffs) (targetG : ℝ) (ha : inputCoeffs.a ≠ 0) :
    (∀ v, targetGToVlevelsUnderCubicEquation inputCoeffs targetG = some v →
      Exact inputCoeffs targetG v → cubic inputCoeffs v = targetG) ∧
    (Case3 inputCoeffs targetG → ∃ solutions : List ℝ, solutions.length = 3 ∧ solutions.Nodup ∧
      (∀ x, x ∈ solutions ↔ cubic inputCoeffs x = targetG) ∧
      (targetGToVlevelsUnderCubicEquation inputCoeffs targetG = some 0 →
        ∀ x ∈ solutions, ¬Valid x)) := by
  have eps := FLOAT_EPS_pos
  constructor
  · intro v hv kind
    cases kind with
    | case1 hA hB hv0 =>
      have h : Case1 inputCoeffs targetG := by
        rw [Case1, hA, hB, abs_zero]
        exact ⟨eps.le, eps.le⟩
      rw [solve_case1 h, case1_eq ha] at hv
      rw [List.mem_singleton.mp (mem_of_firstValid hv0 hv)]
      exact cubic_triple ha hA hB
    | case2 h =>
      rw [solve_case2 h, case2_eq ha h.pos.le] at hv
      split_ifs at hv
      cases hv
      exact cubic_simpleRoot ha h.pos.le
    | case3 h hv0 =>
      rw [solve_case3 h, case3_eq ha h.neg] at hv
      exact (mem_roots_iff ha h.neg v).mp (mem_of_firstValid hv0 hv)
    | case4 h zero hv0 =>
      rw [solve_case4 h] at hv
      have hA : AA inputCoeffs ≠ 0 := by
        intro hA
        rw [case4_undefined hA] at hv
        cases hv
      rw [case4_eq ha hA] at hv
      exact cubic_of_mem_repeated ha hA zero (mem_of_firstValid hv0 hv)
  · intro h
    rw [solve_case3 h, case3_eq ha h.neg]
    exact ⟨roots inputCoeffs targetG, rfl, nodup_roots ha h.neg, mem_roots_iff ha h.neg,
      not_valid_of_firstValid⟩

/-- Where the second case returns 1, it solves its equation; where the third returns 0, the solution
-1 is not valid. -/
theorem solves_one :
    targetGToVlevelsUnderCubicEquation ![1, 0, 3, 0] 4 = some 1 ∧ cubic ![1, 0, 3, 0] 1 = 4 ∧
      targetGToVlevelsUnderCubicEquation ![1, 6, 11, 6] 0 = some 0 ∧ ¬Valid (-1) := by
  have second : Case2 ![1, 0, 3, 0] 4 := by
    norm_num [Case2, Case1, AA_eq, BB_eq, CC_eq, Delta_eq, FLOAT_EPS]
  have one : 1 = simpleRoot ![1, 0, 3, 0] 4 := by
    rw [eq_simpleRoot_iff (by simp) second.pos]
    norm_num [cubic]
  have returned : targetGToVlevelsUnderCubicEquation ![1, 0, 3, 0] 4 = some 1 := by
    rw [solve_case2 second, case2_eq (by simp) second.pos.le, ← one]
    apply if_pos
    norm_num [Defined, AA_eq, BB_eq, numerator_eq, FLOAT_EPS]
  have third : Case3 ![1, 6, 11, 6] 0 := by
    norm_num [Case3, Case1, AA_eq, BB_eq, CC_eq, Delta_eq, FLOAT_EPS]
  have none : targetGToVlevelsUnderCubicEquation ![1, 6, 11, 6] 0 = some 0 := by
    apply solve_eq_zero (by simp) third
    intro x solution valid
    simp only [cubic, a_vec, b_vec, c_vec, d_vec] at solution
    have pos : 0 < x := FLOAT_EPS_pos.trans valid.1
    have above : 0 < 1 * x ^ 3 + 6 * x ^ 2 + 11 * x + 6 := by positivity
    exact above.ne' solution
  obtain ⟨solutions, -, -, mem, missed⟩ := (solves ![1, 6, 11, 6] 0 (by simp)).2 third
  refine ⟨returned, ?_, none, missed none (-1) ((mem (-1)).mpr (by norm_num [cubic]))⟩
  exact (solves ![1, 0, 3, 0] 4 (by simp)).1 1 returned (.case2 second)

end

end Redfin.Drv2624
