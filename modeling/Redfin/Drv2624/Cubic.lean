import Mathlib.Analysis.SpecialFunctions.Trigonometric.Inverse
import Redfin.Drv2624.Calibration
import Redfin.Numbers.Cubic

/-!
# The cubic equation of the voltage levels

`targetGToVlevelsUnderCubicEquation` in exact real arithmetic. An operation that is not defined on
its operands, a division by zero, a square root or a fractional power of a negative number or an
arc cosine of a number outside `[-1, 1]`, has no value, and neither has the function where it
performs one.
-/

namespace Redfin.Drv2624

open Numbers

noncomputable section

def FLOAT_EPS : ℝ := 1e-7

/-! ## Operations that may be undefined -/

def div? (x y : ℝ) : Option ℝ := if y = 0 then none else some (x / y)

def sqrt? (x : ℝ) : Option ℝ := if x < 0 then none else some √x

/-- `pow` with an exponent that is a fraction. -/
def pow? (x y : ℝ) : Option ℝ := if x < 0 then none else some (x ^ y)

def acos? (x : ℝ) : Option ℝ := if |x| ≤ 1 then some (Real.arccos x) else none

/-! ## The function -/

/-- The valid output. -/
def Valid (outPutVal : ℝ) : Prop := FLOAT_EPS < outPutVal ∧ outPutVal ≤ MAX_VOLTAGE

/-- The candidates are computed one after the other; the first one that is valid is returned, and 0
if there is none. -/
def firstValid : List (Option ℝ) → Option ℝ
  | [] => some 0
  | none :: _ => none
  | some outPutVal :: candidates =>
    open Classical in if Valid outPutVal then some outPutVal else firstValid candidates

def oneHalf : ℝ := 1.0 / 2.0
def oneThird : ℝ := 1.0 / 3.0

namespace Shengjin

section

variable (inputCoeffs : Coeffs) (targetG : ℝ)

def AA : ℝ := inputCoeffs.b * inputCoeffs.b - 3.0 * inputCoeffs.a * inputCoeffs.c

def BB : ℝ := inputCoeffs.b * inputCoeffs.c - 9.0 * inputCoeffs.a * (inputCoeffs.d - targetG)

def CC : ℝ := inputCoeffs.c * inputCoeffs.c - 3.0 * inputCoeffs.b * (inputCoeffs.d - targetG)

def Delta : ℝ :=
  BB inputCoeffs targetG * BB inputCoeffs targetG -
    4.0 * AA inputCoeffs * CC inputCoeffs targetG

def Y1 (root : ℝ) : ℝ :=
  AA inputCoeffs * inputCoeffs.b + 3.0 * inputCoeffs.a * (-BB inputCoeffs targetG + root) / 2.0

def Y2 (root : ℝ) : ℝ :=
  AA inputCoeffs * inputCoeffs.b + 3.0 * inputCoeffs.a * (-BB inputCoeffs targetG - root) / 2.0

/-- The numerator of `T`. -/
def numerator : ℝ :=
  2.0 * AA inputCoeffs * inputCoeffs.b - 3.0 * inputCoeffs.a * BB inputCoeffs targetG

/-- Case 1: A = B = 0. -/
def case1 : Option ℝ := firstValid [div? (-inputCoeffs.b) (3.0 * inputCoeffs.a)]

/-- The outputs of the second case. -/
def fromY (Y1 Y2 : ℝ) : Option ℝ :=
  if Y1 < -FLOAT_EPS ∧ Y2 > FLOAT_EPS then do
    div? (-inputCoeffs.b + (← pow? (-Y1) oneThird) - (← pow? Y2 oneThird)) (3.0 * inputCoeffs.a)
  else if Y1 > FLOAT_EPS ∧ Y2 < -FLOAT_EPS then do
    div? (-inputCoeffs.b - (← pow? Y1 oneThird) + (← pow? (-Y2) oneThird)) (3.0 * inputCoeffs.a)
  else if Y1 < -FLOAT_EPS ∧ Y2 < -FLOAT_EPS then do
    div? (-inputCoeffs.b + (← pow? (-Y1) oneThird) + (← pow? (-Y2) oneThird)) (3.0 * inputCoeffs.a)
  else do
    div? (-inputCoeffs.b - (← pow? Y1 oneThird) - (← pow? Y2 oneThird)) (3.0 * inputCoeffs.a)

/-- Case 2: Delta > 0. -/
def case2 : Option ℝ := do
  let root ← pow? (Delta inputCoeffs targetG) oneHalf
  fromY inputCoeffs (Y1 inputCoeffs targetG root) (Y2 inputCoeffs targetG root)

/-- Case 3: Delta < 0. -/
def case3 : Option ℝ := do
  let sqrtA ← sqrt? (AA inputCoeffs)
  let T ← div? (numerator inputCoeffs targetG) (2.0 * AA inputCoeffs * sqrtA)
  let sita ← acos? T
  let cosSita := Real.cos (sita / 3.0)
  let sinSitaSqrt3 := (← sqrt? 3.0) * Real.sin (sita / 3.0)
  firstValid [
    div? (-inputCoeffs.b - 2.0 * sqrtA * cosSita) (3.0 * inputCoeffs.a),
    div? (-inputCoeffs.b + sqrtA * (cosSita + sinSitaSqrt3)) (3.0 * inputCoeffs.a),
    div? (-inputCoeffs.b + sqrtA * (cosSita - sinSitaSqrt3)) (3.0 * inputCoeffs.a)]

/-- Case 4: Delta = 0. -/
def case4 : Option ℝ := do
  let K ← div? (BB inputCoeffs targetG) (AA inputCoeffs)
  firstValid [(div? (-inputCoeffs.b) (inputCoeffs.a)).map (· + K), some (-K / 2.0)]

end

end Shengjin

open Shengjin in
def targetGToVlevelsUnderCubicEquation (inputCoeffs : Coeffs) (targetG : ℝ) : Option ℝ :=
  if |AA inputCoeffs| ≤ FLOAT_EPS ∧ |BB inputCoeffs targetG| ≤ FLOAT_EPS then case1 inputCoeffs
  else if Delta inputCoeffs targetG > FLOAT_EPS then case2 inputCoeffs targetG
  else if Delta inputCoeffs targetG < -FLOAT_EPS then case3 inputCoeffs targetG
  else if Delta inputCoeffs targetG ≤ FLOAT_EPS then case4 inputCoeffs targetG
  else some 0

/-- The polynomial of the coefficients. -/
def cubic (inputCoeffs : Coeffs) (x : ℝ) : ℝ :=
  inputCoeffs.a * x ^ 3 + inputCoeffs.b * x ^ 2 + inputCoeffs.c * x + inputCoeffs.d

/-! ## The operations where they are defined -/

/-- The bound of the comparisons is positive. -/
lemma FLOAT_EPS_pos : 0 < FLOAT_EPS := by
  unfold FLOAT_EPS
  norm_num

/-- A quotient by a number other than zero. -/
lemma div?_of_ne {x y : ℝ} (hy : y ≠ 0) : div? x y = some (x / y) := if_neg hy

/-- A quotient by zero has no value. -/
lemma div?_zero (x : ℝ) : div? x 0 = none := if_pos rfl

/-- A root of a number that is not negative. -/
lemma sqrt?_of_nonneg {x : ℝ} (hx : 0 ≤ x) : sqrt? x = some √x := if_neg hx.not_gt

/-- An angle of a cosine in its range. -/
lemma acos?_of_le {x : ℝ} (hx : |x| ≤ 1) : acos? x = some (Real.arccos x) := if_pos hx

/-- The decimal constants are integers. -/
lemma decimals : (2.0 : ℝ) = 2 ∧ (3.0 : ℝ) = 3 ∧ (4.0 : ℝ) = 4 ∧ (9.0 : ℝ) = 9 := by norm_num

/-- The constant is a half. -/
lemma oneHalf_eq : oneHalf = 1 / 2 := by norm_num [oneHalf]

/-- The constant is a third. -/
lemma oneThird_eq : oneThird = 1 / 3 := by norm_num [oneThird]

/-- The power of a third is the cube root where it has a value. -/
lemma pow?_of_nonneg {x : ℝ} (hx : 0 ≤ x) : pow? x oneThird = some (cbrt x) := by
  rw [cbrt_of_nonneg hx, ← oneThird_eq]
  exact if_neg hx.not_gt

/-- A power of a negative number has no value. -/
lemma pow?_of_neg {x y : ℝ} (hx : x < 0) : pow? x y = none := if_pos hx

/-- Below the bound the code takes the power of the opposite. -/
lemma pow?_neg {x : ℝ} (hx : x < -FLOAT_EPS) : pow? (-x) oneThird = some (-cbrt x) := by
  have neg : x < 0 := hx.trans (neg_neg_of_pos FLOAT_EPS_pos)
  rw [cbrt_of_neg neg, neg_neg, ← oneThird_eq]
  exact if_neg (neg_nonneg.mpr neg.le).not_gt

/-- What the candidates leave, if each has a value. -/
lemma firstValid_map_some (candidates : List ℝ) :
    ∃ v, firstValid (candidates.map some) = some v ∧
      (v ∈ candidates ∧ Valid v ∨ v = 0 ∧ ∀ x ∈ candidates, ¬Valid x) := by
  induction candidates with
  | nil => exact ⟨0, rfl, .inr ⟨rfl, List.forall_mem_nil _⟩⟩
  | cons x candidates ih =>
    by_cases hx : Valid x
    · exact ⟨x, if_pos hx, .inl ⟨List.mem_cons_self, hx⟩⟩
    · obtain ⟨v, hv, chosen⟩ := ih
      refine ⟨v, (if_neg hx).trans hv, ?_⟩
      obtain ⟨mem, valid⟩ | ⟨zero, all⟩ := chosen
      · exact .inl ⟨List.mem_cons_of_mem x mem, valid⟩
      · exact .inr ⟨zero, List.forall_mem_cons.mpr ⟨hx, all⟩⟩

/-! ## Identities of the formula -/

namespace Shengjin

section

variable (inputCoeffs : Coeffs) (targetG : ℝ)

/-- The first number of the formula, with an integer for its decimal constant. -/
lemma AA_eq :
    AA inputCoeffs = inputCoeffs.b * inputCoeffs.b - 3 * inputCoeffs.a * inputCoeffs.c := by
  simp only [AA, decimals]

/-- The second number of the formula. -/
lemma BB_eq : BB inputCoeffs targetG =
    inputCoeffs.b * inputCoeffs.c - 9 * inputCoeffs.a * (inputCoeffs.d - targetG) := by
  simp only [BB, decimals]

/-- The third number of the formula. -/
lemma CC_eq : CC inputCoeffs targetG =
    inputCoeffs.c * inputCoeffs.c - 3 * inputCoeffs.b * (inputCoeffs.d - targetG) := by
  simp only [CC, decimals]

/-- The discriminant of the formula. -/
lemma Delta_eq : Delta inputCoeffs targetG =
    BB inputCoeffs targetG * BB inputCoeffs targetG -
      4 * AA inputCoeffs * CC inputCoeffs targetG := by
  simp only [Delta, decimals]

/-- What `Y1` and `Y2` add up to. -/
lemma numerator_eq : numerator inputCoeffs targetG =
    2 * AA inputCoeffs * inputCoeffs.b - 3 * inputCoeffs.a * BB inputCoeffs targetG := by
  simp only [numerator, decimals]

end

/-! Coefficients that are written out. -/

section

variable (a b c d : ℝ)

/-- The leading coefficient of a list of four. -/
@[simp] lemma a_vec : Coeffs.a ![a, b, c, d] = a := rfl

/-- The second coefficient of a list of four. -/
@[simp] lemma b_vec : Coeffs.b ![a, b, c, d] = b := rfl

/-- The third coefficient of a list of four. -/
@[simp] lemma c_vec : Coeffs.c ![a, b, c, d] = c := rfl

/-- The last coefficient of a list of four. -/
@[simp] lemma d_vec : Coeffs.d ![a, b, c, d] = d := rfl

end

variable {inputCoeffs : Coeffs} {targetG : ℝ}

/-- The equation without its square term, up to a factor. -/
lemma depressed_cubic (inputCoeffs : Coeffs) (targetG x : ℝ) :
    depressed (AA inputCoeffs) (numerator inputCoeffs targetG)
        (3 * inputCoeffs.a * x + inputCoeffs.b) =
      27 * inputCoeffs.a ^ 2 * (cubic inputCoeffs x - targetG) := by
  rw [numerator_eq, AA_eq, BB_eq, depressed_linear, cubic]
  ring

/-- A solution of the equation, by the depressed cubic. -/
lemma cubic_eq_iff (ha : inputCoeffs.a ≠ 0) {x y : ℝ}
    (hx : 3 * inputCoeffs.a * x + inputCoeffs.b = y) :
    cubic inputCoeffs x = targetG ↔
      depressed (AA inputCoeffs) (numerator inputCoeffs targetG) y = 0 := by
  have ha' : 27 * inputCoeffs.a ^ 2 ≠ 0 := by positivity
  rw [← hx, depressed_cubic, mul_eq_zero_iff_left ha', sub_eq_zero]

/-- The denominator of the formula is not zero. -/
lemma lead_ne_zero (ha : inputCoeffs.a ≠ 0) : 3.0 * inputCoeffs.a ≠ 0 := by
  rw [decimals.2.1]
  exact mul_ne_zero three_ne_zero ha

/-- The discriminant of the code is that of the equation without its square term, up to a square. -/
lemma discrim_eq (inputCoeffs : Coeffs) (targetG : ℝ) :
    numerator inputCoeffs targetG ^ 2 - 4 * AA inputCoeffs ^ 3 =
      9 * inputCoeffs.a ^ 2 * Delta inputCoeffs targetG := by
  rw [numerator_eq, Delta_eq, AA_eq, BB_eq, CC_eq]
  ring

/-- With a positive discriminant there is one solution to the equation. -/
lemma discrim_pos (ha : inputCoeffs.a ≠ 0) (pos : 0 < Delta inputCoeffs targetG) :
    0 < numerator inputCoeffs targetG ^ 2 - 4 * AA inputCoeffs ^ 3 := by
  rw [discrim_eq]
  positivity

/-- With a negative discriminant there are three. -/
lemma discrim_neg (ha : inputCoeffs.a ≠ 0) (neg : Delta inputCoeffs targetG < 0) :
    numerator inputCoeffs targetG ^ 2 - 4 * AA inputCoeffs ^ 3 < 0 := by
  rw [discrim_eq]
  apply mul_neg_of_pos_of_neg _ neg
  positivity

/-- The sum of `Y1` and `Y2` does not depend on the root. -/
lemma Y1_add_Y2 (root : ℝ) :
    Y1 inputCoeffs targetG root + Y2 inputCoeffs targetG root = numerator inputCoeffs targetG := by
  rw [numerator_eq]
  simp only [Y1, Y2, decimals]
  ring

/-- The product of `Y1` and `Y2` is the third power of `A`. -/
lemma Y1_mul_Y2 {root : ℝ} (h : root ^ 2 = Delta inputCoeffs targetG) :
    Y1 inputCoeffs targetG root * Y2 inputCoeffs targetG root = AA inputCoeffs ^ 3 := by
  have discrim := discrim_eq inputCoeffs targetG
  rw [← h] at discrim
  rw [numerator_eq] at discrim
  simp only [Y1, Y2, decimals]
  linear_combination discrim / 4

/-! ## Delta > 0 -/

/-- Where the fractional powers of the second case are of numbers that are not negative. -/
def RootsDefined (Y1 Y2 : ℝ) : Prop :=
  (FLOAT_EPS < |Y1| ∧ FLOAT_EPS < |Y2|) ∨ (0 ≤ Y1 ∧ 0 ≤ Y2)

/-- The formula from `Y1` and `Y2`, where the powers have values. -/
lemma fromY_of_defined (ha : inputCoeffs.a ≠ 0) {Y1 Y2 : ℝ} (h : RootsDefined Y1 Y2) :
    fromY inputCoeffs Y1 Y2 =
      some ((-inputCoeffs.b - cbrt Y1 - cbrt Y2) / (3.0 * inputCoeffs.a)) := by
  have lead := lead_ne_zero ha
  unfold fromY
  split_ifs with h₁ h₂ h₃
  · rw [pow?_neg h₁.1, pow?_of_nonneg (FLOAT_EPS_pos.trans h₁.2).le]
    simp only [Option.bind_eq_bind, Option.bind_some, div?_of_ne lead, ← sub_eq_add_neg]
  · rw [pow?_neg h₂.2, pow?_of_nonneg (FLOAT_EPS_pos.trans h₂.1).le]
    simp only [Option.bind_eq_bind, Option.bind_some, div?_of_ne lead, ← sub_eq_add_neg]
  · rw [pow?_neg h₃.1, pow?_neg h₃.2]
    simp only [Option.bind_eq_bind, Option.bind_some, div?_of_ne lead, ← sub_eq_add_neg]
  · obtain ⟨hY1, hY2⟩ : 0 ≤ Y1 ∧ 0 ≤ Y2 := by
      obtain ⟨away1, away2⟩ | both := h
      · -- both are away from zero, and the tests before this branch leave only positive ones
        have eps := FLOAT_EPS_pos
        rw [lt_abs, lt_neg] at away1 away2
        obtain pos1 | neg1 := away1
        · obtain pos2 | neg2 := away2
          · exact ⟨(eps.trans pos1).le, (eps.trans pos2).le⟩
          · exact absurd ⟨pos1, neg2⟩ h₂
        · obtain pos2 | neg2 := away2
          · exact absurd ⟨neg1, pos2⟩ h₁
          · exact absurd ⟨neg1, neg2⟩ h₃
      · exact both
    rw [pow?_of_nonneg hY1, pow?_of_nonneg hY2]
    simp only [Option.bind_eq_bind, Option.bind_some, div?_of_ne lead]

/-- Without the powers the formula has no value. -/
lemma fromY_of_not_defined {Y1 Y2 : ℝ} (h : ¬RootsDefined Y1 Y2) :
    fromY inputCoeffs Y1 Y2 = none := by
  have eps := FLOAT_EPS_pos
  unfold RootsDefined at h
  rw [lt_abs, lt_abs, lt_neg, lt_neg (b := Y2)] at h
  unfold fromY
  rw [if_neg fun h₁ => h (.inl ⟨.inr h₁.1, .inl h₁.2⟩),
    if_neg fun h₂ => h (.inl ⟨.inl h₂.1, .inr h₂.2⟩),
    if_neg fun h₃ => h (.inl ⟨.inr h₃.1, .inr h₃.2⟩)]
  rcases lt_or_ge Y1 0 with hY1 | hY1
  · rw [pow?_of_neg hY1]
    exact rfl
  · have hY2 : Y2 < 0 := lt_of_not_ge fun hY2 => h (.inr ⟨hY1, hY2⟩)
    rw [pow?_of_nonneg hY1, pow?_of_neg hY2]
    exact rfl

/-- `RootsDefined` as a condition on the coefficients, by the sum and the product of `Y1` and
`Y2`. -/
def Defined (inputCoeffs : Coeffs) (targetG : ℝ) : Prop :=
  (0 ≤ AA inputCoeffs ∧ 0 ≤ numerator inputCoeffs targetG) ∨
  (0 ≤ AA inputCoeffs ∧ numerator inputCoeffs targetG < -(FLOAT_EPS + FLOAT_EPS) ∧
    0 < FLOAT_EPS ^ 2 + FLOAT_EPS * numerator inputCoeffs targetG + AA inputCoeffs ^ 3) ∨
  (AA inputCoeffs < 0 ∧
    FLOAT_EPS ^ 2 + FLOAT_EPS * |numerator inputCoeffs targetG| + AA inputCoeffs ^ 3 < 0)

/-- Whether the powers have values depends on the coefficients only, not on the root. -/
lemma rootsDefined_iff {root : ℝ} (h : root ^ 2 = Delta inputCoeffs targetG) :
    RootsDefined (Y1 inputCoeffs targetG root) (Y2 inputCoeffs targetG root) ↔
      Defined inputCoeffs targetG := by
  unfold RootsDefined Defined
  rw [away_or_nonneg_iff FLOAT_EPS_pos, Y1_add_Y2, Y1_mul_Y2 h]
  have cube : 0 ≤ AA inputCoeffs ^ 3 ↔ 0 ≤ AA inputCoeffs := Odd.pow_nonneg_iff (by decide)
  have cube' : AA inputCoeffs ^ 3 < 0 ↔ AA inputCoeffs < 0 := Odd.pow_neg_iff (by decide)
  rw [cube, cube']

/-- The root that the second case returns. -/
def simpleRoot (inputCoeffs : Coeffs) (targetG : ℝ) : ℝ :=
  (-inputCoeffs.b - cbrt (Y1 inputCoeffs targetG √(Delta inputCoeffs targetG)) -
    cbrt (Y2 inputCoeffs targetG √(Delta inputCoeffs targetG))) / (3.0 * inputCoeffs.a)

open Classical in
/-- The second case returns the simple root if the powers have values, and nothing else. -/
lemma case2_eq (ha : inputCoeffs.a ≠ 0) (pos : 0 ≤ Delta inputCoeffs targetG) :
    case2 inputCoeffs targetG =
      if Defined inputCoeffs targetG then some (simpleRoot inputCoeffs targetG) else none := by
  have root : pow? (Delta inputCoeffs targetG) oneHalf = some √(Delta inputCoeffs targetG) := by
    rw [Real.sqrt_eq_rpow, ← oneHalf_eq]
    exact if_neg pos.not_gt
  unfold case2
  rw [root, Option.bind_eq_bind, Option.bind_some, ← rootsDefined_iff (Real.sq_sqrt pos)]
  split_ifs with h
  · exact fromY_of_defined ha h
  · exact fromY_of_not_defined h

/-- `y = 3 a x + b` at the root of the second case. -/
lemma linear_simpleRoot (ha : inputCoeffs.a ≠ 0) :
    3 * inputCoeffs.a * simpleRoot inputCoeffs targetG + inputCoeffs.b =
      -(cbrt (Y1 inputCoeffs targetG √(Delta inputCoeffs targetG)) +
        cbrt (Y2 inputCoeffs targetG √(Delta inputCoeffs targetG))) := by
  simp only [simpleRoot, decimals]
  field_simp
  ring

/-- The simple root solves the equation without its square term. -/
lemma depressed_simpleRoot (ha : inputCoeffs.a ≠ 0) (pos : 0 ≤ Delta inputCoeffs targetG) :
    depressed (AA inputCoeffs) (numerator inputCoeffs targetG)
      (3 * inputCoeffs.a * simpleRoot inputCoeffs targetG + inputCoeffs.b) = 0 := by
  rw [linear_simpleRoot ha]
  exact depressed_cbrt (Y1_add_Y2 _) (Y1_mul_Y2 (Real.sq_sqrt pos))

/-- The root of the second case solves the equation, whichever its signs. -/
lemma cubic_simpleRoot (ha : inputCoeffs.a ≠ 0) (pos : 0 ≤ Delta inputCoeffs targetG) :
    cubic inputCoeffs (simpleRoot inputCoeffs targetG) = targetG :=
  (cubic_eq_iff ha rfl).mpr (depressed_simpleRoot ha pos)

/-- What a number other than the root leaves of the equation. -/
lemma simpleRoot_factor (ha : inputCoeffs.a ≠ 0) (pos : 0 < Delta inputCoeffs targetG) (x : ℝ) :
    ∃ q, 0 < q ∧ 9 * (inputCoeffs.a * (cubic inputCoeffs x - targetG)) =
      (x - simpleRoot inputCoeffs targetG) * q := by
  have root := depressed_simpleRoot ha pos.le
  have split := depressed_eq_mul root (3 * inputCoeffs.a * x + inputCoeffs.b)
  rw [depressed_cubic] at split
  refine ⟨_, factor_pos root (discrim_pos ha pos) (3 * inputCoeffs.a * x + inputCoeffs.b), ?_⟩
  have ha' : 3 * inputCoeffs.a ^ 2 ≠ 0 := by positivity
  apply mul_left_cancel₀ ha'
  linear_combination inputCoeffs.a * split

/-- On which side of the root of the second case a number lies. -/
lemma lt_simpleRoot_iff (ha : inputCoeffs.a ≠ 0) (pos : 0 < Delta inputCoeffs targetG) (x : ℝ) :
    x < simpleRoot inputCoeffs targetG ↔ inputCoeffs.a * (cubic inputCoeffs x - targetG) < 0 := by
  obtain ⟨q, hq, split⟩ := simpleRoot_factor ha pos x
  constructor
  · intro lt
    linarith [mul_neg_of_neg_of_pos (sub_neg.mpr lt) hq]
  · intro neg
    apply sub_neg.mp
    apply neg_of_mul_neg_left _ hq.le
    linarith

/-- The equation has no other solution. -/
lemma eq_simpleRoot_iff (ha : inputCoeffs.a ≠ 0) (pos : 0 < Delta inputCoeffs targetG) (x : ℝ) :
    x = simpleRoot inputCoeffs targetG ↔ cubic inputCoeffs x = targetG := by
  obtain ⟨q, hq, split⟩ := simpleRoot_factor ha pos x
  constructor
  · intro eq
    rw [eq]
    exact cubic_simpleRoot ha pos.le
  · intro solves
    rw [sub_eq_zero.mpr solves, mul_zero, mul_zero] at split
    exact sub_eq_zero.mp ((mul_eq_zero_iff_right hq.ne').mp split.symm)

/-! ## Delta < 0 -/

/-- The angle of the third case. -/
def sita (inputCoeffs : Coeffs) (targetG : ℝ) : ℝ :=
  Real.arccos (numerator inputCoeffs targetG / (2.0 * AA inputCoeffs * √(AA inputCoeffs)))

def third (inputCoeffs : Coeffs) (targetG : ℝ) : ℝ := sita inputCoeffs targetG / 3.0

/-- The candidates of the third case. -/
def roots (inputCoeffs : Coeffs) (targetG : ℝ) : List ℝ :=
  let sqrtA := √(AA inputCoeffs)
  let cosSita := Real.cos (third inputCoeffs targetG)
  let sinSitaSqrt3 := √3.0 * Real.sin (third inputCoeffs targetG)
  [(-inputCoeffs.b - 2.0 * sqrtA * cosSita) / (3.0 * inputCoeffs.a),
    (-inputCoeffs.b + sqrtA * (cosSita + sinSitaSqrt3)) / (3.0 * inputCoeffs.a),
    (-inputCoeffs.b + sqrtA * (cosSita - sinSitaSqrt3)) / (3.0 * inputCoeffs.a)]

/-- Three times the angle of the roots is the angle that was computed. -/
lemma three_mul_third : 3 * third inputCoeffs targetG = sita inputCoeffs targetG := by
  simp only [third, decimals]
  ring

/-- In the third case the number under the root is positive. -/
lemma AA_pos (ha : inputCoeffs.a ≠ 0) (neg : Delta inputCoeffs targetG < 0) :
    0 < AA inputCoeffs :=
  pos_of_discrim_neg (discrim_neg ha neg)

/-- The quotient of the third case is a cosine. -/
lemma abs_quotient_lt_one (ha : inputCoeffs.a ≠ 0) (neg : Delta inputCoeffs targetG < 0) :
    |numerator inputCoeffs targetG / (2.0 * AA inputCoeffs * √(AA inputCoeffs))| < 1 := by
  have hA := AA_pos ha neg
  have hs : √(AA inputCoeffs) ^ 2 = AA inputCoeffs := Real.sq_sqrt hA.le
  rw [decimals.1, ← sq_lt_one_iff_abs_lt_one, div_pow, div_lt_one (by positivity), mul_pow, hs]
  linarith [discrim_neg ha neg]

/-- The third case returns the first of three roots that is valid. -/
lemma case3_eq (ha : inputCoeffs.a ≠ 0) (neg : Delta inputCoeffs targetG < 0) :
    case3 inputCoeffs targetG = firstValid ((roots inputCoeffs targetG).map some) := by
  have hA := AA_pos ha neg
  have lead := lead_ne_zero ha
  have below : 2.0 * AA inputCoeffs * √(AA inputCoeffs) ≠ 0 := by
    rw [decimals.1]
    positivity
  unfold case3
  rw [sqrt?_of_nonneg hA.le, Option.bind_eq_bind, Option.bind_some, div?_of_ne below,
    Option.bind_some, acos?_of_le (abs_quotient_lt_one ha neg).le, Option.bind_some,
    sqrt?_of_nonneg (by norm_num), Option.bind_some]
  simp only [div?_of_ne lead]
  exact rfl

/-- The numerator by the cosine of a third of the angle. -/
lemma numerator_eq_cos (ha : inputCoeffs.a ≠ 0) (neg : Delta inputCoeffs targetG < 0) :
    numerator inputCoeffs targetG =
      2 * √(AA inputCoeffs) ^ 3 * (4 * Real.cos (third inputCoeffs targetG) ^ 3 -
        3 * Real.cos (third inputCoeffs targetG)) := by
  have hA := AA_pos ha neg
  have hs : √(AA inputCoeffs) ^ 2 = AA inputCoeffs := Real.sq_sqrt hA.le
  have inside := abs_le.mp (abs_quotient_lt_one ha neg).le
  rw [← Real.cos_three_mul, three_mul_third, sita, Real.cos_arccos inside.1 inside.2, pow_succ, hs,
    ← mul_assoc, decimals.1]
  field_simp

/-- The third case has every solution among its candidates, and no other number. -/
lemma mem_roots_iff (ha : inputCoeffs.a ≠ 0) (neg : Delta inputCoeffs targetG < 0) (x : ℝ) :
    x ∈ roots inputCoeffs targetG ↔ cubic inputCoeffs x = targetG := by
  have lead : 3 * inputCoeffs.a ≠ 0 := mul_ne_zero three_ne_zero ha
  have hs : √(AA inputCoeffs) ^ 2 = AA inputCoeffs := Real.sq_sqrt (AA_pos ha neg).le
  have split := depressed_angle (Real.cos_sq_add_sin_sq (third inputCoeffs targetG))
    (Real.sq_sqrt (by norm_num : (0 : ℝ) ≤ 3)) √(AA inputCoeffs)
    (3 * inputCoeffs.a * x + inputCoeffs.b)
  rw [hs, ← numerator_eq_cos ha neg] at split
  rw [cubic_eq_iff ha rfl, split, mul_eq_zero, mul_eq_zero, or_assoc]
  simp only [roots, decimals, List.mem_cons, List.not_mem_nil, or_false, eq_div_iff lead]
  refine or_congr ?_ (or_congr ?_ ?_)
  · constructor <;> intro h <;> linarith
  · constructor <;> intro h <;> linarith
  · constructor <;> intro h <;> linarith

/-- The sine of the angle by its third; it is not zero. -/
lemma sin_third_ne_zero (ha : inputCoeffs.a ≠ 0) (neg : Delta inputCoeffs targetG < 0) :
    Real.sin (third inputCoeffs targetG) *
      (3 * Real.cos (third inputCoeffs targetG) ^ 2 -
        Real.sin (third inputCoeffs targetG) ^ 2) ≠ 0 := by
  have inside := (sq_lt_one_iff_abs_lt_one _).mpr (abs_quotient_lt_one ha neg)
  have whole : Real.sin (sita inputCoeffs targetG) ≠ 0 := by
    rw [sita, Real.sin_arccos]
    exact (Real.sqrt_pos.mpr (sub_pos.mpr inside)).ne'
  rw [← three_mul_third, Real.sin_three_mul] at whole
  intro zero
  apply whole
  linear_combination zero -
    3 * Real.sin (third inputCoeffs targetG) *
      Real.cos_sq_add_sin_sq (third inputCoeffs targetG)

/-- The candidates of the third case are three. -/
lemma nodup_roots (ha : inputCoeffs.a ≠ 0) (neg : Delta inputCoeffs targetG < 0) :
    (roots inputCoeffs targetG).Nodup := by
  have lead : 3 * inputCoeffs.a ≠ 0 := mul_ne_zero three_ne_zero ha
  have hr : √(AA inputCoeffs) ≠ 0 := (Real.sqrt_pos.mpr (AA_pos ha neg)).ne'
  have hk : √3 ^ 2 = (3 : ℝ) := Real.sq_sqrt (by norm_num)
  have hsin := sin_third_ne_zero ha neg
  simp only [roots, decimals]
  set s := Real.sin (third inputCoeffs targetG)
  set c := Real.cos (third inputCoeffs targetG)
  have apart {y z : ℝ} (h : y ≠ z) : (-inputCoeffs.b + √(AA inputCoeffs) * y) /
      (3 * inputCoeffs.a) ≠ (-inputCoeffs.b + √(AA inputCoeffs) * z) / (3 * inputCoeffs.a) := by
    intro eq
    exact h (mul_left_cancel₀ hr (add_left_cancel ((div_left_inj' lead).mp eq)))
  have first : -inputCoeffs.b - 2 * √(AA inputCoeffs) * c =
      -inputCoeffs.b + √(AA inputCoeffs) * (-2 * c) := by ring
  have h₁₂ : -2 * c ≠ c + √3 * s := by
    intro h
    apply hsin
    linear_combination -(s / 3) * (3 * c - √3 * s) * h + s ^ 3 / 3 * hk
  have h₁₃ : -2 * c ≠ c - √3 * s := by
    intro h
    apply hsin
    linear_combination -(s / 3) * (3 * c + √3 * s) * h + s ^ 3 / 3 * hk
  have h₂₃ : c + √3 * s ≠ c - √3 * s := by
    intro h
    apply hsin
    linear_combination √3 * (3 * c ^ 2 - s ^ 2) / 6 * h - s * (3 * c ^ 2 - s ^ 2) / 3 * hk
  simp only [first, List.nodup_cons, List.mem_cons, List.not_mem_nil, or_false, not_or,
    not_false_iff, List.nodup_nil, and_true]
  exact ⟨⟨apart h₁₂, apart h₁₃⟩, apart h₂₃⟩

/-! ## Delta = 0 -/

/-- The candidates of the fourth case. -/
def repeated (inputCoeffs : Coeffs) (targetG : ℝ) : List ℝ :=
  let K := BB inputCoeffs targetG / AA inputCoeffs
  [-inputCoeffs.b / inputCoeffs.a + K, -K / 2.0]

/-- The fourth case returns the first of two roots that is valid. -/
lemma case4_eq (ha : inputCoeffs.a ≠ 0) (hA : AA inputCoeffs ≠ 0) :
    case4 inputCoeffs targetG = firstValid ((repeated inputCoeffs targetG).map some) := by
  unfold case4
  rw [div?_of_ne hA, Option.bind_eq_bind, Option.bind_some, div?_of_ne ha]
  exact rfl

/-- The fourth case divides by zero if `A` is zero. -/
lemma case4_undefined (hA : AA inputCoeffs = 0) : case4 inputCoeffs targetG = none := by
  unfold case4
  rw [hA, div?_zero]
  exact rfl

/-- The candidates of the fourth case solve the equation where the discriminant is zero. -/
lemma cubic_of_mem_repeated (ha : inputCoeffs.a ≠ 0) (hA : AA inputCoeffs ≠ 0)
    (zero : Delta inputCoeffs targetG = 0) {x : ℝ} (hx : x ∈ repeated inputCoeffs targetG) :
    cubic inputCoeffs x = targetG := by
  have discrim := discrim_eq inputCoeffs targetG
  rw [zero, mul_zero, sub_eq_zero] at discrim
  rw [cubic_eq_iff ha rfl, depressed_repeated hA discrim, mul_eq_zero, pow_eq_zero_iff two_ne_zero]
  simp only [repeated, decimals, List.mem_cons, List.not_mem_nil, or_false] at hx
  obtain rfl | rfl := hx
  · apply Or.inl
    rw [numerator_eq]
    field_simp
    ring
  · apply Or.inr
    rw [numerator_eq]
    field_simp
    ring

/-! ## A = B = 0 -/

/-- The first case returns its one root if it is valid. -/
lemma case1_eq (ha : inputCoeffs.a ≠ 0) :
    case1 inputCoeffs = firstValid ([-inputCoeffs.b / (3.0 * inputCoeffs.a)].map some) := by
  have lead := lead_ne_zero ha
  rw [case1, div?_of_ne lead]
  exact rfl

/-- Where `A` and `B` are zero the root of the first case is the only one. -/
lemma cubic_triple (ha : inputCoeffs.a ≠ 0) (hA : AA inputCoeffs = 0)
    (hB : BB inputCoeffs targetG = 0) :
    cubic inputCoeffs (-inputCoeffs.b / (3.0 * inputCoeffs.a)) = targetG := by
  have hy : 3 * inputCoeffs.a * (-inputCoeffs.b / (3.0 * inputCoeffs.a)) + inputCoeffs.b = 0 := by
    rw [decimals.2.1]
    field_simp
    ring
  rw [cubic_eq_iff ha hy, numerator_eq, hA, hB]
  unfold depressed
  ring

end Shengjin

end

end Redfin.Drv2624
