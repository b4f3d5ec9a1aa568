import Redfin.Drv2624.Calibration
import Redfin.Drv2624.Temperature

/-!
# Reads through the clamp pointers

`on` and `perform` index the array behind the pointer of the moment and read an assigned element of
it: the last steady target is selected only by a call that has just set the pointer to the steady
array. A dump reads the first three elements whatever the steady pointer designates, and that is a
single value on the cold side; without steady coefficients it reads the element that the
constructor leaves alone.
-/

namespace Redfin.Drv2624

open Program

namespace Vibrator

/-- The step reads no clamp, or one within its object that has been assigned. -/
def Readable (v : Vibrator) (x : SteadyConfig × Op) : Prop :=
  ∀ config i, x.2.read? = some (config, i) → (v.element x.1 config i).isSome

variable {v : Vibrator} {d : Dynamic} {a : Answers} {s : SteadyConfig}

/-- All reads of a call are readable if those of `callOps` are. -/
lemma readable_serve (v : Vibrator) (s : SteadyConfig) (e : Event) :
    (∀ x ∈ (v.serve e.1).trace (v.answer e.2) s, v.Readable x) ↔
      ∀ r ∈ (callOps v e.2 s e.1).filterMap Op.read?, (v.element (v.next s e) r.1 r.2).isSome := by
  obtain ⟨pre, h, quiet⟩ := trace_serve v s e.1 e.2
  rw [h, List.forall_mem_append]
  constructor
  · rintro ⟨-, ops⟩ r hr
    obtain ⟨o, ho, read⟩ := List.mem_filterMap.mp hr
    exact ops _ (List.mem_map_of_mem ho) r.1 r.2 read
  · intro reads
    refine ⟨fun x hx config i read => ?_, fun x hx config i read => ?_⟩
    · rw [(quiet x hx).2] at read
      cases read
    · obtain ⟨o, ho, rfl⟩ := List.mem_map.mp hx
      exact reads (config, i) (List.mem_filterMap.mpr ⟨o, ho, read⟩)

/-- `onMode` reads at most the clamp it is given. -/
lemma reads_onMode {timeoutMs : UInt32} {mode : Mode} {config : Config} {i : ℕ} {r : Config × ℕ}
    (hr : r ∈ (onModeOps v a s timeoutMs mode config i).filterMap Op.read?) :
    r = (config, i) ∧ v.dynamic ≠ none := by
  rw [onModeOps, configOps] at hr
  cases hw : a.write (.duration timeoutMs) with
  | false =>
    rw [hw] at hr
    cases hr
  | true =>
    rw [hw] at hr
    cases hd : v.dynamic with
    | none =>
      rw [hd] at hr
      cases hr
    | some d =>
      rw [hd] at hr
      exact ⟨List.mem_singleton.mp hr, Option.some_ne_none d⟩

/-- A dump reads three steady clamps and five of the effects. -/
lemma reads_dump :
    ((List.range 3).map (Op.readOdClamp .steady) ++ [Op.readOlLraPeriod .steady] ++
        (List.range 5).map (Op.readOdClamp .effect) ++
        [Op.readOlLraPeriod .effect]).filterMap Op.read? =
      (List.range 3).map (Config.steady, ·) ++ (List.range 5).map (Config.effect, ·) := rfl

/-- The levels of the effects are those of the array. -/
lemma plan_lt {effect : Effect} {strength : EffectStrength} {sequence : String} {timeMS : UInt32}
    {i : ℕ} (h : v.plan effect strength = some (sequence, timeMS, i)) : i < 5 := by
  obtain ⟨volOffset, hs, he⟩ := Option.bind_eq_some_iff.mp h
  have small : volOffset ≤ 1 := by
    cases strength <;> simp [strengthOffset] at hs <;> omega
  cases effect <;> simp [effectPlan, TEXTURE_TICK, TICK, CLICK, HEAVY_CLICK] at he <;> omega

/-- Every effect clamp is assigned. -/
lemma element_effect (d : Dynamic) (s : SteadyConfig) {i : ℕ} (hi : i < 5) :
    d.element s .effect i = some (d.mEffectTargetOdClamp ⟨i, hi⟩) := by
  have h : (d.elements .effectTargetOdClamp)[i]? =
      some (some (d.mEffectTargetOdClamp ⟨i, hi⟩)) := by
    simp only [Dynamic.elements, List.getElem?_ofFn, hi, dif_pos]
  exact congrArg Option.join h

end Vibrator

/-- The three clamps that a dump reads behind the steady pointer are there. -/
def Dumpable (d : Dynamic) (cold : Bool) : Prop :=
  (∀ i, (d.mSteadyTargetOdClamp i).isSome) ∧ cold = false

namespace Vibrator

variable {v : Vibrator} {d : Dynamic} {a : Answers} {s : SteadyConfig}

/-- A dump finds its steady clamps exactly on the warm side, with all three assigned. -/
lemma dumpable_iff (d : Dynamic) (cold : Bool) :
    (∀ i ∈ List.range 3, (d.element (d.side cold) .steady i).isSome) ↔ Dumpable d cold := by
  cases cold with
  | true =>
    refine ⟨fun h => ?_, fun h => absurd h.2 Bool.true_eq_false.mp⟩
    have second := h 1 (by decide)
    cases second
  | false =>
    have target (i : Fin 3) : d.element (d.side false) .steady i = d.mSteadyTargetOdClamp i :=
      element_side d false i nofun
    refine ⟨fun h => ⟨fun i => ?_, rfl⟩, fun h i hi => ?_⟩
    · rw [← target i]
      exact h i (List.mem_range.mpr i.isLt)
    · have hi : i < 3 := List.mem_range.mp hi
      exact (target ⟨i, hi⟩).symm ▸ h.1 ⟨i, hi⟩

/-- Which calls of a run read clamps that are there. -/
lemma readable_call (hd : v.dynamic = some d) (h : List Event) (e : Event) :
    (∀ x ∈ (v.serve e.1).trace (v.answer e.2) (v.after h), v.Readable x) ↔
      ∀ fd, e.1 = .dump fd → 0 ≤ fd → Dumpable d (cold h) := by
  rw [readable_serve]
  obtain ⟨c, a⟩ := e
  have element (config : Config) (i : ℕ) : v.element (v.next (v.after h) (c, a)) config i =
      d.element (d.side (cold (h ++ [(c, a)]))) config i := by
    rw [← after_concat, after_eq hd]
    simp only [Vibrator.element, hd, Option.bind_some]
  simp only [element]
  have other (c : Call) (hc : ∀ fd, c ≠ .dump fd) (fd : ℤ) (eq : c = .dump fd) (_ : 0 ≤ fd) :
      Dumpable d (cold h) := absurd eq (hc fd)
  cases c with
  | on timeoutMs callback =>
    refine iff_of_true (fun r hr => ?_) (other _ fun _ => Call.noConfusion)
    cases callback with
    | true => cases hr
    | false =>
      rw [callOps, if_neg Bool.false_ne_true, hd] at hr
      obtain ⟨rfl, -⟩ := reads_onMode hr
      rw [steadyOffset_eq, element_side d _ _ warmTarget_of_cold]
      split
      · exact rfl
      · exact d.assigned _ (warmTarget_ne timeoutMs a)
  | off => exact iff_of_true (List.forall_mem_nil _) (other _ fun _ => Call.noConfusion)
  | setAmplitude amplitude =>
    refine iff_of_true (fun r hr => ?_) (other _ fun _ => Call.noConfusion)
    rw [callOps] at hr
    split at hr <;> cases hr
  | perform effect strength callback =>
    refine iff_of_true (fun r hr => ?_) (other _ fun _ => Call.noConfusion)
    rw [callOps] at hr
    split at hr
    · cases hr
    · split at hr
      · rename_i plan
        obtain ⟨rfl, -⟩ := reads_onMode hr
        rw [element_effect d _ (plan_lt plan)]
        exact rfl
      · cases hr
  | dump fd =>
    have keep : cold (h ++ [(Call.dump fd, a)]) = cold h := cold_other h rfl
    rw [keep, callOps, hd]
    by_cases hf : fd < 0
    · rw [if_pos (.inl hf)]
      refine iff_of_true (List.forall_mem_nil _) fun fd' eq pos => ?_
      obtain rfl := Call.dump.inj eq
      exact absurd pos (not_le.mpr hf)
    · rw [if_neg (not_or.mpr ⟨hf, Option.some_ne_none d⟩)]
      have effects : ∀ i ∈ List.range 5, (d.element (d.side (cold h)) .effect i).isSome := by
        intro i hi
        rw [element_effect d _ (List.mem_range.mp hi)]
        exact rfl
      rw [reads_dump]
      simp only [List.forall_mem_append, List.forall_mem_map]
      rw [dumpable_iff]
      constructor
      · intro ok fd' _ _
        exact ok.1
      · exact fun ok => ⟨ok fd rfl (not_lt.mp hf), effects⟩

/-- In the static configuration no clamp is read. -/
lemma reads_static (hd : v.dynamic = none) (c : Call) :
    (callOps v a s c).filterMap Op.read? = [] := by
  apply List.eq_nil_iff_forall_not_mem.mpr
  intro r hr
  cases c with
  | on timeoutMs callback =>
    rw [callOps, hd] at hr
    split at hr
    · cases hr
    · exact (reads_onMode hr).2 hd
  | off => cases hr
  | setAmplitude amplitude =>
    rw [callOps] at hr
    split at hr <;> cases hr
  | perform effect strength callback =>
    rw [callOps] at hr
    split at hr
    · cases hr
    · split at hr
      · exact (reads_onMode hr).2 hd
      · cases hr
  | dump fd =>
    rw [callOps, if_pos (.inr hd)] at hr
    cases hr

/-- Every dump of the run that reads the configurations finds its clamps. -/
def Dumps (d : Dynamic) (h : List Event) : Prop :=
  ∀ h₁ e h₂, h = h₁ ++ e :: h₂ → ∀ fd, e.1 = .dump fd → 0 ≤ fd → Dumpable d (cold h₁)

/-- All reads of a history are to assigned clamps exactly if no dump reads an unassigned one. -/
lemma readable_steps (hd : v.dynamic = some d) (h : List Event) :
    (∀ x ∈ v.steps h, v.Readable x) ↔ Dumps d h := by
  rw [steps, forall_stepsFrom]
  refine forall_congr' fun h₁ => forall_congr' fun e => forall_congr' fun h₂ => ?_
  exact forall_congr' fun _ => readable_call hd h₁ e

end Vibrator

/-- The middle steady target is assigned exactly with coefficients. -/
lemma HwCal.dumpable_iff (cal : HwCal) (ar : Arithmetic) (cold : Bool) :
    Dumpable (cal.dynamic ar) cold ↔ cal.steadyCoeffs.isSome ∧ cold = false := by
  refine and_congr_left fun _ => ?_
  show (∀ i, (cal.steadyClamp ar i).isSome) ↔ _
  unfold HwCal.steadyClamp
  cases cal.steadyCoeffs with
  | some coeffs => exact iff_of_true (fun _ => rfl) rfl
  | none =>
    refine iff_of_false (fun h => ?_) Bool.false_ne_true
    cases h 1

/-- All clamps that a run reads are there if and only if every dump in it, unless it is of the
static configuration or has an invalid descriptor, finds steady coefficients and comes on the warm
side. -/
theorem clamps_readable_iff (ar : Arithmetic) (cal : HwCal) (h : List Event) :
    (∀ x ∈ (Vibrator.new ar cal).steps h, (Vibrator.new ar cal).Readable x) ↔
      ∀ h₁ e h₂, h = h₁ ++ e :: h₂ → ∀ fd, e.1 = .dump fd → 0 ≤ fd → cal.dynamicConfig = true →
        cal.steadyCoeffs.isSome ∧ cold h₁ = false := by
  cases hc : cal.dynamicConfig with
  | false =>
    have hd : (Vibrator.new ar cal).dynamic = none := by rw [Vibrator.new, hc]; exact rfl
    refine iff_of_true ?_ fun _ _ _ _ _ _ _ on => absurd on Bool.false_ne_true
    rw [Vibrator.steps, Vibrator.forall_stepsFrom]
    intro h₁ e h₂ _
    rw [Vibrator.readable_serve, Vibrator.reads_static hd]
    exact List.forall_mem_nil _
  | true =>
    have hd : (Vibrator.new ar cal).dynamic = some (cal.dynamic ar) := by
      rw [Vibrator.new, hc]
      exact rfl
    rw [Vibrator.readable_steps hd]
    simp only [Vibrator.Dumps, HwCal.dumpable_iff, forall_const]

/-- A calibration without coefficients, with the defaults of `HwCal` for the rest. -/
def sampleCal : HwCal where
  lraPeriod := 262
  closeLoopThreshold := -1
  dynamicConfig := true
  longFrequencyShift := 10
  shortVoltageMax := 107
  longVoltageMax := 107
  devHwVer := "DVT"
  effectCoeffs := none
  effectTargetG := none
  effectShape := -1
  steadyCoeffs := none
  steadyTargetG := none
  steadyAmpMax := none
  steadyShape := -1
  clickDuration := 6
  tickDuration := 2
  doubleClickDuration := 159
  heavyClickDuration := 8

/-- A dump after a vibration in the cold reads past the single lower bound. -/
theorem clamps_unreadable_cold :
    ¬∀ x ∈ (Vibrator.new sampleArithmetic sampleCal).steps
        [(.on 50 false, readingOf 4000), (.dump 1, readingOf 4000)],
      (Vibrator.new sampleArithmetic sampleCal).Readable x := by
  intro readable
  have dumps := (Vibrator.readable_steps rfl _).mp readable
  have dumpable := dumps [(.on 50 false, readingOf 4000)] _ [] rfl 1 rfl (by decide)
  cases dumpable.2

end Redfin.Drv2624
