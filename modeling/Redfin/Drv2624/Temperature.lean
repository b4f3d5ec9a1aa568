import Mathlib.Data.List.Induction
import Redfin.Drv2624.Run

/-!
# The temperature protection over whole runs

Between 5°C and 10°C `on` leaves the pointer and the period of the steady configuration as an
earlier call has set them. What it is called with then depends on the last reading outside of this
band, and on nothing else of the past (`after_eq`); the pointer and the period are always of the
same side.
-/

namespace Redfin.Drv2624

open Program

/-- The temperature readings of a run: `on` makes one if it is given no callback. -/
def readings (h : List Event) : List ℤ :=
  h.filterMap fun e =>
    match e.1 with
    | .on _ false => some e.2.reading
    | _ => none

/-- A reading at which `on` sets the pointer and the period. -/
def outOfBand (temperature : ℤ) : Bool :=
  temperature > TEMP_UPPER_BOUND || temperature < TEMP_LOWER_BOUND

/-- The last reading of a run that lies outside the band. -/
def lastOutOfBand (h : List Event) : Option ℤ := ((readings h).filter outOfBand).getLast?

/-- The last reading outside the band was below it. -/
def cold (h : List Event) : Bool := (lastOutOfBand h).any (· < TEMP_LOWER_BOUND)

/-- The fields on either side of the band. -/
def Dynamic.side (d : Dynamic) (cold : Bool) : SteadyConfig :=
  if cold then ⟨.steadyVoltageLowerBound, d.mSteadyOlLraPeriodShift⟩
  else ⟨.steadyTargetOdClamp, d.mSteadyOlLraPeriod⟩

/-- There are three steady clamps to select. -/
lemma steadyOffset_lt (timeoutMs : Int32) (a : Answers) :
    Vibrator.steadyOffset a timeoutMs < 3 := by
  unfold Vibrator.steadyOffset
  split <;> decide

/-- The steady target of a call on the warm side: the last one exactly if it is warm now, the
vibration is long and the device is not moved. -/
def warmTarget (timeoutMs : Int32) (a : Answers) : Fin 3 :=
  ⟨Vibrator.steadyOffset a timeoutMs, steadyOffset_lt timeoutMs a⟩

/-- The call is an `on` that reads the temperature. -/
def Call.reads : Call → Bool
  | .on _ callback => !callback
  | _ => false

/-- A call of `on` reads the temperature. -/
lemma readings_on (h : List Event) (timeoutMs : Int32) (a : Answers) :
    readings (h ++ [(.on timeoutMs false, a)]) = readings h ++ [a.reading] := by
  rw [readings, List.filterMap_append]
  exact rfl

/-- No other call does. -/
lemma readings_other (h : List Event) {e : Event} (he : e.1.reads = false) :
    readings (h ++ [e]) = readings h := by
  rw [readings, List.filterMap_append]
  obtain ⟨c, a⟩ := e
  have none : (match c with
      | .on _ false => some a.reading
      | _ => none) = none := by
    cases c with
    | on timeoutMs callback =>
      cases callback with
      | true => exact rfl
      | false => cases he
    | _ => exact rfl
  rw [List.filterMap_cons, none]
  exact List.append_nil _

/-- A reading below the band leads to the cold side, one above it to the warm side, and one within
it to where the run was before. -/
lemma cold_on (h : List Event) (timeoutMs : Int32) (a : Answers) :
    cold (h ++ [(.on timeoutMs false, a)]) =
      if a.reading > TEMP_UPPER_BOUND then false
      else if a.reading < TEMP_LOWER_BOUND then true else cold h := by
  rw [cold, lastOutOfBand, readings_on, List.filter_append]
  by_cases hot : a.reading > TEMP_UPPER_BOUND
  · have out : outOfBand a.reading = true := by simp [outOfBand, hot]
    have warm : ¬a.reading < TEMP_LOWER_BOUND := by
      simp only [TEMP_UPPER_BOUND, TEMP_LOWER_BOUND] at hot ⊢
      omega
    simp [out, hot, warm]
  · by_cases low : a.reading < TEMP_LOWER_BOUND
    · have out : outOfBand a.reading = true := by simp [outOfBand, low]
      simp [out, hot, low]
    · have inside : outOfBand a.reading = false := by simp [outOfBand, hot, low]
      simp [inside, hot, low, cold, lastOutOfBand]

/-- A call that does not read the temperature does not change what it is taken for. -/
lemma cold_other (h : List Event) {e : Event} (he : e.1.reads = false) :
    cold (h ++ [e]) = cold h := by
  rw [cold, lastOutOfBand, readings_other h he]
  exact rfl

namespace Vibrator

variable {v : Vibrator} {d : Dynamic}

/-- A reading moves the fields to its side. -/
lemma settle_side (d : Dynamic) (h : List Event) (timeoutMs : Int32) (a : Answers) :
    settle d (d.side (cold h)) a.reading = d.side (cold (h ++ [(.on timeoutMs false, a)])) := by
  rw [cold_on, settle]
  split
  · exact rfl
  · split
    · exact rfl
    · exact rfl

/-- A call that does not read the temperature leaves the fields as they are. -/
lemma next_other (s : SteadyConfig) {e : Event} (he : e.1.reads = false) : v.next s e = s := by
  obtain ⟨c, a⟩ := e
  rw [next_eq]
  cases c with
  | on timeoutMs callback =>
    cases callback with
    | true => cases v.dynamic <;> exact rfl
    | false => cases he
  | _ => exact rfl

/-- The fields depend on the past through the last reading outside the band only. -/
theorem after_eq (hd : v.dynamic = some d) (h : List Event) : v.after h = d.side (cold h) := by
  induction h using List.reverseRecOn with
  | nil =>
    rw [after_nil, start, hd]
    exact rfl
  | append_singleton h e ih =>
    rw [after_concat, ih]
    cases he : e.1.reads with
    | true =>
      obtain ⟨c, a⟩ := e
      cases c with
      | on timeoutMs callback =>
        cases callback with
        | true => cases he
        | false =>
          rw [next_eq, hd]
          exact settle_side d h timeoutMs a
      | _ => cases he
    | false =>
      rw [next_other _ he, cold_other h he]

/-- The clamp of a level on either side. -/
lemma element_side (d : Dynamic) (cold : Bool) (i : Fin 3) (hi : cold = true → i = 0) :
    d.element (d.side cold) .steady i =
      if cold then some STEADY_VOLTAGE_LOWER_BOUND else d.mSteadyTargetOdClamp i := by
  cases cold with
  | true =>
    rw [hi rfl]
    exact rfl
  | false =>
    have h : (d.elements .steadyTargetOdClamp)[(i : ℕ)]? = some (d.mSteadyTargetOdClamp i) := by
      simp only [Dynamic.elements, List.getElem?_ofFn, i.isLt, dif_pos]
    exact congrArg Option.join h

/-- The clamp that is selected is the one of the specification for a warm phone. -/
lemma steadyOffset_eq (timeoutMs : Int32) (a : Answers) :
    steadyOffset a timeoutMs = warmTarget timeoutMs a := rfl

/-- The last steady target is for a warm reading. -/
lemma warmTarget_of_cold {h : List Event} {timeoutMs : Int32} {a : Answers}
    (hc : cold (h ++ [(.on timeoutMs false, a)]) = true) : warmTarget timeoutMs a = 0 := by
  apply Fin.ext
  apply if_neg
  rintro ⟨hot, -⟩
  rw [cold_on, if_pos hot] at hc
  cases hc

/-- A steady target that `on` selects has been assigned. -/
lemma warmTarget_ne (timeoutMs : Int32) (a : Answers) : warmTarget timeoutMs a ≠ 1 := by
  intro e
  have offset : steadyOffset a timeoutMs = 1 := congrArg Fin.val e
  unfold steadyOffset at offset
  split at offset <;> cases offset

/-- What a vibration writes to the registers if its duration is accepted. -/
lemma written_onMode {a : Answers} {s : SteadyConfig} {timeoutMs : UInt32} {mode : Mode}
    {config : Config} {i : ℕ} (hd : v.dynamic = some d) (ok : a.write (.duration timeoutMs)) :
    (onModeOps v a s timeoutMs mode config i).filterMap Op.write? =
      [.ctrlLoop (v.loopMode timeoutMs mode).toUnderlying, .duration timeoutMs, .mode mode,
        .lraWaveShape (d.shape config), .odClamp ((d.element s config i).getD a.stray),
        .olLraPeriod (d.period s config), .activate true] := by
  rw [onModeOps, configOps, hd, if_pos ok]
  exact rfl

/-- What a successful `on` programs, and what moves the HAL from one side to the other. -/
theorem hysteresis (hd : v.dynamic = some d) (h : List Event) :
    (∀ (timeoutMs : Int32) (a : Answers),
      ((v.serve (.on timeoutMs false)).exec (v.answer a) (v.after h)).1 =
          some (.status (.ok ())) →
        let c := cold (h ++ [(.on timeoutMs false, a)])
        ∃ clamp, v.written (v.after h) (.on timeoutMs false, a) =
            [.ctrlLoop (v.loopMode timeoutMs.toUInt32 .rtp).toUnderlying,
              .duration timeoutMs.toUInt32, .mode .rtp, .lraWaveShape (d.shape .steady),
              .odClamp clamp,
              .olLraPeriod (if c then d.mSteadyOlLraPeriodShift else d.mSteadyOlLraPeriod),
              .activate true] ∧
          (if c then clamp = STEADY_VOLTAGE_LOWER_BOUND
            else d.mSteadyTargetOdClamp (warmTarget timeoutMs a) = some clamp)) ∧
      v.after h = d.side (cold h) ∧
      ∀ e : Event, e.1.reads = false → v.after (h ++ [e]) = v.after h := by
  refine ⟨fun timeoutMs a ok => ?_, after_eq hd h, fun e he => ?_⟩
  · have wrote : a.write (.duration timeoutMs.toUInt32) = true := by
      by_contra failed
      rw [reply_on, onModeStatus, if_neg fun x => failed x.1] at ok
      cases ok
    intro c
    have settled : settle d (v.after h) a.reading = d.side c := by
      rw [after_eq hd h]
      exact settle_side d h timeoutMs a
    have element := element_side d c (warmTarget timeoutMs a) warmTarget_of_cold
    have period : d.period (d.side c) .steady =
        if c then d.mSteadyOlLraPeriodShift else d.mSteadyOlLraPeriod := by
      cases c <;> exact rfl
    refine ⟨(d.element (d.side c) .steady (warmTarget timeoutMs a)).getD a.stray, ?_, ?_⟩
    · rw [written_eq, callOps, if_neg Bool.false_ne_true, hd]
      simp only [settled, steadyOffset_eq]
      rw [written_onMode hd wrote, period]
    · rw [element]
      cases c with
      | true => exact rfl
      | false =>
        obtain ⟨clamp, e⟩ :=
          Option.isSome_iff_exists.mp (d.assigned _ (warmTarget_ne timeoutMs a))
        simp [e]
  · rw [after_concat, next_other _ he]

end Vibrator

/-- The steady targets of the sample: without coefficients. -/
def sampleTargets : Fin 3 → Option UInt32 := ![some 107, none, some 80]

/-- The sample calibration assigns the first and the last steady clamp. -/
lemma sampleTargets_assigned (i : Fin 3) (hi : i ≠ 1) : (sampleTargets i).isSome := by
  revert i
  decide

def sampleDynamic : Dynamic where
  shape := fun _ => 0
  mEffectTargetOdClamp := ![60, 70, 80, 90, 100]
  mSteadyTargetOdClamp := sampleTargets
  mSteadyOlLraPeriod := 262
  mSteadyOlLraPeriodShift := 279
  assigned := sampleTargets_assigned

def sampleVibrator : Vibrator where
  mCloseLoopThreshold := 100
  mClickDuration := 6
  mTickDuration := 2
  mDoubleClickDuration := 159
  mHeavyClickDuration := 8
  dynamic := some sampleDynamic

/-- The devices accept every write and read a temperature; nothing moves. -/
def readingOf (temperature : ℤ) : Answers := ⟨fun _ => true, some temperature, false, 0⟩

/-- A cold reading, an effect and then a long vibration within the band. -/
theorem hysteresis_cold :
    ∃ clamp, sampleVibrator.written
        (sampleVibrator.after
          [(.on 50 false, readingOf 4000), (.perform .click .light false, readingOf 20000)])
        (.on 500 false, readingOf 7000) =
      [.ctrlLoop false, .duration 500, .mode .rtp, .lraWaveShape 0, .odClamp clamp,
        .olLraPeriod 279, .activate true] ∧ clamp = STEADY_VOLTAGE_LOWER_BOUND :=
  (Vibrator.hysteresis (v := sampleVibrator) (d := sampleDynamic) rfl
    [(.on 50 false, readingOf 4000), (.perform .click .light false, readingOf 20000)]).1 500
    (readingOf 7000) rfl

end Redfin.Drv2624
