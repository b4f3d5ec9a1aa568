import Redfin.Drv2624.Hal

/-!
# Runs of the vibrator HAL

One call after the other, each with the answers of the devices during it. A run is the list of its
calls; `Vibrator.after` is the state of the fields after it, `Vibrator.steps` the operations of the
whole run, each with the fields as they are at that moment.

What a call can do is said once: `exec_onMode` and `trace_onMode` for the register writes that
`on` and `perform` share, `exec_protect` for the only part of the HAL that changes a field.
-/

namespace Redfin.Drv2624

open Program

/-- What the devices answer during a call. A read through a clamp pointer that hits no assigned
element gives any value. -/
structure Answers where
  write : Write → Bool
  temperature : Option ℤ
  motion : Bool
  stray : UInt32

/-- What `on` finds in its variable `temperature`. -/
def Answers.reading (a : Answers) : ℤ := a.temperature.getD 0

/-- A call and what the devices answer during it. -/
abbrev Event := Call × Answers

namespace Vibrator

variable (v : Vibrator)

/-- The fields after the constructor; nothing reads them in the static configuration. -/
def start : SteadyConfig :=
  match v.dynamic with
  | some d => d.start
  | none => ⟨.steadyTargetOdClamp, 0⟩

/-- `config->odClamp[i]`, if it is an element of the object and has been assigned. -/
def element (s : SteadyConfig) (config : Config) (i : ℕ) : Option UInt32 :=
  v.dynamic.bind fun d => d.element s config i

/-- The answer to each operation. -/
def answer (a : Answers) : Handler sig SteadyConfig
  | .write w, s => (some (a.write w), s)
  | .getPATemp, s => (some a.temperature, s)
  | .motionAwareness, s => (some a.motion, s)
  | .readOdClamp config i, s => (some ((v.element s config i).getD a.stray), s)
  | .readOlLraPeriod config, s => (some ((v.dynamic.map fun d => d.period s config).getD 0), s)
  | .assignOdClamp object, s => (some (), { s with odClamp := object })
  | .assignOlLraPeriod value, s => (some (), { s with olLraPeriod := value })

/-- The fields after a call. -/
def next (s : SteadyConfig) (e : Event) : SteadyConfig :=
  ((v.serve e.1).exec (v.answer e.2) s).2

/-- The fields after a run. -/
def after (h : List Event) : SteadyConfig := h.foldl v.next v.start

/-- The operations of the calls of a run that starts with the fields `s`. -/
def stepsFrom : SteadyConfig → List Event → List (SteadyConfig × Op)
  | _, [] => []
  | s, e :: h => (v.serve e.1).trace (v.answer e.2) s ++ stepsFrom (v.next s e) h

/-- The operations of a run. -/
def steps (h : List Event) : List (SteadyConfig × Op) := v.stepsFrom v.start h

end Vibrator

/-- What a register is to be set to. -/
def Op.write? : Op → Option Write
  | .write w => some w
  | _ => none

/-- The element of a clamp array that is to be read. -/
def Op.read? : Op → Option (Config × ℕ)
  | .readOdClamp config i => some (config, i)
  | _ => none

namespace Vibrator

variable {v : Vibrator} {a : Answers} {s : SteadyConfig}

/-- Before any call the fields are as they start. -/
@[simp] lemma after_nil : v.after [] = v.start := rfl

/-- The fields after one more call. -/
@[simp] lemma after_concat (h : List Event) (e : Event) :
    v.after (h ++ [e]) = v.next (v.after h) e := by
  simp only [after, List.foldl_append, List.foldl_cons, List.foldl_nil]

/-! ## The register writes that `on` and `perform` share -/

/-- The end of `onMode` by whether the duration and the activation were written. -/
def onModeStatus (a : Answers) (timeoutMs : UInt32) : Status :=
  if a.write (.duration timeoutMs) ∧ a.write (.activate true) then .ok () else .error .illegalState

/-- The operations of `applyConfig`. -/
def configOps (v : Vibrator) (a : Answers) (s : SteadyConfig) (config : Config) (i : ℕ) : List Op :=
  match v.dynamic with
  | some d =>
    [.write (.lraWaveShape (d.shape config)), .readOdClamp config i,
      .write (.odClamp ((d.element s config i).getD a.stray)), .readOlLraPeriod config,
      .write (.olLraPeriod (d.period s config))]
  | none => []

/-- The operations of `onMode`. -/
def onModeOps (v : Vibrator) (a : Answers) (s : SteadyConfig) (timeoutMs : UInt32) (mode : Mode)
    (config : Config) (i : ℕ) : List Op :=
  [.write (.ctrlLoop (v.loopMode timeoutMs mode).toUnderlying), .write (.duration timeoutMs)] ++
    if a.write (.duration timeoutMs) then
      .write (.mode mode) :: configOps v a s config i ++ [.write (.activate true)]
    else []

/-- Applying a configuration succeeds, and leaves the fields as they are. -/
lemma exec_applyConfig (config : Config) (i : ℕ) :
    (v.applyConfig config i).exec (v.answer a) s = (some (), s) := by
  unfold applyConfig
  split <;> exact rfl

/-- What is written to apply a configuration. -/
lemma trace_applyConfig (config : Config) (i : ℕ) :
    (v.applyConfig config i).trace (v.answer a) s = (configOps v a s config i).map (s, ·) := by
  unfold applyConfig configOps
  cases hd : v.dynamic with
  | none => exact rfl
  | some d =>
    simp [set, Prog.call, Prog.trace, answer, element, hd]

/-- The activation succeeds exactly if its write does. -/
lemma exec_activate (value : Bool) :
    (activate value).exec (v.answer a) s =
      (some (if a.write (.activate value) then .ok () else .error .illegalState), s) := by
  cases hw : a.write (.activate value) <;>
    simp [activate, set, Prog.call, Prog.exec, answer, hw]

/-- The activation is one write. -/
lemma trace_activate (value : Bool) :
    (activate value).trace (v.answer a) s = [(s, .write (.activate value))] := by
  cases hw : a.write (.activate value) <;>
    simp [activate, set, Prog.call, Prog.trace, answer, hw]

/-- Whether a vibration begins depends on its writes only; it leaves the fields as they are. -/
lemma exec_onMode (timeoutMs : UInt32) (mode : Mode) (config : Config) (i : ℕ) :
    (v.onMode timeoutMs mode config i).exec (v.answer a) s = (some (onModeStatus a timeoutMs), s) :=
  by
  cases hw : a.write (.duration timeoutMs) with
  | false => simp [onMode, set, Prog.call, Prog.exec, answer, onModeStatus, hw]
  | true =>
    have rest := exec_activate (v := v) (a := a) (s := s) true
    simp [onMode, set, Prog.call, Prog.exec, answer, onModeStatus, hw,
      Prog.exec_bind_of _ (exec_applyConfig config i), rest]

/-- What is written to begin a vibration. -/
lemma trace_onMode (timeoutMs : UInt32) (mode : Mode) (config : Config) (i : ℕ) :
    (v.onMode timeoutMs mode config i).trace (v.answer a) s =
      (onModeOps v a s timeoutMs mode config i).map (s, ·) := by
  cases hw : a.write (.duration timeoutMs) with
  | false => simp [onMode, set, Prog.call, Prog.trace, answer, onModeOps, hw]
  | true =>
    simp [onMode, set, Prog.call, Prog.trace, answer, onModeOps, hw, Prog.trace_bind,
      exec_applyConfig, trace_applyConfig, trace_activate]

/-! ## What each call does -/

/-- The fields after `on` has read the temperature. -/
def settle (d : Dynamic) (s : SteadyConfig) (temperature : ℤ) : SteadyConfig :=
  if temperature > TEMP_UPPER_BOUND then ⟨.steadyTargetOdClamp, d.mSteadyOlLraPeriod⟩
  else if temperature < TEMP_LOWER_BOUND then
    ⟨.steadyVoltageLowerBound, d.mSteadyOlLraPeriodShift⟩
  else s

/-- The level of the steady clamp that `on` selects. -/
def steadyOffset (a : Answers) (timeoutMs : Int32) : ℕ :=
  if a.reading > TEMP_UPPER_BOUND ∧ timeoutMs > VIBRATION_MOTION_TIME_THRESHOLD ∧ a.motion = false
  then 2 else 0

/-- The protection selects a clamp and settles the fields for it. -/
lemma exec_protect (d : Dynamic) (timeoutMs : Int32) :
    (protect d timeoutMs).exec (v.answer a) s =
      (some (steadyOffset a timeoutMs), settle d s a.reading) := by
  unfold steadyOffset settle
  simp only [protect, Prog.call, Prog.op_bind, Prog.ret_bind]
  apply (Prog.exec_op _ (rfl : v.answer a .getPATemp s = (some a.temperature, s))).trans
  rw [show a.temperature.getD 0 = a.reading from rfl]
  by_cases hot : a.reading > TEMP_UPPER_BOUND
  · rw [if_pos hot, if_pos hot]
    by_cases long : timeoutMs > VIBRATION_MOTION_TIME_THRESHOLD
    · rw [if_pos long]
      cases hm : a.motion with
      | false => simp [Prog.exec, answer, hm, hot, long]
      | true => simp [Prog.exec, answer, hm]
    · rw [if_neg long, if_neg fun h => long h.2.1]
      exact rfl
  · have level : steadyOffset a timeoutMs = 0 := if_neg fun h => hot h.1
    rw [if_neg hot, if_neg hot, ← steadyOffset, level]
    by_cases cold : a.reading < TEMP_LOWER_BOUND
    · rw [if_pos cold, if_pos cold]
      exact rfl
    · rw [if_neg cold, if_neg cold]
      exact rfl

/-- The temperature protection neither writes a register nor reads a clamp. -/
lemma all_protect (d : Dynamic) (timeoutMs : Int32) :
    (protect d timeoutMs).All fun o : Op => o.write? = none ∧ o.read? = none := by
  simp only [protect, Prog.call, Prog.op_bind, Prog.ret_bind, Prog.all_op]
  refine ⟨⟨rfl, rfl⟩, fun temperature => ?_⟩
  split
  · refine ⟨⟨rfl, rfl⟩, fun _ => ⟨⟨rfl, rfl⟩, fun _ => ?_⟩⟩
    split
    · refine ⟨⟨rfl, rfl⟩, fun motion => ?_⟩
      cases motion <;> exact trivial
    · exact trivial
  · split
    · exact ⟨⟨rfl, rfl⟩, fun _ => ⟨⟨rfl, rfl⟩, fun _ => trivial⟩⟩
    · exact trivial

/-- The operations of `performEffect` after its switches. -/
def effectOps (v : Vibrator) (a : Answers) (s : SteadyConfig) (sequence : String) (timeMS : UInt32)
    (i : ℕ) : List Op :=
  .write (.sequencer sequence) :: onModeOps v a s timeMS .waveform .effect i

/-- The plan of an effect at a strength, if both are supported. -/
def plan (v : Vibrator) (effect : Effect) (strength : EffectStrength) :
    Option (String × UInt32 × ℕ) :=
  (strengthOffset strength).bind fun volOffset => v.effectPlan volOffset effect

/-- An effect is performed as it is planned. -/
lemma performEffect_eq (effect : Effect) (strength : EffectStrength) :
    v.performEffect effect strength =
      match v.plan effect strength with
      | none => return .error .unsupportedOperation
      | some (sequence, timeMS, volOffset) => do
        let _ ← set (.sequencer sequence)
        match ← v.onMode timeMS .waveform .effect volOffset with
        | .error status => return .error status
        | .ok () => return .ok timeMS.toInt32 := by
  unfold performEffect plan
  cases strengthOffset strength with
  | none => exact rfl
  | some volOffset =>
    simp only [Option.bind_some]
    cases v.effectPlan volOffset effect <;> exact rfl

section

variable (v : Vibrator) (a : Answers) (s : SteadyConfig)

/-- What a call does: the operations after the temperature protection. -/
def callOps : Call → List Op
  | .on timeoutMs callback =>
    if callback then [] else
      match v.dynamic with
      | some d =>
        onModeOps v a (settle d s a.reading) timeoutMs.toUInt32 .rtp .steady
          (steadyOffset a timeoutMs)
      | none => onModeOps v a s timeoutMs.toUInt32 .rtp .steady 0
  | .off => [.write (.activate false)]
  | .setAmplitude amplitude =>
    if amplitude ≤ 0 ∨ amplitude > 1 then []
    else [.write (.rtpInput (round (amplitude * (MAX_RTP_INPUT - MIN_RTP_INPUT) + MIN_RTP_INPUT)))]
  | .perform effect strength callback =>
    if callback then [] else
      match v.plan effect strength with
      | some (sequence, timeMS, volOffset) => effectOps v a s sequence timeMS volOffset
      | none => []
  | .dump fd =>
    if fd < 0 ∨ v.dynamic = none then [] else
      (List.range 3).map (.readOdClamp .steady) ++ [.readOlLraPeriod .steady] ++
        (List.range 5).map (.readOdClamp .effect) ++ [.readOlLraPeriod .effect]

end

/-- Reading clamps leaves the fields as they are. -/
lemma exec_readClamps (config : Config) (is : List ℕ) :
    ∃ clamps, (readClamps config is).exec (v.answer a) s = (some clamps, s) := by
  induction is with
  | nil => exact ⟨[], rfl⟩
  | cons i is ih =>
    obtain ⟨clamps, h⟩ := ih
    refine ⟨(v.element s config i).getD a.stray :: clamps, ?_⟩
    simp only [readClamps, Prog.call, Prog.op_bind, Prog.ret_bind]
    apply (Prog.exec_op _ rfl).trans
    rw [Prog.exec_bind_of _ h]
    exact rfl

/-- The clamps are read one after the other. -/
lemma trace_readClamps (config : Config) (is : List ℕ) :
    (readClamps config is).trace (v.answer a) s = is.map fun i => (s, .readOdClamp config i) := by
  induction is with
  | nil => exact rfl
  | cons i is ih =>
    obtain ⟨clamps, h⟩ := exec_readClamps (v := v) (a := a) (s := s) config is
    simp only [readClamps, Prog.call, Prog.op_bind, Prog.ret_bind]
    apply (Prog.trace_op _ rfl).trans
    rw [Prog.trace_bind, h, ih]
    exact congrArg _ (List.append_nil _)

/-- Dumping a configuration leaves the fields as they are. -/
lemma exec_dumpConfig (d : Dynamic) (config : Config) (n : ℕ) :
    ∃ report, (dumpConfig d config n).exec (v.answer a) s = (some report, s) := by
  obtain ⟨clamps, h⟩ := exec_readClamps (v := v) (a := a) (s := s) config (List.range n)
  unfold dumpConfig
  rw [Prog.exec_bind_of _ h]
  exact ⟨_, rfl⟩

/-- A dump of a configuration reads its clamps and then its period. -/
lemma trace_dumpConfig (d : Dynamic) (config : Config) (n : ℕ) :
    (dumpConfig d config n).trace (v.answer a) s =
      ((List.range n).map (Op.readOdClamp config) ++ [Op.readOlLraPeriod config]).map (s, ·) := by
  obtain ⟨clamps, h⟩ := exec_readClamps (v := v) (a := a) (s := s) config (List.range n)
  rw [dumpConfig, Prog.trace_bind, h, trace_readClamps, List.map_append, List.map_map]
  exact rfl

/-- A call leaves the fields alone, unless it is an `on` that reads the temperature. -/
theorem next_eq (v : Vibrator) (s : SteadyConfig) (c : Call) (a : Answers) :
    v.next s (c, a) =
      match c, v.dynamic with
      | .on _ false, some d => settle d s a.reading
      | _, _ => s := by
  have mapped {α : Type} (f : α → Reply) (p : Hal α) :
      ((f <$> p).exec (v.answer a) s).2 = (p.exec (v.answer a) s).2 := by
    rw [Prog.exec_map]
  cases c with
  | on timeoutMs callback =>
    apply (mapped _ _).trans
    unfold on
    cases callback with
    | true => cases v.dynamic <;> exact rfl
    | false =>
      cases hd : v.dynamic with
      | none =>
        have h := exec_onMode (v := v) (a := a) (s := s) timeoutMs.toUInt32 .rtp .steady 0
        exact congrArg Prod.snd h
      | some d =>
        simp only [Bool.false_eq_true, if_false]
        rw [Prog.exec_bind_of _ (exec_protect d timeoutMs)]
        exact congrArg Prod.snd (exec_onMode _ _ _ _)
  | off => exact (mapped _ _).trans (congrArg Prod.snd (exec_activate false))
  | setAmplitude amplitude =>
    apply (mapped _ _).trans
    unfold setAmplitude
    split
    · exact rfl
    · simp only [set, Prog.call, Prog.op_bind, Prog.ret_bind]
      apply (congrArg Prod.snd (Prog.exec_op _ rfl)).trans
      split <;> exact rfl
  | perform effect strength callback =>
    apply (mapped _ _).trans
    unfold perform
    cases callback with
    | true => exact rfl
    | false =>
      simp only [Bool.false_eq_true, if_false]
      rw [performEffect_eq]
      cases v.plan effect strength with
      | none => exact rfl
      | some plan =>
        obtain ⟨sequence, timeMS, volOffset⟩ := plan
        simp only [set, Prog.call, Prog.op_bind, Prog.ret_bind]
        apply (congrArg Prod.snd (Prog.exec_op _ rfl)).trans
        rw [Prog.exec_bind_of _ (exec_onMode timeMS .waveform .effect volOffset)]
        split <;> exact rfl
  | dump fd =>
    apply (mapped _ _).trans
    unfold dump
    split
    · exact rfl
    · cases v.dynamic with
      | none => exact rfl
      | some d =>
        obtain ⟨steady, hs⟩ := exec_dumpConfig (v := v) (a := a) (s := s) d .steady 3
        obtain ⟨effect, he⟩ := exec_dumpConfig (v := v) (a := a) (s := s) d .effect 5
        simp only
        rw [Prog.exec_bind_of _ hs, Prog.exec_bind_of _ he]
        exact rfl

/-- The status of an `on` that is given no callback. -/
lemma reply_on (v : Vibrator) (s : SteadyConfig) (timeoutMs : Int32) (a : Answers) :
    ((v.serve (.on timeoutMs false)).exec (v.answer a) s).1 =
      some (.status (onModeStatus a timeoutMs.toUInt32)) := by
  rw [serve, Prog.exec_map, on]
  simp only [Bool.false_eq_true, if_false]
  cases v.dynamic with
  | none => exact congrArg (fun x => x.1.map Reply.status) (exec_onMode _ _ _ _)
  | some d =>
    simp only
    rw [Prog.exec_bind_of _ (exec_protect d timeoutMs)]
    exact congrArg (fun x => x.1.map Reply.status) (exec_onMode _ _ _ _)

/-- A call is the temperature protection, if it comes to it, and then `callOps`. -/
theorem trace_serve (v : Vibrator) (s : SteadyConfig) (c : Call) (a : Answers) :
    ∃ pre, (v.serve c).trace (v.answer a) s =
        pre ++ (callOps v a s c).map (v.next s (c, a), ·) ∧
      ∀ x ∈ pre, x.2.write? = none ∧ x.2.read? = none := by
  rw [next_eq]
  cases c with
  | on timeoutMs callback =>
    rw [serve, Prog.trace_map, on, callOps]
    cases callback with
    | true => exact ⟨[], rfl, List.forall_mem_nil _⟩
    | false =>
      simp only [Bool.false_eq_true, if_false]
      cases hd : v.dynamic with
      | none => exact ⟨[], trace_onMode _ _ _ _, List.forall_mem_nil _⟩
      | some d =>
        refine ⟨(protect d timeoutMs).trace (v.answer a) s, ?_, (all_protect d timeoutMs).trace _ _⟩
        simp only [Prog.trace_bind, exec_protect, trace_onMode]
  | off =>
    rw [serve, Prog.trace_map, off, trace_activate]
    exact ⟨[], rfl, List.forall_mem_nil _⟩
  | setAmplitude amplitude =>
    rw [serve, Prog.trace_map, setAmplitude, callOps]
    refine ⟨[], ?_, List.forall_mem_nil _⟩
    by_cases h : amplitude ≤ 0 ∨ amplitude > 1
    · rw [if_pos h, if_pos h]
      exact rfl
    · rw [if_neg h, if_neg h]
      simp only [set, Prog.call, Prog.op_bind, Prog.ret_bind]
      apply (Prog.trace_op _ rfl).trans
      split <;> exact rfl
  | perform effect strength callback =>
    rw [serve, Prog.trace_map, perform, callOps]
    refine ⟨[], ?_, List.forall_mem_nil _⟩
    cases callback with
    | true => exact rfl
    | false =>
      simp only [Bool.false_eq_true, if_false]
      rw [performEffect_eq]
      cases v.plan effect strength with
      | none => exact rfl
      | some plan =>
        obtain ⟨sequence, timeMS, volOffset⟩ := plan
        simp only [set, Prog.call, Prog.op_bind, Prog.ret_bind]
        refine (Prog.trace_op _ rfl).trans (congrArg _ ?_)
        rw [Prog.trace_bind, exec_onMode, trace_onMode]
        cases onModeStatus a timeMS <;> exact List.append_nil _
  | dump fd =>
    rw [serve, Prog.trace_map, dump, callOps]
    refine ⟨[], ?_, List.forall_mem_nil _⟩
    by_cases h : fd < 0
    · rw [if_pos h, if_pos (.inl h)]
      exact rfl
    · rw [if_neg h]
      cases hd : v.dynamic with
      | none =>
        rw [if_pos (.inr rfl)]
        exact rfl
      | some d =>
        obtain ⟨steady, hs⟩ := exec_dumpConfig (v := v) (a := a) (s := s) d .steady 3
        obtain ⟨effect, he⟩ := exec_dumpConfig (v := v) (a := a) (s := s) d .effect 5
        have h' : ¬(fd < 0 ∨ some d = none) := not_or.mpr ⟨h, Option.some_ne_none d⟩
        rw [if_neg h']
        simp only [Prog.trace_bind, hs, he, trace_dumpConfig]
        exact rfl

/-- What a call writes to the registers, in order. -/
def written (v : Vibrator) (s : SteadyConfig) (e : Event) : List Write :=
  ((v.serve e.1).trace (v.answer e.2) s).filterMap fun x => x.2.write?

/-- What a call writes are the writes among its operations. -/
lemma written_eq (v : Vibrator) (s : SteadyConfig) (e : Event) :
    v.written s e = (callOps v e.2 s e.1).filterMap Op.write? := by
  obtain ⟨pre, h, quiet⟩ := trace_serve v s e.1 e.2
  rw [written, h, List.filterMap_append, List.filterMap_map,
    List.filterMap_eq_nil_iff.mpr fun x hx => (quiet x hx).1]
  exact rfl

/-- Something holds at every step of a run if it does so in each call of it. -/
lemma forall_stepsFrom {P : SteadyConfig × Op → Prop} (v : Vibrator) (s : SteadyConfig)
    (h : List Event) :
    (∀ x ∈ v.stepsFrom s h, P x) ↔
      ∀ h₁ e h₂, h = h₁ ++ e :: h₂ →
        ∀ x ∈ (v.serve e.1).trace (v.answer e.2) (h₁.foldl v.next s), P x := by
  induction h generalizing s with
  | nil => exact ⟨fun _ h₁ e h₂ eq => absurd eq (by simp), fun _ => List.forall_mem_nil P⟩
  | cons e h ih =>
    rw [stepsFrom, List.forall_mem_append, ih]
    constructor
    · rintro ⟨first, rest⟩ h₁ e' h₂ eq
      cases h₁ with
      | nil =>
        obtain ⟨rfl, -⟩ := List.cons.inj eq
        exact first
      | cons e₁ h₁ =>
        obtain ⟨rfl, tail⟩ := List.cons.inj eq
        exact rest h₁ e' h₂ tail
    · intro all
      refine ⟨all [] e h rfl, fun h₁ e' h₂ eq => ?_⟩
      exact all (e :: h₁) e' h₂ (congrArg (e :: ·) eq)

end Vibrator

end Redfin.Drv2624
