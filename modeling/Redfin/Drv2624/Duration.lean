import Redfin.Drv2624.Run
import Redfin.Numbers.Words

/-!
# Durations

A duration is a signed integer where a client passes or receives it, an unsigned one inside the
HAL and on the duration node. Both conversions keep it only below `2 ^ 31`, and neither `on` nor
`perform` compares it with that bound.
-/

namespace Redfin.Drv2624

open Program Numbers

/-- What is written to the duration node. -/
def Write.duration? : Write → Option UInt32
  | .duration value => some value
  | _ => none

/-- What is written to the `ctrl_loop` node. -/
def Write.ctrlLoop? : Write → Option Bool
  | .ctrlLoop value => some value
  | _ => none

/-- A request for a steady vibration. -/
def Call.Steady : Call → Prop
  | .on _ _ => True
  | _ => False

/-- The duration of a request that is accepted: the argument of `on`, and the time that `perform`
returns. -/
def Reply.duration? : Call → Reply → Option ℤ
  | .on timeoutMs _, .status (.ok ()) => some timeoutMs.toInt
  | .perform _ _ _, .performed (.ok outTimeMs) => some outTimeMs.toInt
  | _, _ => none

namespace Vibrator

/-- The reply to a call. -/
def reply (v : Vibrator) (s : SteadyConfig) (e : Event) : Option Reply :=
  ((v.serve e.1).exec (v.answer e.2) s).1

/-- The request was accepted, and this is its duration. -/
def Accepted (v : Vibrator) (s : SteadyConfig) (e : Event) (duration : ℤ) : Prop :=
  (v.reply s e).bind (Reply.duration? e.1) = some duration

/-- The duration reaches the device, and the loop is closed exactly for a long steady vibration. -/
structure Faithful (v : Vibrator) (s : SteadyConfig) (e : Event) (duration : ℤ) : Prop where
  kept : ((v.written s e).filterMap Write.duration?).map (fun n => (n.toNat : ℤ)) = [duration]
  loop : (v.written s e).filterMap Write.ctrlLoop? = [LoopControl.CLOSE.toUnderlying] ↔
    e.1.Steady ∧ v.mCloseLoopThreshold.toNat < duration

/-- The duration of an effect as the calibration has it. -/
def effectDuration (v : Vibrator) : Effect → UInt32
  | .textureTick => v.mTickDuration
  | .click => v.mClickDuration
  | .doubleClick => v.mDoubleClickDuration
  | .tick => v.mTickDuration
  | .heavyClick => v.mHeavyClickDuration
  | .other _ => 0

/-- The duration of a request is in the range of both types. -/
def InRange (v : Vibrator) : Call → Prop
  | .on timeoutMs _ => 0 ≤ timeoutMs.toInt
  | .perform effect _ _ => (v.effectDuration effect).toNat < 2 ^ 31
  | _ => True

variable {v : Vibrator} {a : Answers} {s : SteadyConfig}

/-- An effect that is performed has the duration that is answered for it. -/
lemma plan_duration {effect : Effect} {strength : EffectStrength} {sequence : String}
    {timeMS : UInt32} {i : ℕ} (h : v.plan effect strength = some (sequence, timeMS, i)) :
    timeMS = v.effectDuration effect := by
  unfold plan at h
  cases hs : strengthOffset strength with
  | none =>
    rw [hs] at h
    cases h
  | some volOffset =>
    rw [hs, Option.bind_some] at h
    cases effect <;> cases h <;> exact rfl

/-- The loop is closed for real-time playback of more than the threshold, and for nothing else. -/
lemma loopMode_eq_close_iff (timeoutMs : UInt32) (mode : Mode) :
    v.loopMode timeoutMs mode = .CLOSE ↔ mode = .rtp ∧ v.mCloseLoopThreshold < timeoutMs := by
  unfold loopMode
  split
  next h => exact iff_of_true rfl h
  next h => exact iff_of_false LoopControl.noConfusion h

/-- The writes of `onMode`: the loop and the duration first, and neither of them again. -/
lemma writes_onModeOps (timeoutMs : UInt32) (mode : Mode) (config : Config) (i : ℕ) :
    ∃ rest, (onModeOps v a s timeoutMs mode config i).filterMap Op.write? =
        .ctrlLoop (v.loopMode timeoutMs mode).toUnderlying :: .duration timeoutMs :: rest ∧
      rest.filterMap Write.duration? = [] ∧ rest.filterMap Write.ctrlLoop? = [] := by
  unfold onModeOps configOps
  split
  · cases v.dynamic <;> exact ⟨_, rfl, rfl, rfl⟩
  · exact ⟨[], rfl, rfl, rfl⟩

/-- The reply to a `perform` that is given no callback. -/
lemma reply_perform (v : Vibrator) (s : SteadyConfig) (effect : Effect) (strength : EffectStrength)
    (a : Answers) :
    v.reply s (.perform effect strength false, a) =
      some (.performed (match v.plan effect strength with
        | none => .error .unsupportedOperation
        | some (_, timeMS, _) => (onModeStatus a timeMS).map fun _ => timeMS.toInt32)) := by
  rw [reply, serve, Prog.exec_map, perform]
  simp only [Bool.false_eq_true, if_false]
  rw [performEffect_eq]
  cases v.plan effect strength with
  | none => exact rfl
  | some plan =>
    obtain ⟨sequence, timeMS, i⟩ := plan
    simp only [set, Prog.call, Prog.op_bind, Prog.ret_bind]
    have sequenced : v.answer a (.write (.sequencer sequence)) s =
        (some (a.write (.sequencer sequence)), s) := rfl
    rw [Prog.exec_op _ sequenced, Prog.exec_bind_of _ (exec_onMode timeMS .waveform .effect i)]
    cases onModeStatus a timeMS <;> exact rfl

/-- What `on` and `perform` write by way of `onMode`. -/
lemma faithful_onMode {e : Event} {s' : SteadyConfig} {timeoutMs : UInt32} {mode : Mode}
    {config : Config} {i : ℕ} {duration : ℤ}
    (h : ∃ before, v.written s e =
      before ++ (onModeOps v e.2 s' timeoutMs mode config i).filterMap Op.write? ∧
      before.filterMap Write.duration? = [] ∧ before.filterMap Write.ctrlLoop? = []) :
    v.Faithful s e duration ↔
      (timeoutMs.toNat : ℤ) = duration ∧
        (v.loopMode timeoutMs mode = .CLOSE ↔
          e.1.Steady ∧ v.mCloseLoopThreshold.toNat < duration) := by
  obtain ⟨before, eq, noDuration, noLoop⟩ := h
  obtain ⟨rest, writes, noDuration', noLoop'⟩ :=
    writes_onModeOps (v := v) (a := e.2) (s := s') timeoutMs mode config i
  rw [writes] at eq
  have durations : (v.written s e).filterMap Write.duration? = [timeoutMs] := by
    rw [eq, List.filterMap_append, noDuration]
    exact congrArg (timeoutMs :: ·) noDuration'
  have loops : (v.written s e).filterMap Write.ctrlLoop? =
      [(v.loopMode timeoutMs mode).toUnderlying] := by
    rw [eq, List.filterMap_append, noLoop]
    exact congrArg ((v.loopMode timeoutMs mode).toUnderlying :: ·) noLoop'
  have closed : [(v.loopMode timeoutMs mode).toUnderlying] = [LoopControl.CLOSE.toUnderlying] ↔
      v.loopMode timeoutMs mode = .CLOSE := by
    cases v.loopMode timeoutMs mode <;> decide
  constructor
  · rintro ⟨kept, loop⟩
    rw [durations] at kept
    rw [loops, closed] at loop
    exact ⟨List.singleton_inj.mp kept, loop⟩
  · rintro ⟨kept, loop⟩
    constructor
    · rw [durations, ← kept]
      exact rfl
    · rw [loops, closed, loop]

/-- An `on` keeps a duration that is not negative, and chooses the loop by it. -/
lemma faithful_on (timeoutMs : Int32) :
    v.Faithful s (.on timeoutMs false, a) timeoutMs.toInt ↔ 0 ≤ timeoutMs.toInt := by
  have writes : ∃ s' i, v.written s (.on timeoutMs false, a) =
      (onModeOps v a s' timeoutMs.toUInt32 .rtp .steady i).filterMap Op.write? := by
    rw [written_eq, callOps]
    cases v.dynamic with
    | none => exact ⟨s, 0, rfl⟩
    | some d => exact ⟨settle d s a.reading, steadyOffset a timeoutMs, rfl⟩
  obtain ⟨s', i, eq⟩ := writes
  rw [faithful_onMode ⟨[], eq, rfl, rfl⟩, toNat_toUInt32_eq_iff, and_iff_left_iff_imp]
  intro nonneg
  have kept := (toNat_toUInt32_eq_iff timeoutMs).mpr nonneg
  rw [loopMode_eq_close_iff, UInt32.lt_iff_toNat_lt, ← kept, Int.ofNat_lt]
  exact and_congr_left fun _ => iff_of_true rfl trivial

/-- A `perform` keeps a duration whose top bit is clear; its loop is open. -/
lemma faithful_perform {effect : Effect} {strength : EffectStrength} {sequence : String}
    {timeMS : UInt32} {i : ℕ} (h : v.plan effect strength = some (sequence, timeMS, i)) :
    v.Faithful s (.perform effect strength false, a) timeMS.toInt32.toInt ↔
      timeMS.toNat < 2 ^ 31 := by
  have writes : v.written s (.perform effect strength false, a) = [.sequencer sequence] ++
      (onModeOps v a s timeMS .waveform .effect i).filterMap Op.write? := by
    rw [written_eq, callOps, h]
    exact rfl
  rw [faithful_onMode ⟨[.sequencer sequence], writes, rfl, rfl⟩, toNat_eq_toInt_toInt32_iff,
    and_iff_left_iff_imp]
  intro _
  rw [loopMode_eq_close_iff]
  exact iff_of_false (fun h => Mode.noConfusion h.1) And.left

/-- The requests that are accepted: those without a callback, of an effect that is supported. -/
lemma accepted_cases {c : Call} {duration : ℤ} (h : v.Accepted s (c, a) duration) :
    (∃ timeoutMs, c = .on timeoutMs false ∧ duration = timeoutMs.toInt) ∨
      ∃ effect strength sequence timeMS i, c = .perform effect strength false ∧
        v.plan effect strength = some (sequence, timeMS, i) ∧
        duration = timeMS.toInt32.toInt := by
  unfold Accepted at h
  cases c with
  | on timeoutMs callback =>
    apply Or.inl
    cases callback with
    | true => cases h
    | false =>
      rw [reply, reply_on] at h
      refine ⟨timeoutMs, rfl, ?_⟩
      cases hs : onModeStatus a timeoutMs.toUInt32 with
      | error status =>
        rw [hs] at h
        cases h
      | ok _ =>
        rw [hs] at h
        exact (Option.some.inj h).symm
  | perform effect strength callback =>
    apply Or.inr
    cases callback with
    | true => cases h
    | false =>
      rw [reply_perform] at h
      cases hp : v.plan effect strength with
      | none =>
        rw [hp] at h
        cases h
      | some plan =>
        obtain ⟨sequence, timeMS, i⟩ := plan
        rw [hp] at h
        refine ⟨effect, strength, sequence, timeMS, i, rfl, hp, ?_⟩
        cases hs : onModeStatus a timeMS with
        | error status =>
          simp only [hs] at h
          cases h
        | ok _ =>
          simp only [hs] at h
          exact (Option.some.inj h).symm
  | off | setAmplitude _ | dump _ =>
    obtain ⟨r, -, none⟩ := Option.bind_eq_some_iff.mp h
    cases none

/-- A request that is accepted reaches the device as it was made exactly if its duration is in the
range of both types. -/
theorem faithful_iff (v : Vibrator) (s : SteadyConfig) (e : Event) (duration : ℤ)
    (h : v.Accepted s e duration) : v.Faithful s e duration ↔ v.InRange e.1 := by
  obtain ⟨c, a⟩ := e
  obtain ⟨timeoutMs, rfl, rfl⟩ | ⟨effect, strength, sequence, timeMS, i, rfl, hp, rfl⟩ :=
    accepted_cases h
  · exact faithful_on timeoutMs
  · rw [faithful_perform hp, plan_duration hp]
    exact Iff.rfl

/-- A static configuration whose devices answer. -/
def plain (mClickDuration : UInt32) : Vibrator := ⟨1000, mClickDuration, 6, 100, 12, none⟩

def answering : Answers := ⟨fun _ => true, none, false, 0⟩

/-- A request of 100 ms is faithful on a device without a dynamic configuration. -/
theorem faithful_on_hundred :
    (plain 6).Faithful (plain 6).start (.on 100 false, answering) 100 := by
  apply (faithful_iff (plain 6) (plain 6).start (.on 100 false, answering) 100 rfl).mpr
  show (0 : ℤ) ≤ (100 : Int32).toInt
  decide

/-- A negative timeout becomes a vibration of weeks, with a closed loop, and a long effect a
negative time. -/
theorem not_faithful_negative :
    ((plain 6).Accepted (plain 6).start (.on (-1) false, answering) (-1) ∧
      ¬(plain 6).Faithful (plain 6).start (.on (-1) false, answering) (-1)) ∧
    ((plain 0x80000000).Accepted (plain 0x80000000).start
        (.perform .click .light false, answering) (-2 ^ 31) ∧
      ¬(plain 0x80000000).Faithful (plain 0x80000000).start
        (.perform .click .light false, answering) (-2 ^ 31)) := by
  refine ⟨⟨rfl, fun h => ?_⟩, ⟨rfl, fun h => ?_⟩⟩
  · exact absurd h.kept (by decide)
  · exact absurd h.kept (by decide)

end Vibrator

end Redfin.Drv2624
