import Mathlib.Algebra.Order.Group.Unbundled.Abs
import Mathlib.Algebra.Order.Field.Basic
import Mathlib.Tactic.NormNum
import Redfin.Drv2624.Motion
import Redfin.Drv2624.Temperature

/-!
# What the motion awareness goes by

A long vibration on a warm device uses the last steady level where the device lies still. Over whole
runs the static variables are those of the last poll of the sensor: the code with its variables
does what a HAL does that remembers the last poll (`sensed_eq`). So the level goes by one poll,
which is either made during the call or has ended at most two seconds before it, and by no sample
of any other; a poll without samples, or no poll at all, is motion.
-/

namespace Redfin.Drv2624

open Program

/-- The last poll, by its samples and its end, and the event queues that polls have left behind. -/
structure Watch where
  samples : List Sample := []
  ended : UInt64 := 0
  queues : ℕ := 0

namespace Sensors

variable (r : Sensors)

/-- The time at which the motion is asked for, and that at which a poll has ended. -/
def asked : UInt64 := (r.clock false).nanoseconds
def ended : UInt64 := (r.clock true).nanoseconds

/-- The samples that the loop of a poll takes. -/
def taken (counters : List ℕ) : List Sample := (counters.filter r.ready).map r.event

/-- The samples of a poll. -/
def samples : List Sample :=
  if r.manager && r.sensor && r.registered then r.taken (List.range SENSOR_DATA_NUM) else []

/-- A poll leaves its queue behind if the sensor cannot be registered with it. -/
def leaves : Bool := r.manager && r.sensor && r.queue && !r.registered

end Sensors

/-- The averages of the samples are within the window; that of no samples is not. -/
def Watch.Still (w : Watch) : Prop :=
  |(w.samples.map Prod.fst).sum| < 13 / 10 * w.samples.length ∧
    |(w.samples.map Prod.snd).sum| < 8 / 10 * w.samples.length

instance (w : Watch) : Decidable w.Still := inferInstanceAs (Decidable (_ ∧ _))

/-- The last poll is too old at the time at which the motion is asked for, and another is made. -/
def Watch.refresh (w : Watch) (r : Sensors) : Watch :=
  if r.asked - w.ended > SENSING_PERIOD then
    ⟨r.samples, r.ended, w.queues + r.leaves.toNat⟩
  else w

/-- The variables that stand for the last poll. -/
def Watch.variables (w : Watch) (fields : SteadyConfig) : Variables :=
  ⟨fields, w.samples.map Prod.fst, w.samples.map Prod.snd, w.ended, w.queues⟩

/-- The answers that go with the last poll. -/
def Watch.answers (w : Watch) (a : Answers) : Answers := { a with motion := !decide w.Still }

namespace Vibrator

variable (v : Vibrator)

/-- The call asks for the motion. -/
def asksMotion (e : Event) : Bool :=
  match e.1 with
  | .on timeoutMs false =>
    v.mDynamicConfig && decide (e.2.reading > TEMP_UPPER_BOUND) &&
      decide (timeoutMs > VIBRATION_MOTION_TIME_THRESHOLD)
  | _ => false

def watch (w : Watch) (e : SensedEvent) : Watch :=
  if v.asksMotion e.1 then w.refresh e.2 else w

/-- The last poll of a run. -/
def watched (h : List SensedEvent) : Watch := h.foldl v.watch {}

end Vibrator

/-! ## A poll -/

section

variable {v : Vibrator} {a : Answers} {r : Sensors}

/-- The loop of a poll adds the samples it takes. -/
lemma exec_pollEvents (counters : List ℕ) (s : Variables) :
    (pollEvents counters).exec (v.device a r) s =
      (some (), { s with
        sXAxleData := s.sXAxleData ++ (r.taken counters).map Prod.fst
        sYAxleData := s.sYAxleData ++ (r.taken counters).map Prod.snd }) := by
  induction counters generalizing s with
  | nil => simp [pollEvents, Sensors.taken]
  | cons counter rest ih =>
    cases ready : r.ready counter with
    | true =>
      have one : (pollEvents (counter :: rest)).exec (v.device a r) s =
          (pollEvents rest).exec (v.device a r) { s with
            sXAxleData := s.sXAxleData ++ [(r.event counter).1]
            sYAxleData := s.sYAxleData ++ [(r.event counter).2] } := by
        apply (Prog.exec_op _ (rfl : v.device a r (.pollOnce counter) s = (some _, s))).trans
        rw [ready]
        exact rfl
      rw [one, ih]
      simp [Sensors.taken, ready]
    | false =>
      have none : (pollEvents (counter :: rest)).exec (v.device a r) s =
          (pollEvents rest).exec (v.device a r) s := by
        apply (Prog.exec_op _ (rfl : v.device a r (.pollOnce counter) s = (some _, s))).trans
        rw [ready]
        exact rfl
      rw [none, ih]
      simp [Sensors.taken, ready]

/-- A poll adds its samples, and gives the queue back unless the sensor cannot be registered. -/
lemma exec_PollGSensor (s : Variables) :
    PollGSensor.exec (v.device a r) s =
      (some (), { s with
        sXAxleData := s.sXAxleData ++ r.samples.map Prod.fst
        sYAxleData := s.sYAxleData ++ r.samples.map Prod.snd
        queues := s.queues + r.leaves.toNat }) := by
  simp only [PollGSensor, Prog.call, Prog.op_bind, Prog.ret_bind, Sensors.samples, Sensors.leaves]
  rw [Prog.exec_op _ (rfl : v.device a r .getInstanceForPackage s = (some r.manager, s))]
  cases r.manager with
  | false => simp
  | true =>
    apply (Prog.exec_op _ (rfl : v.device a r .getDefaultSensor s = (some r.sensor, s))).trans
    cases r.sensor with
    | false => simp
    | true =>
      let s' := { s with queues := s.queues + r.queue.toNat }
      apply (Prog.exec_op _ (rfl : v.device a r .createEventQueue s = (some r.queue, s'))).trans
      apply (Prog.exec_op _ (rfl : v.device a r .registerSensor s' = (some r.registered, s'))).trans
      cases r.registered with
      | false => simp [s']
      | true =>
        apply (Prog.exec_bind_of _ (exec_pollEvents (List.range SENSOR_DATA_NUM) s')).trans
        cases queue : r.queue with
        | false => simp [s', queue]
        | true => simp [s', queue, Prog.exec, Vibrator.device]

/-- The comparisons of an average are those of a sum. -/
lemma within_average (bound : ℚ) (data : List ℚ) :
    within bound (average data) = true ↔ |data.sum| < bound * data.length := by
  rw [within, average]
  split
  · rename_i h
    simp [h]
  · rename_i h
    have positive : (0 : ℚ) < data.length := by
      exact_mod_cast List.length_pos_iff.mpr h
    rw [Option.any_some, Bool.and_eq_true, decide_eq_true_iff, decide_eq_true_iff, gt_iff_lt,
      ← abs_lt, abs_div, abs_of_pos positive, div_lt_iff₀ positive]

/-- The samples say that the phone moved exactly if the watch was not still. -/
lemma moved_eq (w : Watch) :
    moved (w.samples.map Prod.fst) (w.samples.map Prod.snd) = !decide w.Still := by
  have still : (within (13 / 10) (average (w.samples.map Prod.fst)) &&
      within (8 / 10) (average (w.samples.map Prod.snd))) = decide w.Still := by
    rw [Bool.eq_iff_iff, Bool.and_eq_true, within_average, within_average, decide_eq_true_iff,
      List.length_map, List.length_map]
    exact Iff.rfl
  rw [moved, still]

/-- The motion is answered by the last poll, which is made anew if it is too old. -/
lemma exec_motionAwareness (w : Watch) (fields : SteadyConfig) :
    motionAwareness.exec (v.device a r) (w.variables fields) =
      (some (!decide (w.refresh r).Still), (w.refresh r).variables fields) := by
  have asked : v.device a r (.clock_gettime false) (w.variables fields) =
      (some (r.clock false), w.variables fields) := rfl
  have ended : v.device a r .readEndTime (w.variables fields) =
      (some w.ended, w.variables fields) := rfl
  simp only [motionAwareness, Prog.call, Prog.op_bind, Prog.ret_bind]
  rw [Prog.exec_op _ asked, Prog.exec_op _ ended, ← Sensors.asked, Watch.refresh, ← moved_eq]
  split
  · have cleared : v.device a r .clearAxleData (w.variables fields) =
        (some (), { w.variables fields with sXAxleData := [], sYAxleData := [] }) := rfl
    rw [Prog.exec_op _ cleared, Prog.exec_bind_of _ (exec_PollGSensor _)]
    simp [Prog.exec, Vibrator.device, Watch.variables, Sensors.ended]
  · exact rfl

/-- The layer below writes no register. -/
lemma all_motionAwareness : motionAwareness.All fun o => SensorOp.write? o = none := by
  have events (counters : List ℕ) :
      (pollEvents counters).All fun o => SensorOp.write? o = none := by
    induction counters with
    | nil => exact trivial
    | cons counter rest ih =>
      refine ⟨rfl, fun ready => ?_⟩
      cases ready with
      | false => exact ih
      | true => exact ⟨rfl, fun _ => ⟨rfl, fun _ => ih⟩⟩
  have poll : PollGSensor.All fun o => SensorOp.write? o = none := by
    refine ⟨rfl, fun manager => ?_⟩
    cases manager with
    | false => exact trivial
    | true =>
      refine ⟨rfl, fun sensor => ?_⟩
      cases sensor with
      | false => exact trivial
      | true =>
        refine ⟨rfl, fun queue => ⟨rfl, fun registered => ?_⟩⟩
        cases registered with
        | false => exact trivial
        | true =>
          apply (events _).bind
          intro _
          cases queue with
          | false => exact trivial
          | true => exact ⟨rfl, fun _ => ⟨rfl, fun _ => trivial⟩⟩
  refine ⟨rfl, fun asked => ⟨rfl, fun ended => ?_⟩⟩
  show Prog.All _ (if _ then _ else _)
  split
  · refine ⟨rfl, fun _ => poll.bind fun _ => ?_⟩
    exact ⟨rfl, fun _ => ⟨rfl, fun _ => ⟨rfl, fun _ => trivial⟩⟩⟩
  · exact ⟨rfl, fun _ => trivial⟩

/-! ## A call -/

/-- The operations but the one for the motion are those of the HAL without the layer below. -/
lemma implements_calm (w : Watch) (m : Bool) :
    Implements (fun o : Op => o ≠ .motionAwareness) (fun s t => s = w.variables t) sensing
      (v.device a r) (v.answer { a with motion := m }) SensorOp.write? Op.write? := by
  rintro o _ t calm rfl
  cases o with
  | motionAwareness => exact absurd rfl calm
  | write write => exact ⟨_, rfl, rfl, rfl⟩
  | _ => exact ⟨_, rfl, rfl, rfl⟩

/-- A program that does not ask for the motion runs as without the layer below. -/
lemma exec_calm {α : Type} {p : Hal α} (calm : p.All fun o : Op => o ≠ .motionAwareness)
    (w : Watch) (m : Bool) (s : SteadyConfig) :
    (p.implement sensing).exec (v.device a r) (w.variables s) =
        ((p.exec (v.answer { a with motion := m }) s).1,
          w.variables (p.exec (v.answer { a with motion := m }) s).2) ∧
      (p.implement sensing).outputs SensorOp.write? (v.device a r) (w.variables s) =
        p.outputs Op.write? (v.answer { a with motion := m }) s := by
  obtain ⟨_, run, rfl, put⟩ := (implements_calm w m).exec (calm.trace _ s) rfl
  exact ⟨run, put⟩

end

namespace Vibrator

variable {v : Vibrator} {d : Dynamic}

/-- The operation is not the one that asks for the motion. -/
abbrev Calm (o : Op) : Prop := o ≠ .motionAwareness

/-- The activation asks nothing of the sensor. -/
lemma calm_activate (value : Bool) : (activate value).All Calm := by
  refine ⟨Op.noConfusion, fun ok => ?_⟩
  cases ok <;> exact trivial

/-- Beginning a vibration asks nothing of the sensor. -/
lemma calm_onMode (timeoutMs : UInt32) (mode : Mode) (config : Config) (i : ℕ) :
    (v.onMode timeoutMs mode config i).All Calm := by
  have calm_applyConfig : (v.applyConfig config i).All Calm := by
    unfold applyConfig
    cases v.dynamic with
    | none => exact trivial
    | some d =>
      refine ⟨Op.noConfusion, fun _ => ⟨Op.noConfusion, fun _ => ⟨Op.noConfusion, fun _ => ?_⟩⟩⟩
      exact ⟨Op.noConfusion, fun _ => ⟨Op.noConfusion, fun _ => trivial⟩⟩
  refine ⟨Op.noConfusion, fun _ => ⟨Op.noConfusion, fun ok => ?_⟩⟩
  cases ok with
  | false => exact trivial
  | true => exact ⟨Op.noConfusion, fun _ => calm_applyConfig.bind fun _ => calm_activate true⟩

/-- Dumping a configuration asks nothing of the sensor. -/
lemma calm_dumpConfig (config : Config) (n : ℕ) : (dumpConfig d config n).All Calm := by
  have reads (is : List ℕ) : (readClamps config is).All Calm := by
    induction is with
    | nil => exact trivial
    | cons i is ih => exact ⟨Op.noConfusion, fun _ => ih.bind fun _ => trivial⟩
  exact (reads _).bind fun _ => ⟨Op.noConfusion, fun _ => trivial⟩

/-- Only an `on` in the dynamic configuration can ask for the motion. -/
lemma calm_serve (c : Call) (h : c.reads = false ∨ v.dynamic = none) : (v.serve c).All Calm := by
  have mapped {α : Type} (f : α → Reply) {p : Hal α} (hp : p.All Calm) : (f <$> p).All Calm := by
    rw [map_eq_pure_bind]
    exact hp.bind fun _ => trivial
  cases c with
  | on timeoutMs callback =>
    apply mapped
    unfold on
    cases callback with
    | true => exact trivial
    | false =>
      rw [h.resolve_left Bool.noConfusion]
      exact calm_onMode _ _ _ _
  | off => exact mapped _ (calm_activate false)
  | setAmplitude amplitude =>
    apply mapped
    unfold setAmplitude
    split
    · exact trivial
    · refine ⟨Op.noConfusion, fun ok => ?_⟩
      cases ok <;> exact trivial
  | perform effect strength callback =>
    apply mapped
    unfold perform
    cases callback with
    | true => exact trivial
    | false =>
      simp only [Bool.false_eq_true, if_false]
      rw [performEffect_eq]
      cases v.plan effect strength with
      | none => exact trivial
      | some plan =>
        refine ⟨Op.noConfusion, fun _ => (calm_onMode _ _ _ _).bind fun status => ?_⟩
        cases status <;> exact trivial
  | dump fd =>
    apply mapped
    unfold dump
    split
    · exact trivial
    · cases v.dynamic with
      | none => exact trivial
      | some d =>
        exact (calm_dumpConfig _ _).bind fun _ => (calm_dumpConfig _ _).bind fun _ => trivial

variable {a : Answers} {r : Sensors}

/-- The level that `on` selects by the last poll. -/
lemma steadyOffset_answers (w : Watch) (a : Answers) (timeoutMs : Int32) :
    steadyOffset (w.answers a) timeoutMs =
      if a.reading > TEMP_UPPER_BOUND ∧ timeoutMs > VIBRATION_MOTION_TIME_THRESHOLD ∧ w.Still
      then 2 else 0 := by
  have motion : (w.answers a).motion = false ↔ w.Still := by
    rw [Watch.answers, Bool.not_eq_false', decide_eq_true_iff]
  simp only [steadyOffset, motion]
  exact rfl

/-- The temperature protection asks for the motion where it is warm and the vibration is long. -/
lemma sensed_protect (d : Dynamic) (timeoutMs : Int32) (w : Watch) (s : SteadyConfig) :
    ((protect d timeoutMs).implement sensing).exec (v.device a r) (w.variables s) =
      (some (steadyOffset ((w.refresh r).answers a) timeoutMs),
        (if a.reading > TEMP_UPPER_BOUND ∧ timeoutMs > VIBRATION_MOTION_TIME_THRESHOLD
          then w.refresh r else w).variables (settle d s a.reading)) := by
  have read (k : Option ℤ → Hal ℕ) :
      ((call .getPATemp >>= k).implement sensing).exec (v.device a r) (w.variables s) =
        ((k a.temperature).implement sensing).exec (v.device a r) (w.variables s) := rfl
  rw [protect, read]
  rw [show a.temperature.getD 0 = a.reading from rfl, settle]
  by_cases hot : a.reading > TEMP_UPPER_BOUND
  · rw [if_pos hot, if_pos hot]
    by_cases long : timeoutMs > VIBRATION_MOTION_TIME_THRESHOLD
    · have asked := exec_motionAwareness (v := v) (a := a) (r := r) w
        ⟨.steadyTargetOdClamp, d.mSteadyOlLraPeriod⟩
      rw [if_pos long, if_pos ⟨hot, long⟩, steadyOffset_answers]
      apply (Prog.exec_bind_of _ asked).trans
      by_cases still : (w.refresh r).Still
      · rw [if_pos ⟨hot, long, still⟩, decide_eq_true still]
        exact rfl
      · rw [if_neg fun h => still h.2.2, decide_eq_false still]
        exact rfl
    · have level : steadyOffset ((w.refresh r).answers a) timeoutMs = 0 :=
        if_neg fun h => long h.2.1
      rw [if_neg long, if_neg fun h => long h.2, level]
      exact rfl
  · have level : steadyOffset ((w.refresh r).answers a) timeoutMs = 0 := if_neg fun h => hot h.1
    rw [if_neg hot, if_neg hot, if_neg (fun h => hot h.1 : ¬(_ ∧ _)), level]
    by_cases cold : a.reading < TEMP_LOWER_BOUND
    · rw [if_pos cold, if_pos cold]
      exact rfl
    · rw [if_neg cold, if_neg cold]
      exact rfl

/-- A call that does not read the temperature does not ask for the motion. -/
lemma asksMotion_of_calm {c : Call} (h : c.reads = false ∨ v.dynamic = none) :
    v.asksMotion (c, a) = false := by
  cases c with
  | on timeoutMs callback =>
    cases callback with
    | true => exact rfl
    | false =>
      have static : v.mDynamicConfig = false := by
        rw [mDynamicConfig, h.resolve_left Bool.noConfusion]
        exact rfl
      simp only [asksMotion, static, Bool.false_and]
  | _ => exact rfl

/-- An `on` in the dynamic configuration is the temperature protection and then the rest. -/
lemma serve_on (hd : v.dynamic = some d) (timeoutMs : Int32) :
    v.serve (.on timeoutMs false) =
      protect d timeoutMs >>= fun i =>
        Reply.status <$> v.onMode timeoutMs.toUInt32 .rtp .steady i := by
  rw [serve, on, hd, ← map_bind]
  exact rfl

/-- A call of `on` looks for motion above the temperature bound and for long vibrations. -/
lemma watch_on (hd : v.dynamic = some d) (w : Watch) (timeoutMs : Int32) (a : Answers)
    (r : Sensors) :
    v.watch w ((.on timeoutMs false, a), r) =
      if a.reading > TEMP_UPPER_BOUND ∧ timeoutMs > VIBRATION_MOTION_TIME_THRESHOLD
      then w.refresh r else w := by
  have dynamic : v.mDynamicConfig = true := by
    rw [mDynamicConfig, hd]
    exact rfl
  simp only [watch, asksMotion, dynamic, Bool.true_and, Bool.and_eq_true, decide_eq_true_iff]

/-- An `on` in the dynamic configuration by the last poll. -/
lemma sensed_on (hd : v.dynamic = some d) (w : Watch) (s : SteadyConfig) (timeoutMs : Int32)
    (a : Answers) (r : Sensors) :
    let e := (.on timeoutMs false, (w.refresh r).answers a)
    (v.serveSensing e.1).exec (v.device a r) (w.variables s) =
        (((v.serve e.1).exec (v.answer e.2) s).1,
          (v.watch w ((e.1, a), r)).variables (v.next s e)) ∧
      v.sensedWrites (w.variables s) ((e.1, a), r) = v.written s e := by
  intro e
  have first := sensed_protect (v := v) (a := a) (r := r) d timeoutMs w s
  have first' := exec_protect (v := v) (a := e.2) (s := s) d timeoutMs
  rw [← watch_on hd] at first
  have calm : (Reply.status <$> v.onMode timeoutMs.toUInt32 .rtp .steady
      (steadyOffset e.2 timeoutMs)).All Calm := by
    rw [map_eq_pure_bind]
    exact (calm_onMode _ _ _ _).bind fun _ => trivial
  obtain ⟨run, put⟩ := exec_calm (a := a) (r := r) calm (v.watch w ((e.1, a), r)) e.2.motion
    (settle d s a.reading)
  have quiet : ((protect d timeoutMs).implement sensing).All fun o => SensorOp.write? o = none := by
    refine (all_protect d timeoutMs).implement fun o ho => ?_
    cases o with
    | motionAwareness => exact all_motionAwareness
    | _ => exact ⟨ho.1, fun _ => trivial⟩
  have quiet' := (all_protect d timeoutMs).mono fun o ho => ho.1
  constructor
  · rw [serveSensing, next, serve_on hd, Prog.implement_bind, Prog.exec_bind_of _ first,
      Prog.exec_bind_of _ first']
    exact run
  · show (v.serveSensing e.1).outputs _ _ _ = (v.serve e.1).outputs Op.write? _ _
    rw [serveSensing, serve_on hd, Prog.implement_bind, Prog.outputs_bind _ first,
      Prog.outputs_bind _ first', quiet.outputs, quiet'.outputs]
    exact put

/-- A call by the last poll: what it replies, what it leaves and what it writes. -/
theorem sensed_call (v : Vibrator) (w : Watch) (s : SteadyConfig) (c : Call) (a : Answers)
    (r : Sensors) :
    let a' := (w.refresh r).answers a
    (v.serveSensing c).exec (v.device a r) (w.variables s) =
        (((v.serve c).exec (v.answer a') s).1,
          (v.watch w ((c, a), r)).variables (v.next s (c, a))) ∧
      v.sensedWrites (w.variables s) ((c, a), r) = v.written s (c, a') := by
  intro a'
  have same : v.next s (c, a) = v.next s (c, a') := by
    rw [next_eq, next_eq]
    exact rfl
  rw [same]
  by_cases calm : c.reads = false ∨ v.dynamic = none
  · have last : v.watch w ((c, a), r) = w := if_neg (asksMotion_of_calm calm ▸ Bool.false_ne_true)
    rw [last]
    exact exec_calm (calm_serve c calm) w a'.motion s
  · rw [not_or] at calm
    obtain ⟨d, hd⟩ := Option.ne_none_iff_exists'.mp calm.2
    cases c with
    | on timeoutMs callback =>
      cases callback with
      | true => exact absurd rfl calm.1
      | false => exact sensed_on hd w s timeoutMs a r
    | _ => exact absurd rfl calm.1

/-- The variables after a run are those of a HAL that remembers the last poll. -/
theorem sensed_eq (v : Vibrator) (h : List SensedEvent) :
    v.sensed h = (v.watched h).variables (v.after (h.map Prod.fst)) := by
  induction h using List.reverseRecOn with
  | nil => exact rfl
  | append_singleton h e ih =>
    obtain ⟨⟨c, a⟩, r⟩ := e
    have call := (sensed_call v (v.watched h) (v.after (h.map Prod.fst)) c a r).1
    rw [List.map_append, List.map_singleton, after_concat, watched, List.foldl_concat, ← watched,
      sensed, List.foldl_concat, ← sensed, ih, call]

/-- The status of an `on` in the dynamic configuration. -/
lemma sensed_reply (hd : v.dynamic = some d) (h : List SensedEvent) (timeoutMs : Int32)
    (a : Answers) (r : Sensors) :
    ((v.serveSensing (.on timeoutMs false)).exec (v.device a r) (v.sensed h)).1 =
      some (.status (onModeStatus a timeoutMs.toUInt32)) := by
  rw [sensed_eq, (sensed_on hd (v.watched h) (v.after (h.map Prod.fst)) timeoutMs a r).1]
  exact reply_on v _ timeoutMs _

/-- The motion is judged by a poll that has ended within the period or is made by the call. -/
lemma refresh_fresh (w : Watch) (r : Sensors) :
    r.asked - (w.refresh r).ended ≤ SENSING_PERIOD ∨
      (w.refresh r).samples = r.samples ∧ (w.refresh r).ended = r.ended := by
  unfold Watch.refresh
  split
  · exact .inr ⟨rfl, rfl⟩
  · rename_i recent
    exact .inl (UInt64.not_lt.mp recent)

/-- The steady target by the last poll: the last one if the motion is asked for and the device lies
still. -/
lemma warmTarget_answers (hd : v.dynamic = some d) (w : Watch) (timeoutMs : Int32) (a : Answers)
    (r : Sensors) :
    warmTarget timeoutMs ((w.refresh r).answers a) =
      if v.asksMotion (.on timeoutMs false, a) ∧ (v.watch w ((.on timeoutMs false, a), r)).Still
      then 2 else 0 := by
  have dynamic : v.mDynamicConfig = true := by
    rw [mDynamicConfig, hd]
    exact rfl
  have level := steadyOffset_answers (w.refresh r) a timeoutMs
  apply Fin.ext
  rw [← steadyOffset_eq, level, watch_on hd]
  by_cases asked : a.reading > TEMP_UPPER_BOUND ∧ timeoutMs > VIBRATION_MOTION_TIME_THRESHOLD
  · have asks : v.asksMotion (.on timeoutMs false, a) = true := by
      simp [asksMotion, dynamic, asked]
    rw [if_pos asked, asks]
    by_cases still : (w.refresh r).Still
    · rw [if_pos ⟨asked.1, asked.2, still⟩, if_pos ⟨rfl, still⟩]
      exact rfl
    · rw [if_neg fun h => still h.2.2, if_neg fun h => still h.2]
      exact rfl
  · have silent : ¬v.asksMotion (.on timeoutMs false, a) = true := by
      simpa [asksMotion, dynamic] using asked
    rw [if_neg fun h => asked ⟨h.1, h.2.1⟩, if_neg fun h => silent h.1]
    exact rfl

/-- What a successful `on` programs goes by the last reading outside the band and by the last poll.
That poll is the call's own or has ended within the period before the motion is asked for. -/
theorem motion_aware (hd : v.dynamic = some d) (h : List SensedEvent) :
    v.sensed h = (v.watched h).variables (d.side (cold (h.map Prod.fst))) ∧
      ∀ (timeoutMs : Int32) (a : Answers) (r : Sensors),
        ((v.serveSensing (.on timeoutMs false)).exec (v.device a r) (v.sensed h)).1 =
            some (.status (.ok ())) →
          let e := ((.on timeoutMs false, a), r)
          let w := v.watched (h ++ [e])
          let c := cold ((h ++ [e]).map Prod.fst)
          (v.asksMotion e.1 →
            r.asked - w.ended ≤ SENSING_PERIOD ∨ w.samples = r.samples ∧ w.ended = r.ended) ∧
          ∃ clamp, v.sensedWrites (v.sensed h) e =
              [.ctrlLoop (v.loopMode timeoutMs.toUInt32 .rtp).toUnderlying,
                .duration timeoutMs.toUInt32, .mode .rtp, .lraWaveShape (d.shape .steady),
                .odClamp clamp,
                .olLraPeriod (if c then d.mSteadyOlLraPeriodShift else d.mSteadyOlLraPeriod),
                .activate true] ∧
            (if c then clamp = STEADY_VOLTAGE_LOWER_BOUND
              else d.mSteadyTargetOdClamp (if v.asksMotion e.1 ∧ w.Still then 2 else 0) =
                some clamp) := by
  refine ⟨by rw [sensed_eq, after_eq hd], fun timeoutMs a r ok => ?_⟩
  intro e w c
  let h' := h.map Prod.fst
  let a' := ((v.watched h).refresh r).answers a
  obtain ⟨-, put⟩ := sensed_on hd (v.watched h) (v.after h') timeoutMs a r
  have last : w = v.watch (v.watched h) e := List.foldl_concat ..
  have side : c = cold (h' ++ [(.on timeoutMs false, a')]) := by
    show cold ((h ++ [e]).map Prod.fst) = _
    rw [List.map_append, List.map_singleton, cold_on, cold_on]
    exact rfl
  have wrote : a'.write (.duration timeoutMs.toUInt32) = true := by
    by_contra failed
    rw [sensed_reply hd, onModeStatus, if_neg fun x => failed x.1] at ok
    cases ok
  have settled : settle d (v.after h') a'.reading = d.side c := by
    rw [after_eq hd, side]
    exact settle_side d h' timeoutMs a'
  have element := element_side d c (warmTarget timeoutMs a') fun hc =>
    warmTarget_of_cold (side.symm.trans hc)
  have period : d.period (d.side c) .steady =
      if c then d.mSteadyOlLraPeriodShift else d.mSteadyOlLraPeriod := by
    cases c <;> exact rfl
  refine ⟨fun asks => ?_,
    (d.element (d.side c) .steady (warmTarget timeoutMs a')).getD a'.stray, ?_, ?_⟩
  · rw [last, watch, if_pos asks]
    exact refresh_fresh _ r
  · rw [sensed_eq, put, written_eq, callOps, if_neg Bool.false_ne_true, hd]
    simp only
    rw [settled, steadyOffset_eq, written_onMode hd wrote, period]
  · rw [element, last, ← warmTarget_answers hd]
    cases c with
    | true => exact rfl
    | false =>
      obtain ⟨clamp, assigned⟩ :=
        Option.isSome_iff_exists.mp (d.assigned _ (warmTarget_ne timeoutMs a'))
      simp only [Bool.false_eq_true, if_false]
      rw [assigned]
      exact rfl

end Vibrator

/-- A device that lies still, with two samples, at a time in seconds; the sensor service may be
gone. -/
def lying (tv_sec : UInt64) (manager : Bool) : SensedEvent where
  fst := (.on 500 false, readingOf 20000)
  snd :=
    { clock := fun again => ⟨tv_sec, if again then 50000000 else 0⟩
      manager := manager
      sensor := true
      queue := true
      registered := true
      ready := fun counter => counter < 2
      event := fun _ => (1 / 2, 1 / 4) }

/-- A second after a poll a long vibration goes by that poll. -/
theorem motion_aware_lying :
    ∃ clamp, sampleVibrator.sensedWrites (sampleVibrator.sensed [lying 10 true]) (lying 11 false) =
      [.ctrlLoop false, .duration 500, .mode .rtp, .lraWaveShape 0, .odClamp clamp,
        .olLraPeriod 262, .activate true] ∧ sampleTargets 2 = some clamp := by
  obtain ⟨-, clamp, writes, level⟩ :=
    (Vibrator.motion_aware (v := sampleVibrator) (d := sampleDynamic) rfl [lying 10 true]).2 500
      (readingOf 20000) (lying 11 false).2 (Vibrator.sensed_reply rfl _ _ _ _)
  have still : (sampleVibrator.watched [lying 10 true, lying 11 false]).Still := by
    decide +kernel
  have warm : ¬cold ([lying 10 true, lying 11 false].map Prod.fst) = true := by decide +kernel
  have target := (if_neg warm).mp level
  exact ⟨clamp, writes, (congrArg sampleTargets (if_pos ⟨rfl, still⟩)).symm.trans target⟩

end Redfin.Drv2624
