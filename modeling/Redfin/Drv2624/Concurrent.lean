import Redfin.Drv2624.Reads
import Redfin.Drv2624.Service
import Redfin.Program.Schedule

/-!
# Calls at the same time

The two binder threads serve call after call, each of them whatever the clients call, and share the
pointer and the period of the steady configuration. `service.cpp` warns of calls at the same time.
Here is what they do to the reads through the clamp pointers: `on` selects a level and then reads the
clamp of this level through the pointer, and another `on` may have moved the pointer in between. The
first level is there behind every pointer. The last one, which only a long vibration selects, is
not.

Calls one after the other are runs of this machine (`reach_steps`), so what goes wrong with them
goes wrong here too.
-/

namespace Redfin.Drv2624

open Program

/-- The effect of an operation on the fields, for each of its results. -/
def Vibrator.access (v : Vibrator) : (o : Op) → o.Res → SteadyConfig → Option SteadyConfig
  | .write _, _, s => some s
  | .getPATemp, _, s => some s
  | .motionAwareness, _, s => some s
  | .readOdClamp config i, clamp, s =>
    if (v.element s config i).all (· = clamp) then some s else none
  | .readOlLraPeriod config, period, s =>
    if (v.dynamic.map fun d => d.period s config).all (· = period) then some s else none
  | .assignOdClamp object, _, s => some { s with odClamp := object }
  | .assignOlLraPeriod value, _, s => some { s with olLraPeriod := value }

/-- The service with its two threads, each of which serves one call after the other of those that
the clients make. -/
def binder (v : Vibrator) (made : Call → Prop) :
    Machine sig Thread Reply {call // made call} Empty SteadyConfig where
  act _ := v.access
  go _ _ call s := some (v.serve call, s)
  env e _ := e.elim

/-- The service after the constructor, with idle threads; `last` does not matter. -/
def binder.start (v : Vibrator) (last : Thread → Reply) :
    Program.Config sig Thread Reply SteadyConfig :=
  ⟨v.start, fun t => .ret (last t)⟩

namespace Vibrator

variable {v : Vibrator} {d : Dynamic} {made : Call → Prop} {I : SteadyConfig → Prop}

/-! ## What all calls keep to -/

/-- The operation finds the clamp it reads, and keeps `I`, in all fields that satisfy `I`. -/
def Sound (v : Vibrator) (I : SteadyConfig → Prop) (o : Op) : Prop :=
  ∀ s, I s → v.Readable (s, o) ∧ ∀ r s', v.access o r s = some s' → I s'

/-- An operation that reads no clamp is sound if it keeps `I`. -/
lemma sound_of_keeps {o : Op} (read : o.read? = none)
    (keeps : ∀ s r s', I s → v.access o r s = some s' → I s') : v.Sound I o := by
  intro s hs
  refine ⟨fun config i e => ?_, fun r s' act => keeps s r s' hs act⟩
  rw [read] at e
  cases e

/-- A write reads no clamp. -/
lemma sound_write (w : Write) : v.Sound I (.write w) := by
  apply sound_of_keeps rfl
  intro s r s' hs act
  cases act
  exact hs

/-- Reading a period reads no clamp. -/
lemma sound_readOlLraPeriod (config : Config) : v.Sound I (.readOlLraPeriod config) := by
  apply sound_of_keeps rfl
  intro s r s' hs act
  obtain ⟨-, rfl⟩ := of_enabled act
  exact hs

/-- A read is sound if the clamp is always there. -/
lemma sound_readOdClamp {config : Config} {i : ℕ}
    (h : ∀ s, I s → (v.element s config i).isSome) : v.Sound I (.readOdClamp config i) := by
  intro s hs
  refine ⟨fun config' i' e => ?_, fun r s' act => ?_⟩
  · cases e
    exact h s hs
  · obtain ⟨-, rfl⟩ := of_enabled act
    exact hs

/-- The activation reads no clamp. -/
lemma activate_sound (value : Bool) : (activate value).All (v.Sound I) := by
  simp only [activate, set, Prog.call, Prog.op_bind, Prog.ret_bind]
  refine ⟨sound_write _, fun ok => ?_⟩
  cases ok <;> exact trivial

/-- `onMode` is sound if the clamp of its level is always there. -/
lemma onMode_sound {timeoutMs : UInt32} {mode : Mode} {config : Config} {i : ℕ}
    (h : v.dynamic ≠ none → ∀ s, I s → (v.element s config i).isSome) :
    (v.onMode timeoutMs mode config i).All (v.Sound I) := by
  have apply_sound : (v.applyConfig config i).All (v.Sound I) := by
    unfold applyConfig
    cases hd : v.dynamic with
    | none => exact trivial
    | some d =>
      have found := h (hd ▸ Option.some_ne_none d)
      simp only [set, Prog.call, Prog.op_bind, Prog.ret_bind]
      refine ⟨sound_write _, fun _ => ⟨sound_readOdClamp found, fun _ => ⟨sound_write _, ?_⟩⟩⟩
      exact fun _ => ⟨sound_readOlLraPeriod _, fun _ => ⟨sound_write _, fun _ => trivial⟩⟩
  simp only [onMode, set, Prog.call, Prog.op_bind, Prog.ret_bind]
  refine ⟨sound_write _, fun _ => ⟨sound_write _, fun ok => ?_⟩⟩
  cases ok with
  | false => exact trivial
  | true =>
    refine ⟨sound_write _, fun _ => ?_⟩
    apply apply_sound.bind
    exact fun _ => activate_sound true

/-- The temperature protection of a short vibration selects the first level. -/
lemma protect_sound (all : ∀ s, I s) {timeoutMs : Int32}
    (short : ¬timeoutMs > VIBRATION_MOTION_TIME_THRESHOLD) :
    (protect d timeoutMs).Follows (.always (v.Sound I)) () fun i _ => i = 0 := by
  have quiet {o : Op} (read : o.read? = none) : v.Sound I o :=
    sound_of_keeps read fun _ _ s' _ _ => all s'
  simp only [protect, Prog.call, Prog.op_bind, Prog.ret_bind, if_neg short, Prog.follows_op]
  refine ⟨quiet rfl, fun temperature => ?_⟩
  split
  · exact ⟨quiet rfl, fun _ => ⟨quiet rfl, fun _ => rfl⟩⟩
  · split
    · exact ⟨quiet rfl, fun _ => ⟨quiet rfl, fun _ => rfl⟩⟩
    · exact rfl

/-- Dumping a configuration is sound if the clamps that it reads are assigned. -/
lemma dumpConfig_sound {config : Config} {n : ℕ}
    (h : ∀ i < n, ∀ s, I s → (v.element s config i).isSome) :
    (dumpConfig d config n).All (v.Sound I) := by
  have reads (is : List ℕ) (small : ∀ i ∈ is, i < n) :
      (readClamps config is).All (v.Sound I) := by
    induction is with
    | nil => exact trivial
    | cons i is ih =>
      simp only [readClamps, Prog.call, Prog.op_bind, Prog.ret_bind]
      refine ⟨sound_readOdClamp (h i (small i List.mem_cons_self)), fun _ => ?_⟩
      apply (ih fun i hi => small i (List.mem_cons_of_mem _ hi)).bind
      exact fun _ => trivial
  unfold dumpConfig
  apply (reads (List.range n) fun i hi => List.mem_range.mp hi).bind
  exact fun _ => ⟨sound_readOlLraPeriod config, fun _ => trivial⟩

/-- The first clamp is there behind every pointer. -/
lemma element_zero (hd : v.dynamic ≠ none) (s : SteadyConfig) (config : Config) :
    (v.element s config 0).isSome := by
  obtain ⟨d, hd⟩ := Option.ne_none_iff_exists'.mp hd
  have first (object : Object) : ((d.elements object)[0]?.join).isSome := by
    cases object with
    | effectTargetOdClamp => exact rfl
    | steadyTargetOdClamp => exact d.assigned 0 (by decide)
    | steadyVoltageLowerBound => exact rfl
  rw [element, hd]
  exact first _

/-- The five clamps of the effects are assigned. -/
lemma element_effect_isSome (hd : v.dynamic ≠ none) (s : SteadyConfig) {i : ℕ} (hi : i < 5) :
    (v.element s .effect i).isSome := by
  obtain ⟨d, hd⟩ := Option.ne_none_iff_exists'.mp hd
  rw [element, hd, Option.bind_some, element_effect d s hi]
  exact rfl

/-- A call is sound if a vibration it makes is short, with any fields allowed, and if a dump finds
its clamps. -/
lemma serve_sound (c : Call)
    (short : ∀ timeoutMs, c = .on timeoutMs false → v.dynamic ≠ none →
      (∀ s, I s) ∧ ¬timeoutMs > VIBRATION_MOTION_TIME_THRESHOLD)
    (dumps : ∀ fd, c = .dump fd → 0 ≤ fd → v.dynamic ≠ none →
      ∀ i < 3, ∀ s, I s → (v.element s .steady i).isSome) :
    (v.serve c).All (v.Sound I) := by
  have mapped {α : Type} (f : α → Reply) {p : Hal α} (hp : p.All (v.Sound I)) :
      (f <$> p).All (v.Sound I) := by
    rw [map_eq_pure_bind]
    exact hp.bind fun _ => trivial
  cases c with
  | on timeoutMs callback =>
    apply mapped
    unfold Vibrator.on
    cases callback with
    | true => exact trivial
    | false =>
      simp only [Bool.false_eq_true, if_false]
      cases hd : v.dynamic with
      | none => exact onMode_sound fun dynamic => absurd hd dynamic
      | some d =>
        have dynamic : v.dynamic ≠ none := hd ▸ Option.some_ne_none d
        obtain ⟨all, bound⟩ := short timeoutMs rfl dynamic
        have vibrate : (v.onMode timeoutMs.toUInt32 .rtp .steady 0).All (v.Sound I) :=
          onMode_sound fun dynamic s _ => element_zero dynamic s .steady
        have follows : (protect d timeoutMs >>= v.onMode timeoutMs.toUInt32 .rtp .steady).Follows
            (.always (v.Sound I)) () fun _ _ => True := by
          apply (protect_sound all bound).bind
          rintro i - rfl
          exact (vibrate.mono fun o ho => ⟨ho, fun _ => rfl⟩).follows fun _ => trivial
        exact follows.all
  | off => exact mapped _ (activate_sound false)
  | setAmplitude amplitude =>
    apply mapped
    unfold setAmplitude
    split
    · exact trivial
    · simp only [set, Prog.call, Prog.op_bind, Prog.ret_bind]
      refine ⟨sound_write _, fun ok => ?_⟩
      cases ok <;> exact trivial
  | perform effect strength callback =>
    apply mapped
    unfold perform
    cases callback with
    | true => exact trivial
    | false =>
      simp only [Bool.false_eq_true, if_false]
      rw [performEffect_eq]
      cases plan : v.plan effect strength with
      | none => exact trivial
      | some p =>
        obtain ⟨sequence, timeMS, i⟩ := p
        simp only [set, Prog.call, Prog.op_bind, Prog.ret_bind]
        refine ⟨sound_write _, fun _ => ?_⟩
        have found : v.dynamic ≠ none → ∀ s, I s → (v.element s .effect i).isSome :=
          fun dynamic s _ => element_effect_isSome dynamic s (plan_lt plan)
        apply (onMode_sound found).bind
        intro status
        cases status <;> exact trivial
  | dump fd =>
    apply mapped
    unfold Vibrator.dump
    split
    · exact trivial
    · rename_i nonneg
      cases hd : v.dynamic with
      | none => exact trivial
      | some d =>
        have dynamic : v.dynamic ≠ none := hd ▸ Option.some_ne_none d
        apply (dumpConfig_sound (dumps fd rfl (not_lt.mp nonneg) dynamic)).bind
        intro steady
        apply (dumpConfig_sound fun i hi s _ => element_effect_isSome dynamic s hi).bind
        exact fun _ => trivial

/-- Where all calls are sound, every read of every run finds its clamp. -/
lemma readable_of_sound {last : Thread → Reply} (start : I v.start)
    (sound : ∀ c, made c → (v.serve c).All (v.Sound I))
    {c : Program.Config sig Thread Reply SteadyConfig}
    (run : (binder v made).Reach (binder.start v last) c) {t : Thread} {o : Op}
    (ht : (c.prog t).head? = some o) : v.Readable (c.shared, o) := by
  have obeys : (binder v made).Obeys (fun _ => .always (v.Sound I)) fun _ _ => () := by
    intro t l call s p s' go
    obtain ⟨rfl, rfl⟩ := Prod.mk.inj (Option.some.inj go)
    have all := (sound call.1 call.2).mono fun o ho =>
      (⟨ho, fun _ => rfl⟩ : (Protocol.always (v.Sound I)).Neutral () o)
    exact all.follows fun _ => rfl
  have keeps : ∀ s q l s' q', I s → True →
      (binder v made).PStep (fun _ => .always (v.Sound I)) (fun _ _ => ()) s q l s' q' → I s' := by
    intro s q l s' q' hs _ st
    cases st with
    | act ok act => exact (ok s hs).2 _ _ act
    | go _ go =>
      obtain ⟨-, rfl⟩ := Prod.mk.inj (Option.some.inj go)
      exact hs
    | @env e => exact e.elim
  have idle : Machine.Tracks (fun _ => .always (v.Sound I)) (fun _ _ => ()) (binder.start v last)
      fun _ => () := fun _ => rfl
  obtain ⟨q, hI, tracks⟩ := run.invariant (I := fun s _ => I s) obeys keeps start idle
  obtain ⟨k, hk⟩ := Prog.eq_op_of_head? ht
  exact (tracks.ok hk c.shared hI).1

/-! ## What the threads may come to -/

section

variable {last : Thread → Reply} {c₀ : Program.Config sig Thread Reply SteadyConfig}
  {prog : Thread → Hal Reply} {s : SteadyConfig} {t : Thread}

/-- The answers of the devices are possible results. -/
lemma admits (a : Answers) : (binder v made).Admits (fun _ _ => True) t (v.answer a) := by
  intro o r s s' e
  refine ⟨trivial, ?_⟩
  cases o with
  | readOdClamp config i =>
    cases e
    apply if_pos
    cases v.element s config i <;> simp
  | readOlLraPeriod config =>
    cases e
    apply if_pos
    cases v.dynamic <;> simp
  | _ =>
    cases e
    exact rfl

/-- An idle thread may take up every call that the clients make. -/
lemma reach_go (run : (binder v made).Reach c₀ ⟨s, prog⟩) {r : Reply} (idle : prog t = .ret r)
    {call : Call} (hc : made call) :
    (binder v made).Reach c₀ ⟨s, Function.update prog t (v.serve call)⟩ :=
  run.tail trivial (Machine.step_of_go (x := ⟨call, hc⟩) idle rfl)

/-- With the devices answering, every call returns. -/
lemma exists_reply (v : Vibrator) (s : SteadyConfig) (e : Event) :
    ∃ r, (v.serve e.1).exec (v.answer e.2) s = (some r, v.next s e) := by
  have total (o : Op) (s : SteadyConfig) : ∃ r s', v.answer e.2 o s = (some r, s') := by
    cases o <;> exact ⟨_, _, rfl⟩
  obtain ⟨r, s', h⟩ := Prog.exists_exec total (v.serve e.1) s
  refine ⟨r, h.trans ?_⟩
  rw [next, h]

/-- Calls that one thread serves one after the other, with the other thread where it is. -/
lemma reach_stepsFrom {h : List Event} (hm : ∀ e ∈ h, made e.1) {r : Reply}
    (run : (binder v made).Reach c₀ ⟨s, Function.update prog t (.ret r)⟩) :
    ∀ x ∈ v.stepsFrom s h,
      ∃ k, (binder v made).Reach c₀ ⟨x.1, Function.update prog t (.op x.2 k)⟩ := by
  induction h generalizing s r with
  | nil =>
    intro x hx
    cases hx
  | cons e h ih =>
    intro x hx
    have taken := reach_go run (Function.update_self ..) (hm e List.mem_cons_self)
    rw [Function.update_idem] at taken
    rcases List.mem_append.mp hx with first | later
    · exact taken.trace (admits e.2) x first
    · obtain ⟨r', returned⟩ := exists_reply v s e
      have rest := fun e' he => hm e' (List.mem_cons_of_mem e he)
      exact ih rest (taken.exec (admits e.2) returned) x later

/-- The steps of a run of calls, one after the other, are steps of the service. -/
lemma reach_steps {h : List Event} (hm : ∀ e ∈ h, made e.1) (last : Thread → Reply)
    {x : SteadyConfig × Op} (hx : x ∈ v.steps h) :
    ∃ c, (binder v made).Reach (binder.start v last) c ∧ c.shared = x.1 ∧
      (c.prog .main).head? = some x.2 := by
  have idle : (binder v made).Reach (binder.start v last)
      ⟨v.start, Function.update (binder.start v last).prog .main (.ret (last .main))⟩ := by
    rw [show (Prog.ret (last .main) : Hal Reply) = (binder.start v last).prog .main from rfl,
      Function.update_eq_self]
    exact .refl
  obtain ⟨k, run⟩ := reach_stepsFrom hm idle x hx
  refine ⟨_, run, rfl, ?_⟩
  simp only [Function.update_self]
  exact rfl

/-- An operation of `callOps` is performed with the fields after the call. -/
lemma mem_trace_serve {call : Call} {a : Answers} {o : Op} (ho : o ∈ callOps v a s call) :
    (v.next s (call, a), o) ∈ (v.serve call).trace (v.answer a) s := by
  obtain ⟨pre, h, -⟩ := trace_serve v s call a
  rw [h]
  exact List.mem_append_right pre (List.mem_map_of_mem ho)

/-- A long vibration that has selected the last level, and then finds the pointer at the single
lower bound. -/
lemma exists_unreadable (hd : v.dynamic = some d) {timeoutMs : Int32}
    (hm : made (.on timeoutMs false)) (long : timeoutMs > VIBRATION_MOTION_TIME_THRESHOLD)
    (last : Thread → Reply) :
    ∃ c, (binder v made).Reach (binder.start v last) c ∧
      (c.prog .main).head? = some (.readOdClamp .steady 2) ∧ c.shared.odClamp =
        .steadyVoltageLowerBound := by
  have warm : Op.readOdClamp .steady 2 ∈
      callOps v (readingOf 20000) v.start (.on timeoutMs false) := by
    have level : steadyOffset (readingOf 20000) timeoutMs = 2 := if_pos ⟨by decide, long, rfl⟩
    rw [callOps, if_neg Bool.false_ne_true, hd]
    simp only [level, onModeOps, configOps, hd]
    simp [readingOf]
  have cold (s : SteadyConfig) :
      Op.write (.ctrlLoop (v.loopMode timeoutMs.toUInt32 .rtp).toUnderlying) ∈
        callOps v (readingOf 4000) s (.on timeoutMs false) := by
    rw [callOps, if_neg Bool.false_ne_true, hd]
    exact List.mem_cons_self
  -- the long vibration, up to where it reads the clamp
  have idle : (binder v made).Reach (binder.start v last) (binder.start v last) := .refl
  obtain ⟨k, selected⟩ := (reach_go (t := .main) idle rfl hm).trace (admits (readingOf 20000)) _
    (mem_trace_serve warm)
  -- the other one, up to where it has moved the pointer
  obtain ⟨k', moved⟩ := (reach_go (t := .pool) selected rfl hm).trace (admits (readingOf 4000)) _
    (mem_trace_serve (cold _))
  refine ⟨_, moved, rfl, ?_⟩
  rw [next_eq, hd]
  exact rfl

end

end Vibrator

/-- The two threads find every clamp they read if and only if, in the dynamic configuration, the
clients make no long vibrations, and dump only with all steady clamps assigned and no vibration
made. -/
theorem clamps_readable_concurrently (v : Vibrator) (made : Call → Prop) (last : Thread → Reply) :
    (∀ c, (binder v made).Reach (binder.start v last) c →
      ∀ t o, (c.prog t).head? = some o → v.Readable (c.shared, o)) ↔
      ∀ d, v.dynamic = some d →
        (∀ timeoutMs, made (.on timeoutMs false) →
          timeoutMs ≤ VIBRATION_MOTION_TIME_THRESHOLD) ∧
        ∀ fd, 0 ≤ fd → made (.dump fd) →
          (∀ i, (d.mSteadyTargetOdClamp i).isSome) ∧
            ∀ timeoutMs, ¬made (.on timeoutMs false) := by
  constructor
  · intro readable d hd
    refine ⟨fun timeoutMs hm => ?_, fun fd nonneg hm => ?_⟩
    · by_contra long
      obtain ⟨c, run, next, pointer⟩ :=
        Vibrator.exists_unreadable hd hm (Int32.not_le.mp long) last
      have found := readable c run .main _ next .steady 2 rfl
      rw [Vibrator.element, hd] at found
      simp only [Option.bind_some, Dynamic.element, SteadyConfig.pointer, pointer] at found
      cases found
    · have dumps (h : List Event) (made' : ∀ e ∈ h, made e.1) : Vibrator.Dumps d h := by
        apply (Vibrator.readable_steps hd h).mp
        intro x hx
        obtain ⟨c, run, shared, next⟩ := Vibrator.reach_steps made' last hx
        have found := readable c run .main x.2 next
        rwa [shared] at found
      constructor
      · have alone := dumps [(.dump fd, readingOf 4000)] (by simpa using hm)
        exact (alone [] _ [] rfl fd rfl nonneg).1
      · intro timeoutMs vibration
        have after := dumps [(.on timeoutMs false, readingOf 4000), (.dump fd, readingOf 4000)]
          (by simpa using ⟨vibration, hm⟩)
        have warm := (after [(.on timeoutMs false, readingOf 4000)] _ [] rfl fd rfl nonneg).2
        cases warm
  · intro h c run t o ht
    cases hd : v.dynamic with
    | none =>
      apply Vibrator.readable_of_sound (I := fun _ => True) trivial _ run ht
      intro call _
      apply Vibrator.serve_sound
      · exact fun _ _ dynamic => absurd hd dynamic
      · exact fun _ _ _ dynamic => absurd hd dynamic
    | some d =>
      obtain ⟨short, dumps⟩ := h d hd
      by_cases vibrates : ∃ timeoutMs, made (.on timeoutMs false)
      · obtain ⟨timeoutMs, vibration⟩ := vibrates
        apply Vibrator.readable_of_sound (I := fun _ => True) trivial _ run ht
        intro call hm
        apply Vibrator.serve_sound
        · rintro timeoutMs' rfl -
          exact ⟨fun _ => trivial, Int32.not_lt.mpr (short timeoutMs' hm)⟩
        · rintro fd rfl nonneg -
          exact absurd vibration ((dumps fd nonneg hm).2 timeoutMs)
      · apply Vibrator.readable_of_sound (I := (· = v.start)) rfl _ run ht
        intro call hm
        apply Vibrator.serve_sound
        · rintro timeoutMs rfl -
          exact absurd ⟨timeoutMs, hm⟩ vibrates
        · rintro fd rfl nonneg - i hi s rfl
          have target := Vibrator.element_side d false ⟨i, hi⟩ fun cold => absurd cold (by decide)
          rw [Vibrator.element, Vibrator.start, hd]
          exact (congrArg Option.isSome target).trans ((dumps fd nonneg hm).1 ⟨i, hi⟩)

end Redfin.Drv2624
