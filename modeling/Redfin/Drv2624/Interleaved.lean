import Redfin.Drv2624.Service

/-!
# Requests that keep apart

If no step of a run mixes the requests (`Orderly`), the two requests come to every register in the
same order. Then the registers at an activation are all those of the request that activates, or all
those of the one that has overwritten it.
-/

namespace Redfin.Drv2624

open Program

/-! ## Two threads -/

/-- There are two threads. -/
@[simp] lemma Thread.other_other (t : Thread) : t.other.other = t := by
  cases t <;> exact rfl

/-- The other thread is another one. -/
lemma Thread.other_ne (t : Thread) : t.other ≠ t := by
  cases t <;> exact nofun

/-- A thread that is not this one is the other. -/
lemma Thread.eq_other {t u : Thread} (h : u ≠ t) : u = t.other := by
  cases t <;> cases u <;> first | exact rfl | exact absurd rfl h

/-- A thread is the last writer, or the other one has come after it. -/
lemma head_or {l : List Thread} {t : Thread} (nodup : l.Nodup) (ht : t ∈ l) :
    l.head? = some t ∨ l = [t.other, t] := by
  cases l with
  | nil => cases ht
  | cons a l =>
    by_cases h : a = t
    · exact .inl (congrArg some h)
    · obtain rfl := Thread.eq_other h
      have mem : t ∈ l := (List.mem_cons.mp ht).resolve_left fun e => h e.symm
      obtain ⟨fresh, rest⟩ := List.nodup_cons.mp nodup
      have all : ∀ u ∈ l, u = t := by
        intro u hu
        by_contra ne
        exact fresh (Thread.eq_other ne ▸ hu)
      right
      cases l with
      | nil => cases mem
      | cons b l =>
        have hb := all b List.mem_cons_self
        cases l with
        | nil => rw [hb]
        | cons c l =>
          have hc := all c (List.mem_cons_of_mem b List.mem_cons_self)
          exact absurd (hc.trans hb.symm ▸ List.mem_cons_self) (List.nodup_cons.mp rest).1

/-! ## Places on a route -/

/-- In a list without repetitions an entry is not in front of itself. -/
lemma not_mem_take {α : Type} {l : List α} {n : ℕ} {x : α} (nodup : l.Nodup)
    (h : l[n]? = some x) : x ∉ l.take n := by
  intro mem
  obtain ⟨i, hi, e⟩ := List.mem_take_iff_getElem.mp mem
  obtain ⟨hn, e'⟩ := List.getElem?_eq_some_iff.mp h
  have same := (nodup.getElem_inj_iff).mp (e.trans e'.symm)
  omega

/-- One more entry is taken. -/
lemma mem_take_succ {α : Type} {l : List α} {n : ℕ} {x : α} (h : l[n]? = some x) (y : α) :
    y ∈ l.take (n + 1) ↔ y = x ∨ y ∈ l.take n := by
  rw [List.take_add_one, h, List.mem_append, or_comm]
  exact or_congr List.mem_singleton Iff.rfl

namespace Vibrator

variable {v : Vibrator} {mode : Mode} {n : ℕ}

/-- A request writes each register once. -/
lemma route_nodup (v : Vibrator) (mode : Mode) : (v.route mode).Nodup := by
  unfold route
  cases mode <;> cases v.mDynamicConfig <;> decide

/-- Every request writes the mode. -/
lemma mode_mem_route (v : Vibrator) (mode : Mode) : .mode ∈ v.route mode := by
  unfold route
  cases mode <;> cases v.mDynamicConfig <;> decide

/-- The register that a request writes last depends on the vibrator only. -/
lemma route_last (v : Vibrator) (mode : Mode) :
    (v.route mode)[(v.route mode).length - 1]? = some v.lastReg := by
  unfold route lastReg
  cases mode <;> cases v.mDynamicConfig <;> exact rfl

/-- A request that has written its last register has written all of them. -/
lemma take_of_last (h : v.lastReg ∈ (v.route mode).take n) :
    (v.route mode).take n = v.route mode := by
  apply List.take_of_length_le
  by_contra short
  have fresh := not_mem_take (v.route_nodup mode) (v.route_last mode)
  refine fresh (List.take_subset_take_left _ ?_ h)
  omega

end Vibrator

/-! ## The invariant -/

section

variable {v : Vibrator} {request : Thread → Request} {s s' : Shared} {q q' : Thread → Option ℕ}
  {t : Thread} {w : Write} {reg : Reg} {n : ℕ}

/-- The route of a thread's request. -/
abbrev routeOf (v : Vibrator) (request : Thread → Request) (t : Thread) : List Reg :=
  v.route (request t).mode

/-- A request has written the first `n` registers of its route; one that is over has written none
or all of them. -/
def Progress (v : Vibrator) (request : Thread → Request) (s : Shared) (q : Thread → Option ℕ)
    (t : Thread) (n : ℕ) : Prop :=
  (q t = some n ∨ q t = none ∧ (n = 0 ∨ n = (routeOf v request t).length)) ∧
    ∀ reg, t ∈ s.writers reg ↔ reg ∈ (routeOf v request t).take n

/-- Each request has written a part of its route, and the two come to the registers in one order. -/
structure Apart (v : Vibrator) (request : Thread → Request) (s : Shared) (q : Thread → Option ℕ) :
    Prop where
  progress : ∀ t, ∃ n, Progress v request s q t n
  nodup : ∀ reg, (s.writers reg).Nodup
  ordered : ∀ t r r', s.writers r = [t, t.other] → s.writers r' ≠ [t.other, t]
  mode : s.mode = (s.writers .mode).head?.map fun t => (request t).mode

/-- A thread that is not over is where its automaton says. -/
lemma Apart.at (h : Apart v request s q) (hq : q t = some n) : Progress v request s q t n := by
  obtain ⟨m, place, wrote⟩ := h.progress t
  rcases place with eq | ⟨none, -⟩
  · obtain rfl : m = n := Option.some.inj (eq.symm.trans hq)
    exact ⟨.inl eq, wrote⟩
  · rw [none] at hq
    cases hq

/-- The next register of a route is not yet written by its request. -/
lemma Apart.fresh (h : Apart v request s q) (hq : q t = some n)
    (next : (routeOf v request t)[n]? = some reg) : t ∉ s.writers reg := by
  rw [(h.at hq).2 reg]
  exact not_mem_take (v.route_nodup _) next

/-- A write to a register notes its thread, and the mode if it is one. -/
lemma Shared.write_eq (s : Shared) (t : Thread) (hw : w.reg? = some reg) :
    s.write t w = { s with
      writers := Function.update s.writers reg (t :: s.writers reg)
      mode := w.mode?.or s.mode } := by
  rw [Shared.write, hw]

/-- The mode register holds the mode of the request that has written it last. -/
lemma mode_write (hw : w.reg? = some reg) (hm : ∀ m, w = .mode m → m = (request t).mode)
    (h : s.mode = (s.writers .mode).head?.map fun t => (request t).mode) :
    (s.write t w).mode = ((s.write t w).writers .mode).head?.map fun t => (request t).mode := by
  rw [s.write_eq t hw]
  cases w with
  | mode m =>
    cases hw
    simp only [Function.update_self]
    exact congrArg some (hm m rfl)
  | activate value => cases hw
  | rtpInput value => cases hw
  | _ =>
    cases hw
    simpa [Write.mode?] using h

/-- A write keeps the requests apart if it does not pass the other request. -/
lemma Apart.write (h : Apart v request s q) (hw : w.reg? = some reg) (hq : q t = some n)
    (next : (routeOf v request t)[n]? = some reg)
    (hm : ∀ m, w = .mode m → m = (request t).mode)
    (behind : t.other ∈ s.writers reg → ∀ r, s.writers r ≠ [t.other, t]) :
    Apart v request (s.write t w) (Function.update q t (some (n + 1))) := by
  have fresh := h.fresh hq next
  have writers : (s.write t w).writers = Function.update s.writers reg (t :: s.writers reg) := by
    rw [s.write_eq t hw]
  refine ⟨fun u => ?_, fun r => ?_, fun u r r' hr hr' => ?_, mode_write hw hm h.mode⟩
  · by_cases hu : u = t
    · subst hu
      refine ⟨n + 1, .inl (Function.update_self ..), fun r => ?_⟩
      rw [writers, mem_take_succ next r, ← (h.at hq).2 r]
      by_cases hr : r = reg
      · simp [hr]
      · simp [hr]
    · obtain ⟨m, place, wrote⟩ := h.progress u
      refine ⟨m, ?_, fun r => ?_⟩
      · rwa [Function.update_of_ne hu]
      · rw [writers, ← wrote r]
        by_cases hr : r = reg
        · simp [hr, hu]
        · simp [hr]
  · rw [writers]
    by_cases hr : r = reg
    · rw [hr, Function.update_self]
      exact List.nodup_cons.mpr ⟨fresh, h.nodup reg⟩
    · rw [Function.update_of_ne hr]
      exact h.nodup r
  · rw [writers] at hr hr'
    by_cases first : r = reg
    · subst first
      rw [Function.update_self] at hr
      obtain ⟨rfl, old⟩ := List.cons.inj hr
      have second : r' ≠ r := by
        rintro rfl
        rw [Function.update_self] at hr'
        exact t.other_ne (List.cons.inj hr').1.symm
      rw [Function.update_of_ne second] at hr'
      exact behind (old ▸ List.mem_singleton_self _) r' hr'
    · rw [Function.update_of_ne first] at hr
      by_cases second : r' = reg
      · subst second
        rw [Function.update_self] at hr'
        obtain ⟨rfl, old⟩ := List.cons.inj hr'
        rw [Thread.other_other] at behind
        exact behind (old ▸ List.mem_singleton_self _) r hr
      · rw [Function.update_of_ne second] at hr'
        exact h.ordered u r r' hr hr'

/-- What does not touch the registers leaves the requests apart. -/
lemma Apart.keep (h : Apart v request s q) (hw : s'.writers = s.writers) (hm : s'.mode = s.mode) :
    Apart v request s' q := by
  obtain ⟨progress, nodup, ordered, mode⟩ := h
  unfold Progress at progress
  rw [← hw] at progress nodup ordered mode
  exact ⟨progress, nodup, ordered, hm.trans mode⟩

/-- A request that has written its whole route is over. -/
lemma Apart.over (h : Apart v request s q)
    (hq : q t = some (routeOf v request t).length) :
    Apart v request s (Function.update q t none) := by
  refine ⟨fun u => ?_, h.nodup, h.ordered, h.mode⟩
  by_cases hu : u = t
  · subst hu
    exact ⟨_, .inr ⟨Function.update_self .., .inr rfl⟩, (h.at hq).2⟩
  · obtain ⟨m, place, wrote⟩ := h.progress u
    exact ⟨m, by rwa [Function.update_of_ne hu], wrote⟩

/-- The automata of the requests. -/
abbrev automaton (v : Vibrator) (request : Thread → Request) (t : Thread) :
    Protocol sig (Option ℕ) :=
  routeProtocol v (request t).mode

/-- A write to a register is the next one on its route, and of the mode the request has. -/
lemma ok_write {mode : Mode} {p : Option ℕ} (hw : w.reg? = some reg)
    (ok : (routeProtocol v mode).ok p (.write w)) :
    (∃ n, p = some n ∧ (v.route mode)[n]? = some reg) ∧ ∀ m, w = .mode m → m = mode := by
  simpa only [routeProtocol, hw, Option.mem_def] using ok

/-- The vibration is switched on after the route. -/
lemma ok_none {mode : Mode} {p : Option ℕ} (hw : w.reg? = none)
    (ok : (routeProtocol v mode).ok p (.write w)) : p = some (v.route mode).length := by
  simpa only [routeProtocol, hw] using ok

/-- After a write the thread is one further on its route. -/
lemma next_write {mode : Mode} {p : Option ℕ} (hw : w.reg? = some reg) :
    (routeProtocol v mode).next p (.write w) true = p.map (· + 1) := by
  cases w with
  | activate value => cases hw
  | rtpInput value => cases hw
  | _ => exact rfl

/-- After the activation the route is left. -/
lemma next_none {mode : Mode} {p : Option ℕ} (hw : w.reg? = none) :
    (routeProtocol v mode).next p (.write w) true = none := by
  cases w with
  | activate value => exact rfl
  | rtpInput value => exact rfl
  | _ => cases hw

/-- An orderly step keeps the requests apart. -/
lemma apart_step {l : Label sig Thread Unit Empty} (h : Apart v request s q) (g : Orderly v s l)
    (st : (service v).PStep (automaton v request) (fun _ _ => none) s q l s' q') :
    Apart v request s' q' := by
  cases st with
  | @act t o r s' ok st =>
    have still : q = Function.update q t (q t) := (Function.update_eq_self t q).symm
    cases o with
    | write w =>
      cases r with
      | false => cases st
      | true =>
        obtain rfl : s.write t w = s' := Option.some.inj st
        cases hw : w.reg? with
        | some reg =>
          obtain ⟨⟨n, hq, next⟩, hm⟩ := ok_write hw ok
          have behind : t.other ∈ s.writers reg → ∀ r, s.writers r ≠ [t.other, t] := by
            simpa only [Orderly, hw] using g
          rw [next_write hw, hq]
          exact h.write hw hq next hm behind
        | none =>
          rw [next_none hw]
          have same : s.write t w = s := by rw [Shared.write, hw]
          rw [same]
          exact h.over (ok_none hw ok)
    | getPATemp =>
      cases st
      exact still ▸ h
    | motionAwareness =>
      cases st
      exact still ▸ h
    | readOdClamp config i =>
      obtain ⟨-, rfl⟩ := of_enabled st
      exact still ▸ h
    | readOlLraPeriod config =>
      obtain ⟨-, rfl⟩ := of_enabled st
      exact still ▸ h
    | assignOdClamp object =>
      cases st
      exact still ▸ h.keep rfl rfl
    | assignOlLraPeriod value =>
      cases st
      exact still ▸ h.keep rfl rfl
  | go _ st => cases st
  | @env e => exact e.elim

/-- Where the registers of a mode are those of a request of this mode. -/
lemma oneRequest_of_heads (h : Apart v request s q)
    (heads : ∀ reg ∈ routeOf v request t, (s.writers reg).head? = some t) : OneRequest v s := by
  refine ⟨t, (request t).mode, ?_, heads⟩
  rw [h.mode, heads .mode (v.mode_mem_route _)]
  exact rfl

/-- The registers at an activation, where the requests have been kept apart. -/
lemma Apart.oneRequest (h : Apart v request s q)
    (hq : q t = some (routeOf v request t).length)
    (between : (∃ r, s.writers r = [t.other, t]) → t.other ∈ s.writers v.lastReg) :
    OneRequest v s := by
  have wrote : ∀ reg ∈ routeOf v request t, t ∈ s.writers reg := by
    intro reg hr
    rw [(h.at hq).2 reg, List.take_length]
    exact hr
  by_cases behind : ∃ r, s.writers r = [t.other, t]
  · -- the other request has overwritten this one, up to its last register
    obtain ⟨r, hr⟩ := behind
    obtain ⟨n, -, prefix_eq⟩ := h.progress t.other
    have whole := Vibrator.take_of_last ((prefix_eq _).mp (between ⟨r, hr⟩))
    refine oneRequest_of_heads h (t := t.other) fun reg hreg => ?_
    have mem : t.other ∈ s.writers reg := by
      rw [prefix_eq, whole]
      exact hreg
    refine (head_or (h.nodup reg) mem).resolve_right fun passed => ?_
    rw [Thread.other_other] at passed
    exact h.ordered t reg r passed hr
  · refine oneRequest_of_heads h (t := t) fun reg hreg => ?_
    exact (head_or (h.nodup reg) (wrote reg hreg)).resolve_right fun passed =>
      behind ⟨reg, passed⟩

/-- At the start no request has written anything. -/
lemma apart_start (v : Vibrator) (request : Thread → Request) (fields : SteadyConfig) :
    Apart v request { fields } fun t => if v.idle (request t) then none else some 0 := by
  refine ⟨fun t => ⟨0, ?_, fun reg => by simp⟩, fun _ => List.nodup_nil, nofun, rfl⟩
  by_cases idle : v.idle (request t) = true
  · exact .inr ⟨if_pos idle, .inl rfl⟩
  · exact .inl (if_neg idle)

end

/-- In every run of orderly steps, the registers at each activation come from one request. -/
theorem one_request (v : Vibrator) (request : Thread → Request) (fields : SteadyConfig)
    {c : Program.Config sig Thread Reply Shared}
    (run : (service v).Run (Orderly v) (service.start v request fields) c) {t : Thread}
    (ht : (c.prog t).head? = some (.write (.activate true)))
    (orderly : Orderly v c.shared (.act t (.write (.activate true)) true)) :
    OneRequest v c.shared := by
  have obeys : (service v).Obeys (automaton v request) fun _ _ => none :=
    fun _ _ _ _ _ _ h => nomatch h
  obtain ⟨q, apart, tracks⟩ := run.invariant (I := Apart v request) obeys
    (fun _ _ _ _ _ h g st => apart_step h g st) (apart_start v request fields)
    fun t => v.serve_follows (request t)
  obtain ⟨k, hk⟩ := Prog.eq_op_of_head? ht
  have done := ok_none (v := v) rfl (tracks.ok hk)
  exact apart.oneRequest done orderly

/-- A schedule: a request of the sample for a steady vibration, up to its activation. -/
def onSchedule (t : Thread) (timeoutMs : UInt32) : List (Label sig Thread Unit Empty) :=
  [.act t .getPATemp (some 7000),
    .act t (.write (.ctrlLoop (sampleVibrator.loopMode timeoutMs .rtp).toUnderlying)) true,
    .act t (.write (.duration timeoutMs)) true, .act t (.write (.mode .rtp)) true,
    .act t (.write (.lraWaveShape 0)) true, .act t (.readOdClamp .steady 0) (107 : UInt32),
    .act t (.write (.odClamp 107)) true, .act t (.readOlLraPeriod .steady) (262 : UInt32),
    .act t (.write (.olLraPeriod 262)) true]

/-- A long vibration on one thread and a short one on the other. -/
def twoVibrations : Thread → Request
  | .main => .on 500 false
  | .pool => .on 30 false

/-- The start of the sample with these requests. -/
abbrev sampleStart : Program.Config sig Thread Reply Shared :=
  service.start sampleVibrator twoVibrations sampleDynamic.start

/-- The short vibration follows the long one from register to register. -/
theorem one_request_overwritten :
    ∃ c, (service sampleVibrator).Run (Orderly sampleVibrator) sampleStart c ∧
      (c.prog .main).head? = some (.write (.activate true)) ∧ OneRequest sampleVibrator c.shared := by
  have h : ((service sampleVibrator).play (Orderly sampleVibrator)
      (((onSchedule .main 500).zip (onSchedule .pool 30)).flatMap fun x => [x.1, x.2])
      sampleStart).map (fun c => ((c.prog .main).head?, c.shared.writers .olLraPeriod)) =
        some (some (.write (.activate true)), [.pool, .main]) := by decide +kernel
  obtain ⟨c, run, hc⟩ := (service sampleVibrator).exists_run h
  simp only [Prod.mk.injEq] at hc
  obtain ⟨activate, last⟩ := hc
  have behind : Thread.pool ∈ c.shared.writers .olLraPeriod := last ▸ List.mem_cons_self
  exact ⟨c, run, activate, one_request sampleVibrator twoVibrations sampleDynamic.start run activate
    fun _ => behind⟩

/-- The long vibration is activated with the duration of the short one. -/
theorem two_requests_mixed :
    ∃ c, (service sampleVibrator).Reach sampleStart c ∧
      (c.prog .main).head? = some (.write (.activate true)) ∧
      ¬OneRequest sampleVibrator c.shared := by
  have h : ((service sampleVibrator).play (fun _ _ => True)
      (onSchedule .main 500 ++ (onSchedule .pool 30).take 3) sampleStart).map (fun c =>
        ((c.prog .main).head?, c.shared.mode, (c.shared.writers .duration).head?,
          (c.shared.writers .mode).head?)) =
        some (some (.write (.activate true)), some .rtp, some .pool, some .main) := by
    decide +kernel
  obtain ⟨c, run, hc⟩ := (service sampleVibrator).exists_run h
  simp only [Prod.mk.injEq] at hc
  obtain ⟨activate, rtp, duration, mode⟩ := hc
  refine ⟨c, run, activate, ?_⟩
  rintro ⟨t, m, hm, heads⟩
  obtain rfl : m = .rtp := Option.some.inj (hm.symm.trans rtp)
  have one := (heads .duration (by decide)).symm.trans duration
  have other := (heads .mode (by decide)).symm.trans mode
  exact nomatch one.symm.trans other

end Redfin.Drv2624
