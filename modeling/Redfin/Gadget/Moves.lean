import Redfin.Gadget.Phases

/-!
# The moves of the gadget service

What one operation does to the shared state, by the phase of the thread that performs it
(`move_of_act`), and the rule that invariants of the service are proved by
(`service_invariant`): an invariant over the shared state and the phases of the two threads is
kept by every move and by every act of the monitor. That at most one thread is in a phase that
holds the lock comes with the rule.
-/

namespace Redfin.Gadget

open Program Function

/-- The move of a thread in a phase: the operation and its result, the state and the phase after
it. -/
inductive Move (t : Fin 2) (s : Shared) : (o : Op) → o.Res → Phase → Shared → Phase → Prop where
  | silent {o r q} :
    (∀ f status, o ≠ .getCurrentUsbFunctionsCb f status) →
    (∀ content, o ≠ .writePullup content) →
    Move t s o r q s q
  | report {f status} :
    Move t s (.getCurrentUsbFunctionsCb f status) () .idle
      { s with reports := ⟨f, status, s.latest⟩ :: s.reports } .idle
  | resetDown {ok} :
    Move t s (.writePullup "none") ok .idle (s.writePullup t "none" ok)
      (if ok then .resetDown else .idle)
  | resetUp {ok} :
    Move t s (.writePullup kGadgetName) ok .resetDown (s.writePullup t kGadgetName ok) .idle
  | lock :
    s.holder = none →
    Move t s .lock () .idle { s with holder := some t, noneReported := false } .locked
  | begin {f} :
    Move t s (.writeFunctions f) () .locked
      { s with
        functions := f
        requests := s.requests + 1
        latest := some { id := s.requests, functions := f } }
      (.begun f)
  | clear {f} :
    Move t s (.writeApplied false) () (.begun f)
      ({ s with applied := false }.record fun p => { p with cleared := true }) (.cleared f)
  | tearFailed {f status down} :
    Move t s .resetGadget (status, down) (.cleared f)
      { s with udc := if down then none else s.udc, window := true } (.failed f)
  | tear {f} :
    Move t s .resetGadget (.success, true) (.cleared f) { s with udc := none, window := true }
      (.torn f)
  | runs {f} :
    Move t s .isMonitorRunning true (.torn f) s (.running f)
  | rests {f} :
    s.monitor = none →
    Move t s .isMonitorRunning false (.torn f) (s.record fun p => { p with tornDown := true })
      (.stopped f)
  | stop {f} :
    Move t s .monitorReset () (.running f)
      ({ s with monitor := none }.record fun p => { p with tornDown := true }) (.stopped f)
  | start {f} :
    f ≠ GadgetFunction.none →
    Move t s .startMonitor () (.stopped f) { s with monitor := s.latest.map (·.id) } (.started f)
  | pullUp {f ok} :
    f ≠ GadgetFunction.none →
    Move t s (.writePullup kGadgetName) ok (.stopped f) (s.writePullup t kGadgetName ok)
      (if ok then .pulled f else .stopped f)
  | apply {f} :
    Move t s (.writeApplied true) () (.pulled f) { s with applied := true } (.pulled f)
  | reportNone :
    Move t s (.setCurrentUsbFunctionsCb GadgetFunction.none .success) ()
      (.stopped GadgetFunction.none)
      { s with noneReported := true } (.stopped GadgetFunction.none)
  | unlock {q} :
    q.CanEnd →
    Move t s .unlock () q { s with holder := none, window := false } .idle

/-- An operation that the phase permits is one of the moves. -/
lemma move_of_act {t : Fin 2} {o : Op} {r : o.Res} {s s' : Shared} {q : Phase} (ok : q.ok o)
    (h : act t o r s = some s') : Move t s o r q s' (q.next o r) := by
  cases o with
  | lock =>
    obtain rfl : q = .idle := ok
    obtain ⟨hn, rfl⟩ := of_enabled h
    exact .lock hn
  | unlock =>
    cases h
    exact .unlock ok
  | writeFunctions f =>
    obtain rfl : q = .locked := ok
    cases h
    exact .begin
  | readFunctions =>
    obtain rfl : q = .idle := ok
    obtain ⟨-, rfl⟩ := of_enabled h
    exact .silent nofun nofun
  | writeApplied b =>
    cases b with
    | true =>
      obtain ⟨f, rfl⟩ := ok
      cases h
      exact .apply
    | false =>
      obtain ⟨f, rfl⟩ := ok
      cases h
      exact .clear
  | readApplied =>
    obtain rfl : q = .idle := ok
    obtain ⟨-, rfl⟩ := of_enabled h
    exact .silent nofun nofun
  | resetGadget =>
    obtain ⟨f, rfl⟩ := ok
    obtain ⟨status, down⟩ := r
    obtain ⟨hd, rfl⟩ := of_enabled h
    by_cases hs : status = .success
    · subst hs
      obtain rfl : down = true := hd rfl
      exact .tear
    · have e : Phase.next (.cleared f) .resetGadget (status, down) = .failed f := if_neg hs
      rw [e]
      exact .tearFailed
  | isMonitorRunning =>
    obtain ⟨f, rfl⟩ := ok
    obtain ⟨hr, rfl⟩ := of_enabled h
    cases r with
    | true => exact .runs
    | false => exact .rests (Option.not_isSome_iff_eq_none.mp (by simp [← hr]))
  | monitorReset =>
    obtain ⟨f, rfl⟩ := ok
    cases h
    exact .stop
  | startMonitor =>
    obtain ⟨f, hf, rfl⟩ := ok
    cases h
    exact .start hf
  | writePullup content =>
    cases h
    obtain ⟨rfl, rfl⟩ | ⟨rfl, rfl | ⟨f, hf, rfl⟩⟩ := ok
    · exact .resetDown
    · exact .resetUp
    · exact .pullUp hf
  | setCurrentUsbFunctionsCb f status =>
    simp only [act, Option.some.injEq] at h
    subst h
    by_cases hn : f = GadgetFunction.none ∧ status = .success
    · obtain ⟨rfl, rfl⟩ := hn
      have hq : q = .stopped GadgetFunction.none := by
        obtain ⟨hs, -⟩ | ⟨-, hq⟩ | ⟨hf, -⟩ := ok
        · exact absurd rfl hs
        · exact hq
        · exact absurd rfl hf
      subst hq
      exact .reportNone
    · rw [if_neg hn]
      exact .silent nofun nofun
  | getCurrentUsbFunctionsCb f status =>
    obtain rfl : q = .idle := ok
    cases h
    exact .report
  | usleep => cases h; exact .silent nofun nofun
  | getVendorFunctions => cases h; exact .silent nofun nofun
  | setVidPid vid pid => cases h; exact .silent nofun nofun
  | addGenericAndroidFunctions f => cases h; exact .silent nofun nofun
  | linkFunction function i => cases h; exact .silent nofun nofun
  | addAdb i => cases h; exact .silent nofun nofun
  | registerFunctionsAppliedCallback => cases h; exact .silent nofun nofun
  | waitForPullUp timeout => cases h; exact .silent nofun nofun

/-! ## The lock and the invariant rule -/

/-- The lock's holder is the thread whose phase holds the lock. -/
def Exclusive (s : Shared) (q : Fin 2 → Phase) : Prop :=
  ∀ t, (q t).holds ↔ s.holder = some t

/-- While one thread holds the lock, no other does. -/
lemma Exclusive.other {s : Shared} {q : Fin 2 → Phase} (h : Exclusive s q) {t u : Fin 2}
    (ht : (q t).holds) (hu : u ≠ t) : ¬(q u).holds := by
  intro hx
  have e : s.holder = some u := (h u).mp hx
  rw [(h t).mp ht] at e
  exact hu (Option.some.inj e).symm

/-- What holds of the phases without the lock, and of the new phase of the thread that has it,
holds of every phase. -/
lemma Exclusive.forall_update {s : Shared} {q : Fin 2 → Phase} (h : Exclusive s q)
    {F : Phase → Prop} {t : Fin 2} {p : Phase} (free : ∀ p, ¬p.holds → F p) (ht : (q t).holds)
    (hp : F p) : ∀ u, F (update q t p u) :=
  (forall_update_iff q fun _ => F).mpr ⟨hp, fun _ hu => free _ (h.other ht hu)⟩

/-- What holds of every thread holds after one of them moves on. -/
lemma forall_update {q : Fin 2 → Phase} {F : Phase → Prop} {t : Fin 2} {p : Phase}
    (h : ∀ u, F (q u)) (hp : F p) : ∀ u, F (update q t p u) :=
  (forall_update_iff q fun _ => F).mpr ⟨hp, fun u _ => h u⟩

/-- A write to the controller leaves the lock alone. -/
@[simp] lemma Shared.holder_writePullup (s : Shared) (t : Fin 2) (content : String) (ok : Bool) :
    (s.writePullup t content ok).holder = s.holder := by
  unfold writePullup
  split_ifs <;> rfl

/-- The monitor leaves the lock alone. -/
@[simp] lemma Shared.holder_monitorAct (n : ℕ) (s : Shared) (e : MonitorEvent) :
    (monitorAct n s e).holder = s.holder := by
  cases e with
  | callback applied => cases applied <;> rfl
  | pullUp => rfl
  | pullDown => rfl

/-- A request ends with the lock in hand. -/
lemma Phase.CanEnd.holds {q : Phase} (h : q.CanEnd) : q.holds := by
  obtain ⟨f, rfl | rfl | rfl | rfl⟩ := h <;> trivial

/-- Any step keeps the lock with at most one request. -/
lemma exclusive_move {s s' : Shared} {q : Fin 2 → Phase} {t : Fin 2} {o : Op} {r : o.Res}
    {p : Phase} (h : Exclusive s q) (mv : Move t s o r (q t) s' p) :
    Exclusive s' (update q t p) := by
  generalize hq : q t = a at mv
  -- most moves keep the holder and whether the phase holds the lock
  have keep {s' : Shared} {p : Phase} (hs : s'.holder = s.holder) (hp : p.holds ↔ a.holds) :
      Exclusive s' (update q t p) := by
    intro u
    rw [hs]
    by_cases hu : u = t
    · subst hu
      rw [update_self, hp, ← hq]
      exact h u
    · rw [update_of_ne hu]
      exact h u
  cases mv with
  | silent => exact keep rfl Iff.rfl
  | report => exact keep rfl Iff.rfl
  | @resetDown ok =>
    refine keep (s.holder_writePullup t _ _) ?_
    cases ok with
    | true => exact Iff.rfl
    | false => exact Iff.rfl
  | resetUp => exact keep (s.holder_writePullup t _ _) Iff.rfl
  | lock hn =>
    intro u
    by_cases hu : u = t
    · subst hu
      rw [update_self]
      exact iff_of_true trivial rfl
    · have hx : ¬(q u).holds := fun x => by simp [(h u).mp x] at hn
      rw [update_of_ne hu]
      exact iff_of_false hx fun e => hu (Option.some.inj e).symm
  | begin => exact keep rfl Iff.rfl
  | clear => exact keep rfl Iff.rfl
  | tearFailed => exact keep rfl Iff.rfl
  | tear => exact keep rfl Iff.rfl
  | runs => exact keep rfl Iff.rfl
  | rests => exact keep rfl Iff.rfl
  | stop => exact keep rfl Iff.rfl
  | start => exact keep rfl Iff.rfl
  | @pullUp f ok =>
    refine keep (s.holder_writePullup t _ _) ?_
    cases ok with
    | true => exact Iff.rfl
    | false => exact Iff.rfl
  | apply => exact keep rfl Iff.rfl
  | reportNone => exact keep rfl Iff.rfl
  | unlock ce =>
    have ht : (q t).holds := hq ▸ ce.holds
    intro u
    by_cases hu : u = t
    · subst hu
      rw [update_self]
      exact iff_of_false id nofun
    · rw [update_of_ne hu]
      exact iff_of_false (h.other ht hu) nofun

/-- The rule for invariants of the service. -/
theorem service_invariant {G : Shared → Label sig (Fin 2) Call MonitorEvent → Prop}
    {I : Shared → (Fin 2 → Phase) → Prop} {functions : UInt64} {applied : Bool}
    {c : Config sig (Fin 2) Unit Shared}
    (init : I { functions, applied } fun _ => .idle)
    (move : ∀ s q t o r s' p, Exclusive s q → I s q → G s (.act t o r) →
      Move t s o r (q t) s' p → I s' (update q t p))
    (env : ∀ s q e n, Exclusive s q → I s q → G s (.env e) → s.monitor = some n →
      I (monitorAct n s e) q)
    (run : service.Run G (service.start functions applied) c) :
    ∃ q, I c.shared q ∧ Exclusive c.shared q := by
  have step (s : Shared) (q : Fin 2 → Phase) (l : Label sig (Fin 2) Call MonitorEvent)
      (s' : Shared) (q' : Fin 2 → Phase) (h : I s q ∧ Exclusive s q) (g : G s l)
      (st : service.PStep (fun _ => protocol) (fun _ _ => .idle) s q l s' q') :
      I s' q' ∧ Exclusive s' q' := by
    cases st with
    | @act t o r _ ok hs =>
      have mv : Move t s o r (q t) s' ((q t).next o r) := move_of_act ok hs
      exact ⟨move s q t o r s' _ h.2 h.1 g mv, exclusive_move h.2 mv⟩
    | go _ hs =>
      cases hs
      exact h
    | env he =>
      obtain ⟨n, hn, rfl⟩ := Option.map_eq_some_iff.mp he
      refine ⟨env s q _ n h.2 h.1 g hn, fun u => ?_⟩
      rw [Shared.holder_monitorAct]
      exact h.2 u
  have start : Exclusive (service.start functions applied).shared fun _ => .idle :=
    fun _ => iff_of_false id nofun
  have tracks : Machine.Tracks (fun _ => protocol) (fun _ _ => .idle)
      (service.start functions applied) fun _ => .idle := fun _ => rfl
  obtain ⟨q, h, -⟩ := run.invariant service_obeys step ⟨init, start⟩ tracks
  exact ⟨q, h⟩

end Redfin.Gadget
