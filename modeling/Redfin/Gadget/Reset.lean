import Redfin.Gadget.Moves

/-!
# Who binds the controller

`reset` writes `none` and, after a sleep, the controller name, and takes no lock. A run is safe if
no other than the request itself binds the controller between the start of a tear-down and its
pull-up, and if the UDC stays unbound after NONE was reported as a success. What `reset` and the
monitor of an earlier request owe to that is a matter of the request lock and of the order of the
calls: `Orderly` says which steps are to wait, and `safe_of_orderly` that every state of a run that
keeps to it is safe.
-/

namespace Redfin.Gadget

open Program Function

/-- No stray pull-up so far, and an unbound UDC after the report of NONE. -/
def Shared.Safe (s : Shared) : Prop := s.stray = false ∧ (s.noneReported → s.udc = none)

/-- The operation reports a request for NONE as a success. -/
def Op.reportsNone : Op → Bool
  | .setCurrentUsbFunctionsCb functions status =>
    decide (functions = GadgetFunction.none ∧ status = .success)
  | _ => false

/-- The schedules that keep `reset` and the monitor apart from the requests. While a thread holds
the request lock, no call of `reset` comes back from its sleep, and the monitor of an earlier
request rests; and no call of `reset` is between its writes when NONE is reported as a success. -/
def Orderly (s : Shared) : Label sig (Fin 2) Call MonitorEvent → Prop
  | .act t o _ =>
    (o = .writePullup kGadgetName → s.holder = none ∨ s.holder = some t) ∧
      (o.reportsNone → s.resets = [])
  | .go _ _ => True
  | .env _ => s.holder ≠ none → ∀ n ∈ s.monitor, s.isLatest n

instance (s : Shared) : (l : Label sig (Fin 2) Call MonitorEvent) → Decidable (Orderly s l)
  | .act t o _ => inferInstanceAs (Decidable
      ((o = .writePullup kGadgetName → s.holder = none ∨ s.holder = some t) ∧
        (o.reportsNone → s.resets = [])))
  | .go _ _ => instDecidableTrue
  | .env _ => inferInstanceAs (Decidable (s.holder ≠ none → ∀ n ∈ s.monitor, s.isLatest n))

/-- The running monitor, if any, is that of an earlier request. -/
def Shared.NotOwn (s : Shared) : Prop := ∀ n ∈ s.monitor, s.isLatest n = false

/-- What the phase of a thread says about the controller. -/
def ResetFits (s : Shared) : Phase → Prop
  | .begun _ | .cleared _ => s.NotOwn
  | .torn _ | .running _ => s.NotOwn ∧ s.window ∧ s.udc = none
  | .stopped _ => s.monitor = none ∧ s.window ∧ s.udc = none
  | _ => True

/-- The invariant behind safety. After the report of NONE no `reset` is between its writes, and the
window of a request is within its time with the lock. -/
structure ResetInv (s : Shared) (q : Fin 2 → Phase) : Prop where
  stray : s.stray = false
  unbound : s.noneReported → s.udc = none
  stopped : s.noneReported → s.monitor = none
  phase : s.noneReported → ∀ t, (q t).holds → q t = .stopped GadgetFunction.none
  apart : s.noneReported → ∀ t, q t ≠ .resetDown
  between : ∀ t, q t = .resetDown → t ∈ s.resets
  served : s.window → s.holder ≠ none
  fresh : ∀ n ∈ s.monitor, n < s.requests
  number : ∀ p ∈ s.latest, p.id < s.requests
  fits : ∀ t, ResetFits s (q t)

/-- Of a thread without the lock nothing is asked. -/
lemma resetFits_of_not_holds {s : Shared} (p : Phase) (h : ¬p.holds) : ResetFits s p := by
  cases p with
  | idle => trivial
  | resetDown => trivial
  | _ => exact absurd trivial h

/-- Unbinding the controller does not disturb any phase. -/
lemma ResetFits.udc {s : Shared} {p : Phase} (h : ResetFits s p) {udc : Option String}
    (hu : udc = none ∨ udc = s.udc) {noneReported : Bool} {resets : List (Fin 2)} :
    ResetFits { s with udc, noneReported, resets } p := by
  have hn (x : s.udc = none) : udc = none := hu.elim id fun e => e.trans x
  cases p with
  | begun f => exact h
  | cleared f => exact h
  | torn f => exact ⟨h.1, h.2.1, hn h.2.2⟩
  | running f => exact ⟨h.1, h.2.1, hn h.2.2⟩
  | stopped f => exact ⟨h.1, h.2.1, hn h.2.2⟩
  | _ => trivial

/-- Nor does binding it outside a window. -/
lemma ResetFits.bind {s : Shared} {p : Phase} (h : ResetFits s p) (own : Bool)
    (hw : s.window = false) : ResetFits (s.bind own) p := by
  have hx (x : s.window = true) : False := by
    rw [hw] at x
    cases x
  cases p with
  | begun f => exact h
  | cleared f => exact h
  | torn f => exact (hx h.2.1).elim
  | running f => exact (hx h.2.1).elim
  | stopped f => exact (hx h.2.1).elim
  | _ => trivial

/-- In a window the latest request's own monitor is running in none of the critical phases. -/
lemma ResetFits.bind_own {s : Shared} {p : Phase} (h : ResetFits s p) {n : ℕ}
    (hm : s.monitor = some n) (hn : s.isLatest n) : ResetFits (s.bind (s.isLatest n)) p := by
  have hx (x : s.NotOwn) : False := by
    rw [x n hm] at hn
    cases hn
  cases p with
  | begun f => exact (hx h).elim
  | cleared f => exact (hx h).elim
  | torn f => exact (hx h.1).elim
  | running f => exact (hx h.1).elim
  | stopped f => exact absurd (hm.symm.trans h.1) nofun
  | _ => trivial

/-- What the phase says depends only on the monitor, the window and the controller. -/
lemma ResetFits.frame {s s' : Shared} {p : Phase} (h : ResetFits s p)
    (hm : s'.monitor = s.monitor) (hw : s'.window = s.window) (hu : s'.udc = s.udc)
    (hl : ∀ n, s'.isLatest n = s.isLatest n) : ResetFits s' p := by
  have hn (x : s.NotOwn) : s'.NotOwn := fun n hn => (hl n).trans (x n (hm ▸ hn))
  cases p with
  | begun f => exact hn h
  | cleared f => exact hn h
  | torn f => exact ⟨hn h.1, hw.trans h.2.1, hu.trans h.2.2⟩
  | running f => exact ⟨hn h.1, hw.trans h.2.1, hu.trans h.2.2⟩
  | stopped f => exact ⟨hm.trans h.1, hw.trans h.2.1, hu.trans h.2.2⟩
  | _ => trivial

/-- A record that keeps the number of the latest request. -/
lemma isLatest_record {s : Shared} {f : Progress → Progress} (hf : ∀ p, (f p).id = p.id) (n : ℕ) :
    (s.record f).isLatest n = s.isLatest n := by
  simp only [Shared.isLatest, Shared.record, Option.any_map, hf]

/-- Nobody but the request that reported NONE holds the lock afterwards. -/
lemma ResetInv.noneReported_eq {s : Shared} {q : Fin 2 → Phase} (h : ResetInv s q) {t : Fin 2}
    (ht : (q t).holds) (hq : q t ≠ .stopped GadgetFunction.none) : s.noneReported = false := by
  by_contra hn
  rw [Bool.not_eq_false] at hn
  exact hq (h.phase hn t ht)

/-- A thread that does not come between the writes of `reset` leaves the others there. -/
lemma ResetInv.between_update {s : Shared} {q : Fin 2 → Phase} {t : Fin 2} {p : Phase}
    (h : ResetInv s q) (np : p ≠ .resetDown) :
    ∀ u, update q t p u = .resetDown → u ∈ s.resets :=
  (forall_update_iff q fun u p => p = .resetDown → u ∈ s.resets).mpr
    ⟨fun e => absurd e np, fun u _ => h.between u⟩

/-- While a thread holds the lock, it is held. -/
lemma Exclusive.holder_ne_none {s : Shared} {q : Fin 2 → Phase} {t : Fin 2} (ex : Exclusive s q)
    (ht : (q t).holds) : s.holder ≠ none := by
  rw [(ex t).mp ht]
  exact Option.some_ne_none t

/-- A move with the lock of a thread that has not reported NONE. -/
lemma ResetInv.locked {s s' : Shared} {q : Fin 2 → Phase} {t : Fin 2} {p : Phase}
    (h : ResetInv s q) (ex : Exclusive s q) (ht : (q t).holds)
    (hq : q t ≠ .stopped GadgetFunction.none) (np : p ≠ .resetDown) (stray : s'.stray = false)
    (hn : s'.noneReported = s.noneReported) (hh : s'.holder = s.holder)
    (hr : s'.resets = s.resets) (fresh : ∀ n ∈ s'.monitor, n < s'.requests)
    (number : ∀ p ∈ s'.latest, p.id < s'.requests) (hp : ResetFits s' p) :
    ResetInv s' (update q t p) := by
  have hs : s'.noneReported = false := hn.trans (h.noneReported_eq ht hq)
  have hx (x : s'.noneReported = true) : False := by
    rw [hs] at x
    cases x
  exact
    { stray
      unbound := fun x => (hx x).elim
      stopped := fun x => (hx x).elim
      phase := fun x => (hx x).elim
      apart := fun x => (hx x).elim
      between := hr ▸ h.between_update np
      served := fun _ => hh ▸ ex.holder_ne_none ht
      fresh
      number
      fits := ex.forall_update resetFits_of_not_holds ht hp }

/-- Recording progress of the latest request keeps its number. -/
lemma ResetInv.number_record {s : Shared} {q : Fin 2 → Phase} (h : ResetInv s q)
    {f : Progress → Progress} (hf : ∀ p, (f p).id = p.id) :
    ∀ p ∈ (s.record f).latest, p.id < s.requests := by
  intro p' hp'
  obtain ⟨p, hp, rfl⟩ := Option.map_eq_some_iff.mp hp'
  rw [hf]
  exact h.number p hp

/-- The second write of `reset`, accepted or not, while no thread holds the lock. -/
lemma ResetInv.bind_reset {s : Shared} {q : Fin 2 → Phase} {t : Fin 2} (h : ResetInv s q)
    (hq : q t = .resetDown) (ok : Bool) (free : s.holder = none) :
    ResetInv (if ok then (s.endReset t).bind false else s.endReset t) (update q t .idle) := by
  have reported : s.noneReported = false := by
    by_contra hr
    exact h.apart (Bool.not_eq_false _ ▸ hr) t hq
  have hx (x : s.noneReported = true) : False := by
    rw [reported] at x
    cases x
  have between : ∀ u, update q t .idle u = .resetDown → u ∈ s.resets.erase t :=
    (forall_update_iff q fun u p => p = .resetDown → u ∈ s.resets.erase t).mpr
      ⟨nofun, fun u hu e => (List.mem_erase_of_ne hu).mpr (h.between u e)⟩
  have fits (u : Fin 2) : ResetFits (s.endReset t) (q u) :=
    (h.fits u).frame rfl rfl rfl fun _ => rfl
  cases ok with
  | false =>
    exact ⟨h.stray, fun x => (hx x).elim, fun x => (hx x).elim, fun x => (hx x).elim,
      fun x => (hx x).elim, between, h.served, h.fresh, h.number, forall_update fits trivial⟩
  | true =>
    -- the lock is free, so no request is in its tear-down
    have hw : s.window = false := by
      by_contra hw
      exact h.served (Bool.not_eq_false _ ▸ hw) free
    refine ⟨?_, fun x => (hx x).elim, fun x => (hx x).elim, fun x => (hx x).elim,
      fun x => (hx x).elim, between, ?_, h.fresh, h.number,
      forall_update (fun u => (fits u).bind false hw) trivial⟩
    · simp [Shared.bind, Shared.endReset, h.stray, hw]
    · simp [Shared.bind, Shared.endReset, hw]

/-- The first write of `reset`, accepted or not. -/
lemma ResetInv.unbind_reset {s : Shared} {q : Fin 2 → Phase} {t : Fin 2} (h : ResetInv s q)
    (ok : Bool) :
    ResetInv
      { s with
        udc := if ok then none else s.udc
        noneReported := false
        resets := if ok then t :: s.resets else s.resets }
      (update q t (if ok then .resetDown else .idle)) := by
  have hu : (if ok then none else s.udc) = none ∨ (if ok then none else s.udc) = s.udc := by
    cases ok with
    | true => exact .inl rfl
    | false => exact .inr rfl
  refine ⟨h.stray, nofun, nofun, nofun, nofun, ?_, h.served, h.fresh, h.number,
    forall_update (fun u => (h.fits u).udc hu) ?_⟩
  · cases ok with
    | true =>
      exact (forall_update_iff q fun u p => p = .resetDown → u ∈ t :: s.resets).mpr
        ⟨fun _ => List.mem_cons_self, fun u _ e => List.mem_cons_of_mem t (h.between u e)⟩
    | false => exact h.between_update nofun
  · cases ok with
    | true => trivial
    | false => trivial

/-- The report of NONE, while no `reset` is between its writes. -/
lemma ResetInv.report_none {s : Shared} {q : Fin 2 → Phase} {t : Fin 2} (h : ResetInv s q)
    (ex : Exclusive s q) (hq : q t = .stopped GadgetFunction.none) (resets : s.resets = []) :
    ResetInv { s with noneReported := true } (update q t (.stopped GadgetFunction.none)) := by
  have ht : (q t).holds := hq ▸ trivial
  obtain ⟨hm, hw, hu⟩ : s.monitor = none ∧ s.window ∧ s.udc = none := by
    have fit := h.fits t
    rw [hq] at fit
    exact fit
  have between := h.between_update (t := t) (p := .stopped GadgetFunction.none) nofun
  refine ⟨h.stray, fun _ => hu, fun _ => hm, fun _ => ?_, fun _ u e => ?_, between, h.served,
    h.fresh, h.number, ex.forall_update resetFits_of_not_holds ht ⟨hm, hw, hu⟩⟩
  · -- the request that reports is the only one with the lock
    exact ex.forall_update (F := fun p => p.holds → p = .stopped GadgetFunction.none)
      (fun p hp x => absurd x hp) ht fun _ => rfl
  · have := between u e
    rw [resets] at this
    cases this

/-- The end of a request. -/
lemma ResetInv.unlock {s : Shared} {q : Fin 2 → Phase} {t : Fin 2} (h : ResetInv s q)
    (ex : Exclusive s q) (ht : (q t).holds) :
    ResetInv { s with holder := none, window := false } (update q t .idle) := by
  refine ⟨h.stray, h.unbound, h.stopped, fun _ => ?_, fun x u e => ?_, h.between_update nofun,
    nofun, h.fresh, h.number, ex.forall_update resetFits_of_not_holds ht trivial⟩
  · exact ex.forall_update (F := fun p => p.holds → p = .stopped GadgetFunction.none)
      (fun p hp x => absurd x hp) ht fun x => x.elim
  · by_cases hu : u = t
    · rw [hu, update_self] at e
      cases e
    · rw [update_of_ne hu] at e
      exact h.apart x u e

/-- An orderly step of a binder thread keeps the invariant. -/
lemma resetInv_move {s s' : Shared} {q : Fin 2 → Phase} {t : Fin 2} {o : Op} {r : o.Res}
    {p : Phase} (ex : Exclusive s q) (h : ResetInv s q) (g : Orderly s (.act t o r))
    (mv : Move t s o r (q t) s' p) : ResetInv s' (update q t p) := by
  have fit := h.fits t
  have held := ex t
  generalize hq : q t = a at mv
  rw [hq] at fit
  cases mv with
  | silent =>
    rw [← hq, update_eq_self]
    exact h
  | report =>
    rw [← hq, update_eq_self]
    exact { h with fits := h.fits }
  | @resetDown ok =>
    rw [Shared.writePullup_none]
    exact h.unbind_reset ok
  | @resetUp ok =>
    have hn : s.holder ≠ some t := fun e => by
      have ht := held.mpr e
      rw [hq] at ht
      exact ht
    -- the guard: `reset` comes back while the lock is free
    have free : s.holder = none := (g.1 rfl).resolve_right hn
    rw [Shared.writePullup_other hn]
    exact h.bind_reset hq ok free
  | lock hn =>
    exact ⟨h.stray, nofun, nofun, nofun, nofun, h.between_update nofun,
      fun _ => Option.some_ne_none t, h.fresh, h.number, forall_update h.fits trivial⟩
  | @begin f =>
    have ht : (q t).holds := hq ▸ trivial
    refine h.locked ex ht (hq ▸ nofun) nofun h.stray rfl rfl rfl ?_ ?_ ?_
    · exact fun n hn => Nat.lt_succ_of_lt (h.fresh n hn)
    · intro p hp
      obtain rfl := Option.some.inj hp
      exact Nat.lt_succ_self _
    · intro n hn
      have := h.fresh n hn
      simp only [Shared.isLatest, Option.any_some, decide_eq_false_iff_not]
      omega
  | @clear f =>
    have ht : (q t).holds := hq ▸ trivial
    refine h.locked ex ht (hq ▸ nofun) nofun h.stray rfl rfl rfl h.fresh
      (h.number_record fun _ => rfl) ?_
    intro n hn
    have e := isLatest_record (s := s) (f := fun p => { p with cleared := true }) (fun _ => rfl) n
    exact e.trans (fit n hn)
  | tearFailed =>
    have ht : (q t).holds := hq ▸ trivial
    exact h.locked ex ht (hq ▸ nofun) nofun h.stray rfl rfl rfl h.fresh h.number trivial
  | tear =>
    have ht : (q t).holds := hq ▸ trivial
    exact h.locked ex ht (hq ▸ nofun) nofun h.stray rfl rfl rfl h.fresh h.number ⟨fit, rfl, rfl⟩
  | runs =>
    have ht : (q t).holds := hq ▸ trivial
    exact h.locked ex ht (hq ▸ nofun) nofun h.stray rfl rfl rfl h.fresh h.number fit
  | @rests f hm =>
    have ht : (q t).holds := hq ▸ trivial
    obtain ⟨-, hw, hu⟩ := fit
    exact h.locked ex ht (hq ▸ nofun) nofun h.stray rfl rfl rfl h.fresh
      (h.number_record fun _ => rfl)
      ⟨hm, hw, hu⟩
  | @stop f =>
    have ht : (q t).holds := hq ▸ trivial
    obtain ⟨-, hw, hu⟩ := fit
    exact h.locked ex ht (hq ▸ nofun) nofun h.stray rfl rfl rfl nofun
      (h.number_record fun _ => rfl) ⟨rfl, hw, hu⟩
  | @start f hf =>
    have ht : (q t).holds := hq ▸ trivial
    have hq' : q t ≠ .stopped GadgetFunction.none := fun e => hf (by simpa [hq] using e)
    refine h.locked ex ht hq' nofun h.stray rfl rfl rfl ?_ h.number trivial
    intro n hn
    obtain ⟨p, hp, rfl⟩ := Option.map_eq_some_iff.mp hn
    exact h.number p hp
  | @pullUp f ok hf =>
    have ht : (q t).holds := hq ▸ trivial
    have hq' : q t ≠ .stopped GadgetFunction.none := fun e => hf (by simpa [hq] using e)
    cases ok with
    | false =>
      rw [Shared.writePullup_failed (held.mp ht)]
      exact h.locked ex ht hq' nofun h.stray rfl rfl rfl h.fresh h.number fit
    | true =>
      rw [Shared.writePullup_own (held.mp ht)]
      refine h.locked ex ht hq' nofun ?_ rfl rfl rfl h.fresh (h.number_record fun _ => rfl) trivial
      simp [Shared.record, Shared.bind, h.stray]
  | apply =>
    have ht : (q t).holds := hq ▸ trivial
    exact h.locked ex ht (hq ▸ nofun) nofun h.stray rfl rfl rfl h.fresh h.number trivial
  | reportNone => exact h.report_none ex hq (g.2 (by decide))
  | unlock ce => exact h.unlock ex (hq ▸ ce.holds)

/-- An orderly step of the monitor keeps the invariant. -/
lemma resetInv_env {s : Shared} {q : Fin 2 → Phase} {e : MonitorEvent} {n : ℕ}
    (h : ResetInv s q) (g : Orderly s (.env e)) (hm : s.monitor = some n) :
    ResetInv (monitorAct n s e) q := by
  -- a monitor runs, so NONE has not been reported
  have hx (x : s.noneReported = true) : False := by
    rw [h.stopped x] at hm
    cases hm
  cases e with
  | callback applied =>
    cases applied with
    | false => exact { h with fits := fun u => (h.fits u).frame rfl rfl rfl (fun _ => rfl) }
    | true =>
      have hi (p : Progress) : (if p.id = n then { p with pulledUp := p.pulledUp || p.tornDown }
          else p).id = p.id := by
        split <;> rfl
      have hl (m : ℕ) : (monitorAct n s (.callback true)).isLatest m = s.isLatest m :=
        isLatest_record (s := { s with applied := true }) hi m
      exact ⟨h.stray, h.unbound, h.stopped, h.phase, h.apart, h.between, h.served, h.fresh,
        h.number_record hi, fun u => (h.fits u).frame rfl rfl rfl hl⟩
  | pullUp =>
    have own (hw : s.window = true) : s.isLatest n = true := g (h.served hw) n hm
    refine ⟨?_, fun x => (hx x).elim, fun x => (hx x).elim, fun x => (hx x).elim,
      fun x => (hx x).elim, h.between, fun hw => h.served (Bool.and_eq_true_iff.mp hw).1, h.fresh,
      h.number, fun u => ?_⟩
    · cases hw : s.window with
      | false => simp [monitorAct, Shared.bind, h.stray, hw]
      | true => simp [monitorAct, Shared.bind, h.stray, own hw]
    · cases hw : s.window with
      | false => exact (h.fits u).bind _ hw
      | true => exact (h.fits u).bind_own hm (own hw)
  | pullDown =>
    exact { h with
      unbound := fun _ => rfl
      fits := fun u => (h.fits u).udc (.inl rfl) }

/-- In a run that keeps to the schedule every state is safe. -/
theorem safe_of_orderly {functions : UInt64} {applied : Bool} {c : Config sig (Fin 2) Unit Shared}
    (run : service.Run Orderly (service.start functions applied) c) : c.shared.Safe := by
  have init : ResetInv { functions, applied } fun _ => .idle :=
    { stray := rfl
      unbound := nofun
      stopped := nofun
      phase := nofun
      apart := nofun
      between := nofun
      served := nofun
      fresh := nofun
      number := nofun
      fits := fun _ => trivial }
  obtain ⟨q, h, -⟩ := service_invariant init
    (fun s q t o r s' p ex h g mv => resetInv_move ex h g mv)
    (fun s q e n _ h g hm => resetInv_env h g hm) run
  exact ⟨h.stray, h.unbound⟩

/-- A call of `reset` begins before a request for RNDIS and comes back after it. -/
theorem safe_reset_around_rndis :
    ∃ c, service.Run Orderly (service.start 0 false) c ∧ c.shared.udc = some kGadgetName ∧
      c.shared.Safe := by
  have h : (service.play Orderly ([.go 1 .reset, .act 1 (.writePullup "none") true,
      .act 1 .usleep ()] ++ rndisSchedule 0 ++ [.act 1 (.writePullup kGadgetName) true])
      (service.start 0 false)).map (fun c => c.shared.udc) = some (some kGadgetName) := by
    decide +kernel
  obtain ⟨c, run, hc⟩ := service.exists_run h
  exact ⟨c, run, hc, safe_of_orderly run⟩

/-- The second write of `reset` between the links of another thread's request, and after a request
for NONE that reported success in between. -/
theorem unsafe_reset_between_links :
    (∃ c, service.Reach (service.start 0 false) c ∧ ¬c.shared.Safe) ∧
      ∃ c, service.Reach (service.start 0 false) c ∧ c.shared.noneReported ∧
        c.shared.udc = some kGadgetName := by
  have between : (service.play (fun _ _ => True) [.go 1 .reset, .act 1 (.writePullup "none") true,
      .act 1 .usleep (), .go 0 (.setCurrentUsbFunctions 33 true 0), .act 0 .lock (),
      .act 0 (.writeFunctions 33) (), .act 0 (.writeApplied false) (),
      .act 0 .resetGadget (.success, true), .act 0 .isMonitorRunning false, .act 0 .usleep (),
      .act 0 .getVendorFunctions "", .act 0 (.setVidPid "0x18d1" "0x4ee4") .success,
      .act 0 (.addGenericAndroidFunctions 33) ⟨.success, false, 1, []⟩,
      .act 1 (.writePullup kGadgetName) true]
      (service.start 0 false)).map (fun c => c.shared.stray) = some true := by decide +kernel
  have after : (service.play (fun _ _ => True) [.go 1 .reset, .act 1 (.writePullup "none") true,
      .act 1 .usleep (), .go 0 (.setCurrentUsbFunctions 0 true 0), .act 0 .lock (),
      .act 0 (.writeFunctions 0) (), .act 0 (.writeApplied false) (),
      .act 0 .resetGadget (.success, true), .act 0 .isMonitorRunning false, .act 0 .usleep (),
      .act 0 (.setCurrentUsbFunctionsCb 0 .success) (), .act 0 .unlock (),
      .act 1 (.writePullup kGadgetName) true]
      (service.start 0 false)).map (fun c => (c.shared.noneReported, c.shared.udc)) =
        some (true, some kGadgetName) := by decide +kernel
  obtain ⟨c, run, hc⟩ := service.exists_run between
  obtain ⟨c', run', hc'⟩ := service.exists_run after
  obtain ⟨reported, bound⟩ := Prod.mk.inj hc'
  exact ⟨⟨c, run, fun hs => Bool.noConfusion (hs.1.symm.trans hc)⟩, c', run', reported, bound⟩

end Redfin.Gadget
