import Redfin.Gadget.Moves

/-!
# What a report of applied functions says

`getCurrentUsbFunctions` reports the mask of the latest request together with a flag that the
request itself or a monitor set. The pair is the truth about the latest request as long as three
things hold: the flag was false when the service began, the monitor of an earlier request does not
invoke the callback with `true` once the latest request has cleared the flag, and a pair with a set
flag is reported only while both fields still hold it and the latest request has cleared the flag
(`reports_justified`). None of the three is ensured by the code.
-/

namespace Redfin.Gadget

open Program Function

/-- A report of applied functions is about the latest request, which has been pulled up since its
tear-down. -/
def Report.Justified (e : Report) : Prop :=
  e.status = .functionsApplied →
    ∃ p, e.latest = some p ∧ p.functions = e.functions ∧ p.tornDown ∧ p.pulledUp

/-- The latest request, if there is one, has cleared the flag. -/
def Shared.Cleared (s : Shared) : Prop := ∀ p ∈ s.latest, p.cleared

instance (s : Shared) : Decidable s.Cleared := s.latest.decidableForallMem

/-- The condition on the steps of a run: no late callback, no torn pair. -/
def Timely (s : Shared) : Label sig (Fin 2) Call MonitorEvent → Prop
  | .env (.callback true) => s.Cleared → ∀ n ∈ s.monitor, s.isLatest n
  | .act _ (.getCurrentUsbFunctionsCb functions .functionsApplied) _ =>
    s.functions = functions ∧ s.applied ∧ s.Cleared
  | _ => True

instance (s : Shared) (l : Label sig (Fin 2) Call MonitorEvent) : Decidable (Timely s l) := by
  unfold Timely
  split <;> infer_instance

/-- What the phase of a thread says about the latest request. -/
def AppliedFits (s : Shared) : Phase → Prop
  | .begun _ => ∃ p, s.latest = some p ∧ p.functions = s.functions
  | .cleared _ | .torn _ | .running _ => ∃ p, s.latest = some p
  | .stopped _ => ∃ p, s.latest = some p ∧ p.tornDown
  | .pulled _ => ∃ p, s.latest = some p ∧ p.tornDown ∧ p.pulledUp
  | _ => True

/-- The invariant behind the reports. -/
structure AppliedInv (s : Shared) (q : Fin 2 → Phase) : Prop where
  functions : ∀ p, s.latest = some p → p.cleared → s.functions = p.functions
  applied : ∀ p, s.latest = some p → p.cleared → s.applied → p.tornDown ∧ p.pulledUp
  before : s.latest = none → s.applied = false ∧ s.monitor = none
  own : ∀ p, s.latest = some p → s.monitor = some p.id → p.tornDown
  fresh : ∀ n, s.monitor = some n → n < s.requests
  number : ∀ p, s.latest = some p → p.id < s.requests
  fits : ∀ t, AppliedFits s (q t)
  reports : ∀ e ∈ s.reports, e.Justified

/-- Of a thread without the lock nothing is asked. -/
lemma appliedFits_of_not_holds {s : Shared} (p : Phase) (h : ¬p.holds) : AppliedFits s p := by
  cases p with
  | idle => trivial
  | resetDown => trivial
  | _ => exact absurd trivial h

/-- What the phase says depends only on the latest request and the functions. -/
lemma AppliedFits.congr {s s' : Shared} {p : Phase} (h : AppliedFits s p)
    (hl : s'.latest = s.latest) (hf : s'.functions = s.functions) : AppliedFits s' p := by
  cases p with
  | begun f =>
    obtain ⟨p, hp, e⟩ := h
    exact ⟨p, hl.trans hp, e.trans hf.symm⟩
  | cleared f => exact h.imp fun _ => hl.trans
  | torn f => exact h.imp fun _ => hl.trans
  | running f => exact h.imp fun _ => hl.trans
  | stopped f => exact h.imp fun _ => And.imp_left hl.trans
  | pulled f => exact h.imp fun _ => And.imp_left hl.trans
  | _ => trivial

/-- A move that leaves the fields of the invariant alone. -/
lemma AppliedInv.frame {s s' : Shared} {q : Fin 2 → Phase} {t : Fin 2} {p : Phase}
    (h : AppliedInv s q) (hp : AppliedFits s' p) (hl : s'.latest = s.latest)
    (hf : s'.functions = s.functions) (ha : s'.applied = s.applied) (hm : s'.monitor = s.monitor)
    (hn : s'.requests = s.requests) (hr : s'.reports = s.reports) :
    AppliedInv s' (update q t p) where
  functions := by
    rw [hl, hf]
    exact h.functions
  applied := by
    rw [hl, ha]
    exact h.applied
  before := by
    rw [hl, ha, hm]
    exact h.before
  own := by
    rw [hl, hm]
    exact h.own
  fresh := by
    rw [hm, hn]
    exact h.fresh
  number := by
    rw [hl, hn]
    exact h.number
  fits := forall_update (fun u => (h.fits u).congr hl hf) hp
  reports := by
    rw [hr]
    exact h.reports

/-- What is written down of the latest request: nothing is taken back. -/
structure Progress.Extends (f : Progress → Progress) : Prop where
  id : ∀ p, (f p).id = p.id
  functions : ∀ p, (f p).functions = p.functions
  cleared : ∀ p, (f p).cleared = p.cleared
  tornDown : ∀ p, p.tornDown → (f p).tornDown
  pulledUp : ∀ p, p.pulledUp → (f p).pulledUp

/-- Noting a tear-down takes nothing back. -/
lemma extends_tornDown : Progress.Extends fun p => { p with tornDown := true } where
  id _ := rfl
  functions _ := rfl
  cleared _ := rfl
  tornDown _ _ := rfl
  pulledUp _ h := h

/-- Noting a pull-up takes nothing back. -/
lemma extends_pulledUp (b : Progress → Prop) [DecidablePred b] :
    Progress.Extends fun p =>
      if b p then { p with pulledUp := p.pulledUp || p.tornDown } else p where
  id p := by split <;> rfl
  functions p := by split <;> rfl
  cleared p := by split <;> rfl
  tornDown p h := by split <;> exact h
  pulledUp p h := by
    split
    · simp [h]
    · exact h

/-- What the phase says stays true when more is written down. -/
lemma AppliedFits.record {s : Shared} {p : Phase} {f : Progress → Progress}
    (h : AppliedFits s p) (hf : Progress.Extends f) : AppliedFits (s.record f) p := by
  cases p with
  | begun g =>
    obtain ⟨p, hp, e⟩ := h
    exact ⟨f p, congrArg (Option.map f) hp, (hf.functions p).trans e⟩
  | cleared g =>
    obtain ⟨p, hp⟩ := h
    exact ⟨f p, congrArg (Option.map f) hp⟩
  | torn g =>
    obtain ⟨p, hp⟩ := h
    exact ⟨f p, congrArg (Option.map f) hp⟩
  | running g =>
    obtain ⟨p, hp⟩ := h
    exact ⟨f p, congrArg (Option.map f) hp⟩
  | stopped g =>
    obtain ⟨p, hp, hd⟩ := h
    exact ⟨f p, congrArg (Option.map f) hp, hf.tornDown p hd⟩
  | pulled g =>
    obtain ⟨p, hp, hd, hu⟩ := h
    exact ⟨f p, congrArg (Option.map f) hp, hf.tornDown p hd, hf.pulledUp p hu⟩
  | _ => trivial

/-- A step that writes down more of the latest request and may touch the flag. -/
lemma AppliedInv.advance {s s' : Shared} {q q' : Fin 2 → Phase} {f : Progress → Progress}
    (h : AppliedInv s q) (hf : Progress.Extends f) (hl : s'.latest = s.latest.map f)
    (hc : s'.functions = s.functions) (hm : s'.monitor = s.monitor)
    (hn : s'.requests = s.requests) (hr : s'.reports = s.reports)
    (before : s.latest = none → s'.applied = false)
    (applied : ∀ p, s.latest = some p → p.cleared → s'.applied → (f p).tornDown ∧ (f p).pulledUp)
    (fits : ∀ u, AppliedFits s' (q' u)) : AppliedInv s' q' where
  functions p' hp' := by
    rw [hl] at hp'
    obtain ⟨p, hp, rfl⟩ := Option.map_eq_some_iff.mp hp'
    rw [hc, hf.cleared, hf.functions]
    exact h.functions p hp
  applied p' hp' := by
    rw [hl] at hp'
    obtain ⟨p, hp, rfl⟩ := Option.map_eq_some_iff.mp hp'
    rw [hf.cleared]
    exact applied p hp
  before hp' := by
    rw [hl] at hp'
    have hp := Option.map_eq_none_iff.mp hp'
    rw [hm]
    exact ⟨before hp, (h.before hp).2⟩
  own p' hp' := by
    rw [hl] at hp'
    obtain ⟨p, hp, rfl⟩ := Option.map_eq_some_iff.mp hp'
    rw [hf.id, hm]
    exact fun e => hf.tornDown p (h.own p hp e)
  fresh := by
    rw [hm, hn]
    exact h.fresh
  number p' hp' := by
    rw [hl] at hp'
    obtain ⟨p, hp, rfl⟩ := Option.map_eq_some_iff.mp hp'
    rw [hf.id, hn]
    exact h.number p hp
  fits := fits
  reports := by
    rw [hr]
    exact h.reports

/-- The invariant stays true when more is written down of the latest request. -/
lemma AppliedInv.record {s : Shared} {q q' : Fin 2 → Phase} {f : Progress → Progress}
    (h : AppliedInv s q) (hf : Progress.Extends f)
    (fits : ∀ u, AppliedFits (s.record f) (q' u)) : AppliedInv (s.record f) q' := by
  refine h.advance hf rfl rfl rfl rfl rfl (fun hl => (h.before hl).1) ?_ fits
  intro p hp hc ha
  obtain ⟨hd, hu⟩ := h.applied p hp hc ha
  exact ⟨hf.tornDown p hd, hf.pulledUp p hu⟩

/-- The other thread is outside the lock, so only the phase of this one says something. -/
lemma Exclusive.appliedFits {s s' : Shared} {q : Fin 2 → Phase} {t : Fin 2} {p : Phase}
    (ex : Exclusive s q) (ht : (q t).holds) (hp : AppliedFits s' p) :
    ∀ u, AppliedFits s' (update q t p u) :=
  ex.forall_update appliedFits_of_not_holds ht hp

/-- The pair that the guard lets out is still in the two fields, so the invariant speaks of it. -/
lemma AppliedInv.report {s : Shared} {q : Fin 2 → Phase} {f : UInt64} {status : Status}
    {t : Fin 2} (h : AppliedInv s q)
    (g : Timely s (.act t (.getCurrentUsbFunctionsCb f status) ())) :
    Report.Justified ⟨f, status, s.latest⟩ := by
  intro hs
  obtain rfl : status = .functionsApplied := hs
  obtain ⟨hf, ha, hc⟩ := g
  cases hl : s.latest with
  | none =>
    rw [(h.before hl).1] at ha
    cases ha
  | some p =>
    have hp := h.functions p hl (hc p hl)
    exact ⟨p, rfl, hp.symm.trans hf, h.applied p hl (hc p hl) ha⟩

/-- The next request has not cleared the flag, and no monitor is its own. -/
lemma AppliedInv.begin {s : Shared} {q q' : Fin 2 → Phase} {f : UInt64} (h : AppliedInv s q)
    (fits : ∀ u, AppliedFits { s with
      functions := f
      requests := s.requests + 1
      latest := some { id := s.requests, functions := f } } (q' u)) :
    AppliedInv { s with
      functions := f
      requests := s.requests + 1
      latest := some { id := s.requests, functions := f } } q' where
  functions p hp hc := by
    obtain rfl := Option.some.inj hp
    cases hc
  applied p hp hc := by
    obtain rfl := Option.some.inj hp
    cases hc
  before := nofun
  own p hp hm := by
    obtain rfl := Option.some.inj hp
    exact absurd (h.fresh _ hm) (Nat.lt_irrefl _)
  fresh n hn := Nat.lt_succ_of_lt (h.fresh n hn)
  number p hp := by
    obtain rfl := Option.some.inj hp
    exact Nat.lt_succ_self _
  fits := fits
  reports := h.reports

/-- A request that has cleared the flag has the mask it wrote before. -/
lemma AppliedInv.clear {s : Shared} {q q' : Fin 2 → Phase} {p₀ : Progress} (h : AppliedInv s q)
    (hp₀ : s.latest = some p₀) (hf : p₀.functions = s.functions)
    (fits : ∀ u, AppliedFits
      ({ s with applied := false }.record fun p => { p with cleared := true }) (q' u)) :
    AppliedInv ({ s with applied := false }.record fun p => { p with cleared := true }) q' := by
  have hl : ({ s with applied := false }.record fun p => { p with cleared := true }).latest =
      some { p₀ with cleared := true } := congrArg (Option.map _) hp₀
  refine ⟨?_, fun p _ _ ha => absurd ha nofun, ?_, ?_, h.fresh, ?_, fits, h.reports⟩
  · intro p hp _
    obtain rfl := Option.some.inj (hl.symm.trans hp)
    exact hf.symm
  · intro hn
    cases hl.symm.trans hn
  · intro p hp hm
    obtain rfl := Option.some.inj (hl.symm.trans hp)
    exact h.own p₀ hp₀ hm
  · intro p hp
    obtain rfl := Option.some.inj (hl.symm.trans hp)
    exact h.number p₀ hp₀

/-- The monitor that a request starts is its own, and its tear-down is over. -/
lemma AppliedInv.start {s : Shared} {q q' : Fin 2 → Phase} {p₀ : Progress} (h : AppliedInv s q)
    (hp₀ : s.latest = some p₀) (hd : p₀.tornDown)
    (fits : ∀ u, AppliedFits { s with monitor := s.latest.map (·.id) } (q' u)) :
    AppliedInv { s with monitor := s.latest.map (·.id) } q' := by
  have hm : s.latest.map Progress.id = some p₀.id := congrArg (Option.map _) hp₀
  refine { h with
    before := ?_
    own := ?_
    fresh := ?_
    fits := fits }
  · intro hl
    cases hp₀.symm.trans hl
  · intro p hp _
    obtain rfl := Option.some.inj (hp₀.symm.trans hp)
    exact hd
  · intro n hn
    obtain rfl := Option.some.inj (hm.symm.trans hn)
    exact h.number p₀ hp₀

/-- The flag is set by a request that has been torn down and pulled up. -/
lemma AppliedInv.apply {s : Shared} {q q' : Fin 2 → Phase} {p₀ : Progress} (h : AppliedInv s q)
    (hp₀ : s.latest = some p₀) (hd : p₀.tornDown) (hu : p₀.pulledUp)
    (fits : ∀ u, AppliedFits { s with applied := true } (q' u)) :
    AppliedInv { s with applied := true } q' := by
  refine { h with
    applied := ?_
    before := ?_
    fits := fits }
  · intro p hp _ _
    obtain rfl := Option.some.inj (hp₀.symm.trans hp)
    exact ⟨hd, hu⟩
  · intro hl
    cases hp₀.symm.trans hl

/-- A timely step of a binder thread keeps the invariant. -/
lemma appliedInv_move {s s' : Shared} {q : Fin 2 → Phase} {t : Fin 2} {o : Op} {r : o.Res}
    {p : Phase} (ex : Exclusive s q) (h : AppliedInv s q) (g : Timely s (.act t o r))
    (mv : Move t s o r (q t) s' p) : AppliedInv s' (update q t p) := by
  have fit := h.fits t
  have held := ex t
  generalize hq : q t = a at mv
  rw [hq] at fit
  cases mv with
  | silent => exact h.frame fit rfl rfl rfl rfl rfl rfl
  | report =>
    have hs : AppliedInv s (update q t .idle) := h.frame trivial rfl rfl rfl rfl rfl rfl
    exact { hs with
      fits := hs.fits
      reports := List.forall_mem_cons.mpr ⟨h.report g, h.reports⟩ }
  | @resetDown ok =>
    rw [Shared.writePullup_none]
    refine h.frame ?_ rfl rfl rfl rfl rfl rfl
    cases ok with
    | true => trivial
    | false => trivial
  | @resetUp ok =>
    -- `reset` holds no lock, so this is not the pull-up of the latest request
    have hn : s.holder ≠ some t := fun e => by
      have := held.mpr e
      rw [hq] at this
      exact this
    rw [Shared.writePullup_other hn]
    cases ok with
    | true => exact h.frame trivial rfl rfl rfl rfl rfl rfl
    | false => exact h.frame trivial rfl rfl rfl rfl rfl rfl
  | lock => exact h.frame trivial rfl rfl rfl rfl rfl rfl
  | begin =>
    have ht : (q t).holds := hq ▸ trivial
    exact h.begin (ex.appliedFits ht ⟨_, rfl, rfl⟩)
  | clear =>
    have ht : (q t).holds := hq ▸ trivial
    obtain ⟨p₀, hp₀, hf⟩ := fit
    exact h.clear hp₀ hf (ex.appliedFits ht ⟨_, congrArg (Option.map _) hp₀⟩)
  | tearFailed => exact h.frame trivial rfl rfl rfl rfl rfl rfl
  | tear => exact h.frame fit rfl rfl rfl rfl rfl rfl
  | runs => exact h.frame fit rfl rfl rfl rfl rfl rfl
  | rests =>
    have ht : (q t).holds := hq ▸ trivial
    obtain ⟨p₀, hp₀⟩ := fit
    exact h.record extends_tornDown
      (ex.appliedFits ht ⟨_, congrArg (Option.map _) hp₀, rfl⟩)
  | stop =>
    have ht : (q t).holds := hq ▸ trivial
    obtain ⟨p₀, hp₀⟩ := fit
    have h' : AppliedInv { s with monitor := none } q :=
      { h with
        before := fun hl => ⟨(h.before hl).1, rfl⟩
        own := fun _ _ hm => absurd hm nofun
        fresh := nofun
        fits := fun u => (h.fits u).congr rfl rfl }
    exact h'.record extends_tornDown
      (ex.appliedFits ht ⟨_, congrArg (Option.map _) hp₀, rfl⟩)
  | start =>
    have ht : (q t).holds := hq ▸ trivial
    obtain ⟨p₀, hp₀, hd⟩ := fit
    exact h.start hp₀ hd (ex.appliedFits ht trivial)
  | @pullUp f ok =>
    have ht : (q t).holds := hq ▸ trivial
    obtain ⟨p₀, hp₀, hd⟩ := fit
    cases ok with
    | false =>
      rw [Shared.writePullup_failed (held.mp ht)]
      exact h.frame ⟨p₀, hp₀, hd⟩ rfl rfl rfl rfl rfl rfl
    | true =>
      rw [Shared.writePullup_own (held.mp ht)]
      have h' : AppliedInv (s.bind true) q :=
        { h with fits := fun u => (h.fits u).congr rfl rfl }
      have hu : (p₀.pulledUp || p₀.tornDown) = true := by simp [hd]
      exact h'.record (extends_pulledUp fun _ => True)
        (ex.appliedFits ht ⟨_, congrArg (Option.map _) hp₀, hd, hu⟩)
  | apply =>
    have ht : (q t).holds := hq ▸ trivial
    obtain ⟨p₀, hp₀, hd, hu⟩ := fit
    exact h.apply hp₀ hd hu (ex.appliedFits ht ⟨p₀, hp₀, hd, hu⟩)
  | reportNone => exact h.frame fit rfl rfl rfl rfl rfl rfl
  | unlock => exact h.frame trivial rfl rfl rfl rfl rfl rfl

/-- A timely step of the monitor keeps the invariant. -/
lemma appliedInv_env {s : Shared} {q : Fin 2 → Phase} {e : MonitorEvent} {n : ℕ}
    (h : AppliedInv s q) (g : Timely s (.env e)) (hm : s.monitor = some n) :
    AppliedInv (monitorAct n s e) q := by
  cases e with
  | pullUp => exact { h with fits := fun u => (h.fits u).congr rfl rfl }
  | pullDown => exact { h with fits := fun u => (h.fits u).congr rfl rfl }
  | callback applied =>
    have hs (hl : s.latest = none) : False := by
      rw [(h.before hl).2] at hm
      cases hm
    cases applied with
    | false =>
      exact { h with
        applied := fun _ _ _ ha => absurd ha nofun
        before := fun hl => (hs hl).elim
        fits := fun u => (h.fits u).congr rfl rfl }
    | true =>
      have hf := extends_pulledUp fun p => p.id = n
      refine h.advance hf rfl rfl rfl rfl rfl (fun hl => (hs hl).elim) ?_
        fun u => ((h.fits u).congr rfl rfl).record hf
      intro p hp hc _
      -- the guard: the monitor is the latest request's own, whose tear-down is over
      have hn : p.id = n := by
        have cleared : s.Cleared := fun p' hp' => Option.some.inj (hp.symm.trans hp') ▸ hc
        simpa only [Shared.isLatest, hp, Option.any_some, decide_eq_true_eq] using g cleared n hm
      have hd := h.own p hp (hn ▸ hm)
      simp [hn, hd]

/-- In a run without late callbacks and torn pairs that starts with the flag down, every report of
applied functions is about the latest request, pulled up since its tear-down. -/
theorem reports_justified {functions : UInt64} {c : Config sig (Fin 2) Unit Shared}
    (run : service.Run Timely (service.start functions false) c) :
    ∀ e ∈ c.shared.reports, e.Justified := by
  have init : AppliedInv { functions, applied := false } fun _ => .idle :=
    { functions := nofun
      applied := nofun
      before := fun _ => ⟨rfl, rfl⟩
      own := nofun
      fresh := nofun
      number := nofun
      fits := fun _ => trivial
      reports := nofun }
  obtain ⟨q, h, -⟩ := service_invariant init
    (fun s q t o r s' p ex h g mv => appliedInv_move ex h g mv)
    (fun s q e n _ h g hm => appliedInv_env h g hm) run
  exact h.reports

/-- A request for RNDIS is pulled up by the binder thread and reported with its success. -/
theorem reports_justified_rndis :
    ∃ c, service.Run Timely (service.start 0 false) c ∧ c.shared.reports.length = 1 ∧
      ∀ e ∈ c.shared.reports, e.Justified := by
  have h : (service.play Timely (rndisSchedule 0 ++ getSchedule 1 32 true)
      (service.start 0 false)).map (fun c => c.shared.reports.length) = some 1 := by decide +kernel
  obtain ⟨c, run, hc⟩ := service.exists_run h
  exact ⟨c, run, hc, reports_justified run⟩

/-- A pair read between the two writes of the next request: its mask with the flag of the last. -/
theorem unjustified_report :
    ∃ c, service.Reach (service.start 0 false) c ∧ ∃ e ∈ c.shared.reports, ¬e.Justified := by
  have h : (service.play (fun _ _ => True)
      (rndisSchedule 0 ++ [.go 0 (.setCurrentUsbFunctions GadgetFunction.midi true 0),
        .act 0 .lock (), .act 0 (.writeFunctions GadgetFunction.midi) ()] ++ getSchedule 1 8 true)
      (service.start 0 false)).map (fun c => c.shared.reports) =
        some [⟨8, .functionsApplied, some { id := 1, functions := 8 }⟩] := by decide +kernel
  obtain ⟨c, run, hc⟩ := service.exists_run h
  refine ⟨c, run, _, hc ▸ List.mem_singleton_self _, fun hj => ?_⟩
  obtain ⟨p, hp, -, hd, -⟩ := hj rfl
  obtain rfl := Option.some.inj hp
  cases hd

end Redfin.Gadget
