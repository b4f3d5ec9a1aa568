import Redfin.Usb.Locks

/-!
# Who holds which lock

In every state the service reaches, the table of the holders is what the phases of the threads say.
-/

set_option linter.unusedSectionVars false

namespace Redfin.Usb

open Function Program

variable [Libbase]

/-- The table of holders, the join and the pending query are as the phases say. -/
structure LockInv (s : Shared) (q : Thread → Phase) : Prop where
  holds : Holds s.holder Phase.held q
  joining : s.joining = true ↔ q .binder = .joining
  pending : s.pendingQuery = true ↔ (q .worker).hasQuery

namespace Phase

variable {q : Phase} {t : Thread} {m : Mutex}

instance (q : Phase) : Decidable q.hasQuery := instDecidableOr

/-- What taking a lock does to the phase. -/
lemma lock_spec (h : q.mayLock t m) :
    (q.lock m).held = insert m q.held ∧ q ≠ .joining ∧ q.lock m ≠ .joining ∧
      (t = .worker → ((q.lock m).hasQuery ↔ q.hasQuery ∧ m ≠ .mLock)) := by
  cases t with
  | binder =>
    cases m with
    | mLock => obtain rfl | rfl := h <;> decide
    | mRoleSwitchLock =>
      obtain rfl := h
      decide
    | mPartnerLock =>
      obtain rfl := h
      decide
  | worker =>
    cases m with
    | mLock =>
      obtain rfl := h
      decide
    | mRoleSwitchLock => exact h.elim
    | mPartnerLock => obtain rfl | rfl := h <;> decide

/-- What releasing a lock does to the phase. -/
lemma unlock_spec (h : q.ok t (.unlock m)) :
    m ∈ q.held ∧ (q.unlock m).held = q.held.erase m ∧ q ≠ .joining ∧ q.unlock m ≠ .joining ∧
      ((q.unlock m).hasQuery ↔ q.hasQuery) := by
  cases m with
  | mLock => obtain rfl | rfl := h <;> decide
  | mRoleSwitchLock =>
    obtain rfl := h
    decide
  | mPartnerLock =>
    obtain rfl | ⟨b, rfl⟩ := h
    · decide
    · cases b with
      | true => decide
      | false => decide

/-- A phase between calls holds no lock. -/
lemma held_ofQuery (b : Bool) : (ofQuery b).held = ∅ := by
  cases b with
  | true => rfl
  | false => rfl

/-- A phase between calls has the query exactly as it is told. -/
lemma hasQuery_ofQuery (b : Bool) : (ofQuery b).hasQuery ↔ b = true := by
  cases b with
  | true => exact ⟨fun _ => rfl, fun _ => .inl rfl⟩
  | false => exact ⟨nofun, nofun⟩

end Phase

/-- The invariant stays true when nobody takes or gives a lock. -/
lemma SameLocks.lockInv {s s' : Shared} {q : Thread → Phase} (same : SameLocks s s')
    (h : LockInv s q) : LockInv s' q :=
  ⟨same.holder ▸ h.holds, same.joining ▸ h.joining, same.pending ▸ h.pending⟩

/-- The kernel takes and gives no lock. -/
lemma sameLocks_env {s s' : Shared} {e : EnvEvent} (h : env s e = some s') : SameLocks s s' := by
  cases e with
  | uevent packet =>
    cases h
    exact ⟨rfl, rfl, rfl⟩
  | deliverSignal =>
    obtain ⟨-, rfl⟩ := of_enabled h
    exact ⟨rfl, rfl, rfl⟩
  | pullup udc =>
    cases h
    exact ⟨rfl, rfl, rfl⟩

/-- Going on to the next program takes and gives no lock. -/
lemma sameLocks_go {t : Thread} {l : Next} {x : Turn} {s s' : Shared} {p : Hal Next}
    (h : go t l x s = some (p, s')) : SameLocks s s' := by
  cases goes_of_go h with
  | serve call => exact ⟨rfl, rfl, rfl⟩
  | waitAgain portName role id => exact ⟨rfl, rfl, rfl⟩
  | start created => exact ⟨rfl, rfl, rfl⟩
  | loop => exact ⟨rfl, rfl, rfl⟩

/-- An operation on no lock is no change of phase. -/
lemma next_of_not_syncs {q : Phase} {o : Op} {r : o.Res} (ho : o.syncs = false) :
    q.next o r = q := by
  cases o with
  | lock m => cases ho
  | unlock m => cases ho
  | trylock m => cases ho
  | condRelease => cases ho
  | pthreadKill => cases ho
  | pthreadJoin => cases ho
  | recv => cases ho
  | _ => rfl

section

variable {s s' : Shared} {q : Thread → Phase} {p : Phase}

/-- A step of the binder thread has nothing to do with the pending query. -/
lemma LockInv.binder (h : LockInv s q)
    (holds : Holds s'.holder Phase.held (update q .binder p))
    (joining : s'.joining = true ↔ p = .joining) (pending : s'.pendingQuery = s.pendingQuery) :
    LockInv s' (update q .binder p) where
  holds := holds
  joining := joining
  pending := pending ▸ h.pending

/-- A step of the worker has nothing to do with the join. -/
lemma LockInv.worker (h : LockInv s q)
    (holds : Holds s'.holder Phase.held (update q .worker p)) (joining : s'.joining = s.joining)
    (pending : s'.pendingQuery = true ↔ p.hasQuery) : LockInv s' (update q .worker p) where
  holds := holds
  joining := joining ▸ h.joining
  pending := pending

/-- Taking a free lock keeps the invariant. -/
lemma lockInv_lock {t : Thread} {m : Mutex} (h : LockInv s q) (ok : (q t).mayLock t m)
    (free : s.holder m = none) : LockInv (s.acquire t m) (update q t ((q t).lock m)) := by
  obtain ⟨held, joins, joins', query⟩ := Phase.lock_spec ok
  have holds := h.holds.acquire free held
  cases t with
  | binder =>
    refine h.binder holds ?_ (by simp [Shared.acquire])
    exact ⟨fun hj => absurd (h.joining.mp hj) joins, fun hj => absurd hj joins'⟩
  | worker =>
    refine h.worker holds rfl ?_
    rw [query rfl, ← h.pending]
    simp [Shared.acquire]

/-- Giving back a lock keeps the invariant. -/
lemma lockInv_unlock {t : Thread} {m : Mutex} (h : LockInv s q) (ok : (q t).ok t (.unlock m)) :
    LockInv (s.release m) (update q t ((q t).unlock m)) := by
  obtain ⟨held, erased, joins, joins', query⟩ := Phase.unlock_spec ok
  have holds := h.holds.release held erased
  cases t with
  | binder =>
    refine h.binder holds ?_ rfl
    exact ⟨fun hj => absurd (h.joining.mp hj) joins, fun hj => absurd hj joins'⟩
  | worker => exact h.worker holds rfl (h.pending.trans query.symm)

/-- What the operations that do not synchronise the threads preserve. -/
lemma lockInv_frame {t : Thread} {o : Op} {r : o.Res} (h : LockInv s q) (ho : o.syncs = false)
    (st : act t o r s = some s') : LockInv s' (update q t ((q t).next o r)) := by
  rw [next_of_not_syncs ho, update_eq_self]
  exact ((effect_act st).locks ho).lockInv h

/-- What one operation preserves. -/
lemma lockInv_act {t : Thread} {o : Op} {r : o.Res} (h : LockInv s q) (ok : (q t).ok t o)
    (st : act t o r s = some s') : LockInv s' (update q t ((q t).next o r)) := by
  cases o with
  | lock m =>
    obtain ⟨free, rfl⟩ := of_enabled st
    exact lockInv_lock h ok free
  | unlock m =>
    cases st
    exact lockInv_unlock h ok
  | trylock m =>
    obtain ⟨taken, rfl⟩ := of_enabled st
    obtain ⟨rfl, rfl, hq⟩ := ok
    have query := h.pending
    rw [hq] at query
    cases r with
    | true =>
      -- only the worker tries, after the query that the record was for
      have free := of_decide_eq_true taken.symm
      have held : Phase.role.held = insert .mRoleSwitchLock (q .worker).held := by
        rw [hq]
        rfl
      have holds := h.holds.acquire free held
      have quiet : s.pendingQuery = false := by simpa [Phase.hasQuery] using query
      refine h.worker holds rfl ⟨fun hp => ?_, nofun⟩
      simp [Shared.acquire, quiet] at hp
    | false =>
      show LockInv s (update q .worker (q .worker))
      rw [update_eq_self]
      exact h
  | condRelease =>
    cases st
    have hq : q t = .rolePartner := ok
    -- the wait gives up `mPartnerLock` and keeps `mRoleSwitchLock`
    have held : Mutex.mPartnerLock ∈ (q t).held := by
      rw [hq]
      decide
    have erased : Phase.role.held = (q t).held.erase .mPartnerLock := by
      rw [hq]
      decide
    have holds := h.holds.release held erased
    cases t with
    | binder =>
      refine h.binder holds ⟨fun hj => ?_, nofun⟩ rfl
      cases hq.symm.trans (h.joining.mp hj)
    | worker =>
      refine h.worker holds rfl ⟨fun hp => ?_, nofun⟩
      have query := h.pending.mp hp
      rw [hq] at query
      exact absurd query (by decide)
  | pthreadKill =>
    obtain ⟨rfl, hq⟩ := ok
    cases r with
    | true =>
      cases st
      refine h.binder (h.holds.keep (hq ▸ rfl)) ⟨fun _ => rfl, fun _ => rfl⟩ rfl
    | false =>
      obtain ⟨-, rfl⟩ := of_blocked st
      show LockInv s (update q .binder (q .binder))
      rw [update_eq_self]
      exact h
  | pthreadJoin =>
    obtain ⟨-, rfl⟩ := of_blocked st
    obtain ⟨rfl, hq⟩ := ok
    exact h.binder (h.holds.keep (hq ▸ rfl)) ⟨nofun, nofun⟩ rfl
  | recv =>
    obtain ⟨-, rfl⟩ := of_enabled st
    obtain ⟨rfl, hq⟩ := ok
    have held : (Phase.ofQuery (r.any wantsQuery)).held = (q .worker).held :=
      hq ▸ Phase.held_ofQuery _
    exact h.worker (h.holds.keep held) rfl (Phase.hasQuery_ofQuery _).symm
  | _ => exact lockInv_frame h rfl st

end

/-- What a step of the service preserves. -/
lemma lockInv_step {s s' : Shared} {q q' : Thread → Phase} {l : Label sig Thread Turn EnvEvent}
    (h : LockInv s q) (st : service.PStep protocol rest s q l s' q') : LockInv s' q' := by
  cases st with
  | act ok st => exact lockInv_act h ok st
  | go _ st => exact (sameLocks_go st).lockInv h
  | env st => exact (sameLocks_env st).lockInv h

/-- The invariant holds at the start. -/
lemma lockInv_start (udc : Option String) : LockInv { udc } fun _ => .free :=
  ⟨fun _ _ => ⟨nofun, nofun⟩, ⟨nofun, nofun⟩, ⟨nofun, nofun⟩⟩

/-- Both threads are in their first phase at the start. -/
lemma tracks_start (udc : Option String) :
    Machine.Tracks protocol rest (service.start udc) fun _ => .free := by
  intro t
  cases t with
  | binder => exact rfl
  | worker => exact rfl

/-! ## Waiting for a lock -/

/-- The worker holds nothing when it waits for `mLock`, with a query before it, or for
`mPartnerLock`. -/
lemma mayLock_worker {q : Phase} {m : Mutex} (h : q.mayLock .worker m) :
    q.held = ∅ ∧ (m = .mLock → q.hasQuery) ∧ m ≠ .mRoleSwitchLock := by
  cases m with
  | mLock =>
    obtain rfl := h
    decide
  | mRoleSwitchLock => exact h.elim
  | mPartnerLock => obtain rfl | rfl := h <;> decide

/-- A lock the binder thread waits for is none that it or a waiting worker holds. -/
lemma mayLock_binder {q : Phase} {m : Mutex} (h : q.mayLock .binder m) :
    m ∉ q.held ∧ q.held ⊆ {.mRoleSwitchLock} := by
  cases m with
  | mLock => obtain rfl | rfl := h <;> decide
  | mRoleSwitchLock =>
    obtain rfl := h
    decide
  | mPartnerLock =>
    obtain rfl := h
    decide

end Redfin.Usb
