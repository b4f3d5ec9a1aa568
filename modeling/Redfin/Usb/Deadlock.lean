import Redfin.Usb.LockInvariant

/-!
# Waiting in a circle

`setCallback(NULL)` joins the worker while it holds `mLock`, which the worker takes for the query
of a message. If the worker has received such a message and not yet taken the lock when it is
killed, or receives one while it is being joined, the two threads wait for each other. Where that
is avoided, no threads wait in a circle (`not_deadlocked`).
-/

set_option linter.unusedSectionVars false

namespace Redfin.Usb

open Function Program

section

variable [Libbase]

/-- The thread `t` waits for `u`: for a lock that `u` holds, or for its end. -/
def Waits (c : Config sig Thread Next Shared) (t u : Thread) : Prop :=
  (∃ m, (c.prog t).head? = some (.lock m) ∧ c.shared.holder m = some u) ∨
    (c.prog t).head? = some .pthreadJoin ∧ u = .worker ∧ c.shared.running = true

/-- Threads wait in a circle. -/
def Deadlocked (c : Config sig Thread Next Shared) : Prop := Circular (Waits c)

/-- The condition on the steps of a run: the worker is not killed with a query before it, and gets
no message to query for while it is joined. -/
def JoinSafe (s : Shared) : Label sig Thread Turn EnvEvent → Prop
  | .act _ .pthreadKill true => s.pendingQuery = false
  | .act _ .recv (some msg) => s.joining = true → wantsQuery msg = false
  | _ => True

instance (s : Shared) (l : Label sig Thread Turn EnvEvent) : Decidable (JoinSafe s l) := by
  unfold JoinSafe
  split <;> infer_instance

/-! ## No circle -/

/-- The worker is not joined with a query before it. -/
def Apart (s : Shared) : Prop := s.joining = true → s.pendingQuery = false

/-- It stays so when nobody takes or gives a lock. -/
lemma SameLocks.apart {s s' : Shared} (same : SameLocks s s') (a : Apart s) : Apart s' := by
  intro hj
  rw [same.pending]
  exact a (same.joining ▸ hj)

/-- It stays so when a lock is taken. -/
lemma apart_acquire {s : Shared} (t : Thread) (m : Mutex) (a : Apart s) :
    Apart (s.acquire t m) := by
  intro hj
  show (s.pendingQuery && _) = false
  rw [a hj, Bool.false_and]

/-- The guard is needed where the join begins and where a message arrives during it. -/
lemma apart_step {s s' : Shared} {q q' : Thread → Phase} {l : Label sig Thread Turn EnvEvent}
    (a : Apart s) (g : JoinSafe s l) (st : service.PStep protocol rest s q l s' q') :
    Apart s' := by
  cases st with
  | @act t o r s' ok st =>
    have st : act t o r s = some s' := st
    cases o with
    | lock m =>
      obtain ⟨-, rfl⟩ := of_enabled st
      exact apart_acquire t m a
    | unlock m =>
      cases st
      exact a
    | trylock m =>
      obtain ⟨-, rfl⟩ := of_enabled st
      cases r with
      | true => exact apart_acquire t m a
      | false => exact a
    | condRelease =>
      cases st
      exact a
    | pthreadKill =>
      cases r with
      | true =>
        cases st
        exact fun _ => g
      | false =>
        obtain ⟨-, rfl⟩ := of_blocked st
        exact a
    | pthreadJoin =>
      obtain ⟨-, rfl⟩ := of_blocked st
      exact nofun
    | recv =>
      obtain ⟨-, rfl⟩ := of_enabled st
      cases r with
      | none => exact fun _ => rfl
      | some msg => exact g
    | _ => exact ((effect_act st).locks rfl).apart a
  | go _ st => exact (sameLocks_go st).apart a
  | env st => exact (sameLocks_env st).apart a

/-- No thread that is waited for waits itself. -/
lemma not_waits_of_waits {c : Config sig Thread Next Shared} {q : Thread → Phase}
    (h : LockInv c.shared q) (a : Apart c.shared) (tr : Machine.Tracks protocol rest c q)
    {t u v : Thread} (tu : Waits c t u) : ¬Waits c u v := by
  have mayLock {t m} (e : (c.prog t).head? = some (.lock m)) : (q t).mayLock t m := by
    obtain ⟨k, e⟩ := Prog.eq_op_of_head? e
    exact tr.ok e
  have joins {t} (e : (c.prog t).head? = some .pthreadJoin) : t = .binder ∧ q t = .joining := by
    obtain ⟨k, e⟩ := Prog.eq_op_of_head? e
    exact tr.ok e
  have apart (hj : q .binder = .joining) (hq : (q .worker).hasQuery) : False := by
    have pending := a (h.joining.mpr hj)
    rw [h.pending.mpr hq] at pending
    cases pending
  have held_joining (hj : q .binder = .joining) {m} (hm : m ∈ (q .binder).held) : m = .mLock := by
    rw [hj] at hm
    exact Finset.mem_singleton.mp hm
  intro uv
  cases u with
  | binder =>
    obtain ⟨m, ht, hm⟩ | ⟨-, hu, -⟩ := tu
    · have mem := (h.holds m .binder).mp hm
      cases t with
      | binder =>
        obtain ⟨hn, -⟩ := mayLock_binder (mayLock ht)
        exact hn mem
      | worker =>
        -- the binder thread waits with `mRoleSwitchLock` at most, or joins with `mLock`
        obtain ⟨-, query, hm'⟩ := mayLock_worker (mayLock ht)
        obtain ⟨m', hb, -⟩ | ⟨hb, -, -⟩ := uv
        · obtain ⟨-, hs⟩ := mayLock_binder (mayLock hb)
          exact hm' (Finset.mem_singleton.mp (hs mem))
        · obtain ⟨-, hj⟩ := joins hb
          exact apart hj (query (held_joining hj mem))
    · cases hu
  | worker =>
    obtain ⟨m, hw, hm⟩ | ⟨hw, -, -⟩ := uv
    · obtain ⟨held, query, -⟩ := mayLock_worker (mayLock hw)
      -- a worker that waits holds nothing, so it can only be joined
      have empty {m} (hm : m ∈ (q .worker).held) : False := by
        rw [held] at hm
        exact Finset.notMem_empty m hm
      obtain ⟨m', -, hm'⟩ | ⟨ht, -, -⟩ := tu
      · exact empty ((h.holds m' .worker).mp hm')
      · obtain ⟨rfl, hj⟩ := joins ht
        have mem := (h.holds m v).mp hm
        cases v with
        | binder => exact apart hj (query (held_joining hj mem))
        | worker => exact empty mem
    · obtain ⟨hw, -⟩ := joins hw
      cases hw

/-- In a run in which the worker never has a query before it while it is joined, no threads wait in
a circle. -/
theorem not_deadlocked {udc : Option String} {c : Config sig Thread Next Shared}
    (run : service.Run JoinSafe (service.start udc) c) : ¬Deadlocked c := by
  have init : LockInv { udc } (fun _ => .free) ∧ Apart { udc } := ⟨lockInv_start udc, nofun⟩
  obtain ⟨q, ⟨h, a⟩, tr⟩ := run.invariant (I := fun s q => LockInv s q ∧ Apart s) service_obeys
    (fun s q l s' q' h g st => ⟨lockInv_step h.1 st, apart_step h.2 g st⟩) init (tracks_start udc)
  exact not_circular fun t u v tu => not_waits_of_waits h a tr tu

/-- A schedule: the framework sets a callback, and the worker comes to wait for packets. -/
def watchSchedule : List (Label sig Thread Turn EnvEvent) :=
  [.go .binder (.serve (.setCallback true)), .act .binder (.lock .mLock) (),
    .act .binder .readCallback false, .act .binder (.writeCallback true) (),
    .act .binder (.writeDestroyThread false) (), .act .binder .signal (),
    .act .binder .pthreadCreate true, .act .binder (.unlock .mLock) (),
    .go .worker .start, .act .worker .openSocket true, .act .worker .epollCreate true,
    .act .worker .epollCtl true, .go .worker .loop, .act .worker .readDestroyThread false,
    .act .worker .epollEnter ()]

/-- A schedule: the callback is cleared up to the join of the worker. -/
def clearSchedule : List (Label sig Thread Turn EnvEvent) :=
  [.go .binder (.serve (.setCallback false)), .act .binder (.lock .mLock) (),
    .act .binder .readCallback true, .act .binder (.writeCallback false) (),
    .act .binder .pthreadKill true]

end

open Libbase.Documented in
/-- The callback is cleared, the worker is joined, and nobody is blocked. -/
theorem not_deadlocked_after_clear :
    ∃ c, service.Run JoinSafe (service.start none) c ∧ c.shared.joining = false ∧
      c.shared.running = false ∧ c.shared.destroyThread = true ∧ ¬Deadlocked c := by
  have h : (service.play JoinSafe (watchSchedule ++ clearSchedule ++ [.env .deliverSignal,
      .act .worker .epollReturn .interrupted, .go .worker .loop,
      .act .worker .readDestroyThread true, .act .worker .close (), .act .worker .pthreadExit (),
      .act .binder .pthreadJoin (), .act .binder (.unlock .mLock) ()]) (service.start none)).map
      (fun c => (c.shared.joining, c.shared.running, c.shared.destroyThread)) =
        some (false, false, true) := by decide +kernel
  obtain ⟨c, run, hc⟩ := service.exists_run h
  simp only [Prod.mk.injEq] at hc
  exact ⟨c, run, hc.1, hc.2.1, hc.2.2, not_deadlocked run⟩

open Libbase.Documented in
/-- The worker has received a change of a port when its thread is joined under `mLock`. -/
theorem deadlocked_in_clear : ∃ c, service.Reach (service.start none) c ∧ Deadlocked c := by
  have h : (service.play (fun _ _ => True) (watchSchedule ++
      [.env (.uevent (some "change@/port0\x00DEVTYPE=typec_port\x00".toList)),
        .act .worker .epollReturn .ready,
        .act .worker .recv (some "change@/port0\x00DEVTYPE=typec_port\x00".toList)] ++
      clearSchedule) (service.start none)).map (fun c => ((c.prog .binder).head?,
        (c.prog .worker).head?, c.shared.holder .mLock, c.shared.running)) =
          some (some .pthreadJoin, some (.lock .mLock), some .binder, true) := by decide +kernel
  obtain ⟨c, run, hc⟩ := service.exists_run h
  simp only [Prod.mk.injEq] at hc
  obtain ⟨join, lock, holder, running⟩ := hc
  exact ⟨c, run, circular_of_mutual (.inr ⟨join, rfl, running⟩) (.inl ⟨.mLock, lock, holder⟩)⟩

end Redfin.Usb
