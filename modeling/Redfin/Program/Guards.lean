import Redfin.Program.Threads

/-!
# A lock and what it guards

A lock guards a cell of the shared state if the threads access the cell only while they hold the
lock. What a thread has read or written there is then still so until it releases the lock, whatever
the other threads do.

`Access` says what an operation does to the lock and the cell, `grip` is the protocol of threads that
keep to it: the state of a thread says whether it holds the lock, and what it knows of the cell. In
every run of such threads, what they know is true (`Run.gripped`).
-/

namespace Redfin.Program

open Function

/-- What an operation with its result does to a lock and to the cell that the lock guards. -/
inductive Access (β : Type) where
  | quiet
  | take
  | release
  | read (b : β)
  | write (b : β)
  | change (f : β → β)

/-- What a thread has of the lock and knows of the cell. -/
inductive Grip (β : Type) where
  | away
  | held
  | seen (b : β)

section

variable {β : Type}

/-- Who holds the lock is not away. -/
lemma Grip.held_ne : (held : Grip β) ≠ away := by
  intro h
  cases h

/-- Who has seen the value is not away. -/
lemma Grip.seen_ne (b : β) : seen b ≠ away := by
  intro h
  cases h

namespace Access

/-- The accesses that a thread may make. -/
def Allowed : Access β → Grip β → Prop
  | .quiet, _ => True
  | .take, q => q = .away
  | .release, q => q ≠ .away
  | .read _, q => q ≠ .away
  | .write _, q => q ≠ .away
  | .change _, q => q ≠ .away

/-- What a thread has and knows after an access. -/
def next : Access β → Grip β → Grip β
  | .quiet, q => q
  | .take, _ => .held
  | .release, _ => .away
  | .read b, _ => .seen b
  | .write b, _ => .seen b
  | .change f, .seen b => .seen (f b)
  | .change _, q => q

/-- What an access of the thread `t` does to the holder of the lock and to the cell. -/
inductive Does {T : Type} (t : T) : Access β → Option T × β → Option T × β → Prop where
  | quiet {x} : Does t .quiet x x
  | take {b} : Does t .take (none, b) (some t, b)
  | release {u b} : Does t .release (u, b) (none, b)
  | read {u b} : Does t (.read b) (u, b) (u, b)
  | write {u b b'} : Does t (.write b') (u, b) (u, b')
  | change {f u b} : Does t (.change f) (u, b) (u, f b)

end Access

/-- The protocol of a thread: each operation comes where its access is allowed, and where `needs`
holds of what the thread knows. -/
def grip {S : Sig} (access : (o : S.Op) → S.Res o → Access β) (needs : S.Op → Grip β → Prop) :
    Protocol S (Grip β) where
  ok q o := needs o q ∧ ∀ r, (access o r).Allowed q
  next q o r := (access o r).next q

/-- The threads that are not away hold the lock, and what they know of the cell is so. -/
structure Gripped {T : Type} (x : Option T × β) (q : T → Grip β) : Prop where
  holds : ∀ t, q t ≠ .away ↔ x.1 = some t
  knows : ∀ t b, q t = .seen b → x.2 = b

variable {T : Type} {t : T} {x x' : Option T × β} {q : T → Grip β} {a : Access β}

/-- Where a thread holds the lock, the others are away. -/
lemma Gripped.others (h : Gripped x q) (ht : q t ≠ .away) (u : T) (hu : u ≠ t) : q u = .away := by
  by_contra hq
  exact hu (Option.some.inj (((h.holds u).mp hq).symm.trans ((h.holds t).mp ht)))

variable [DecidableEq T]

/-- A thread that holds the lock, with all others away. -/
lemma gripped_update {p : Grip β} {b : β} (hp : p ≠ .away)
    (others : ∀ u, u ≠ t → q u = .away) (knows : ∀ b', p = .seen b' → b = b') :
    Gripped (some t, b) (update q t p) where
  holds u := by
    by_cases hu : u = t
    · subst hu
      rw [update_self]
      exact iff_of_true hp rfl
    · rw [update_of_ne hu]
      exact iff_of_false (fun away => away (others u hu)) fun e => hu (Option.some.inj e).symm
  knows u b' hq := by
    by_cases hu : u = t
    · subst hu
      rw [update_self] at hq
      exact knows b' hq
    · rw [update_of_ne hu, others u hu] at hq
      cases hq

/-- An access keeps what the threads have and know. -/
lemma Gripped.access (h : Gripped x q) (allowed : a.Allowed (q t)) (does : a.Does t x x') :
    Gripped x' (update q t (a.next (q t))) := by
  cases does with
  | quiet =>
    show Gripped x (update q t (q t))
    rw [update_eq_self]
    exact h
  | take =>
    apply gripped_update Grip.held_ne
    · intro u _
      by_contra hq
      cases (h.holds u).mp hq
    · intro b' e
      cases e
  | @release u b =>
    have others := h.others allowed
    refine ⟨fun u => ?_, fun u b' hq => ?_⟩
    · refine iff_of_false (fun held => held ?_) (Option.some_ne_none u).symm
      by_cases hu : u = t
      · subst hu
        exact update_self ..
      · rw [update_of_ne hu]
        exact others u hu
    · by_cases hu : u = t
      · subst hu
        rw [update_self] at hq
        cases hq
      · rw [update_of_ne hu, others u hu] at hq
        cases hq
  | @read u b =>
    obtain rfl : u = some t := (h.holds t).mp allowed
    exact gripped_update (Grip.seen_ne b) (h.others allowed) fun b' e => Grip.seen.inj e
  | @write u b b' =>
    obtain rfl : u = some t := (h.holds t).mp allowed
    exact gripped_update (Grip.seen_ne b') (h.others allowed) fun b' e => Grip.seen.inj e
  | @change f u b =>
    obtain rfl : u = some t := (h.holds t).mp allowed
    have others := h.others allowed
    have knows := h.knows t
    cases hq : q t with
    | away => exact absurd hq allowed
    | held =>
      apply gripped_update Grip.held_ne others
      intro b' e
      cases e
    | seen b₀ =>
      obtain rfl : b = b₀ := knows b₀ hq
      exact gripped_update (Grip.seen_ne _) others fun b' e => Grip.seen.inj e

end

namespace Machine

variable {S : Sig} {T L C E σ β : Type}

/-- The lock with the holder and the cell of `view` is used by the machine as `access` says. -/
structure Guards (M : Machine S T L C E σ) (view : σ → Option T × β)
    (access : (o : S.Op) → S.Res o → Access β) : Prop where
  act : ∀ {t o r s s'}, M.act t o r s = some s' → (access o r).Does t (view s) (view s')
  go : ∀ {t l x s p s'}, M.go t l x s = some (p, s') → view s' = view s
  env : ∀ {e s s'}, M.env e s = some s' → view s' = view s

variable [DecidableEq S.Op] [DecidableEq T] {M : Machine S T L C E σ} {view : σ → Option T × β}
  {access : (o : S.Op) → S.Res o → Access β} {needs : S.Op → Grip β → Prop}
  {G : σ → Label S T C E → Prop} {rest : T → L → Grip β} {c₀ c : Config S T L σ}
  {q₀ : T → Grip β}

/-- In every run of threads that follow the protocol, they have and know what it says. -/
theorem Run.gripped (h : M.Guards view access) (obeys : M.Obeys (fun _ => grip access needs) rest)
    (start : Gripped (view c₀.shared) q₀)
    (tracks : Tracks (fun _ => grip access needs) rest c₀ q₀) (run : M.Run G c₀ c) :
    ∃ q, Gripped (view c.shared) q ∧ Tracks (fun _ => grip access needs) rest c q := by
  apply run.invariant (I := fun s q => Gripped (view s) q) obeys _ start tracks
  intro s q l s' q' gripped _ st
  cases st with
  | act ok act => exact gripped.access (ok.2 _) (h.act act)
  | go _ go =>
    rw [h.go go]
    exact gripped
  | env env =>
    rw [h.env env]
    exact gripped

/-- What a thread knows of the cell when it comes to an operation. -/
theorem Run.grip (h : M.Guards view access) (obeys : M.Obeys (fun _ => grip access needs) rest)
    (start : Gripped (view c₀.shared) q₀)
    (tracks : Tracks (fun _ => Program.grip access needs) rest c₀ q₀) (run : M.Run G c₀ c) {t : T}
    {o : S.Op} (ht : (c.prog t).head? = some o) :
    ∃ g, needs o g ∧ (∀ r, (access o r).Allowed g) ∧
      (g ≠ .away → (view c.shared).1 = some t) ∧ ∀ b, g = .seen b → (view c.shared).2 = b := by
  obtain ⟨q, gripped, tracked⟩ := run.gripped h obeys start tracks
  obtain ⟨k, hk⟩ := Prog.eq_op_of_head? ht
  obtain ⟨need, allowed⟩ := tracked.ok hk
  exact ⟨q t, need, allowed, (gripped.holds t).mp, gripped.knows t⟩

end Machine

end Redfin.Program
