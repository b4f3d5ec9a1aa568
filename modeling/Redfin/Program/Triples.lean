import Redfin.Program.Threads

/-!
# Weakest preconditions

`p.Wp F s post` says that the program `p`, started in the state `s`, performs only operations that
are safe where they are performed, and that it can only return with a value and a state that satisfy
`post`, whatever results its operations give. `F` says when an operation is safe, and its effect for
each result it may have, none where the result is impossible. Nothing is said of a program that is
stuck.

The rules are those of a Hoare logic for one program. `Machine.Run.wp` carries them over to a
thread of a machine that keeps a part of the shared state to itself: however the other threads
interleave with it, what is left of its program still has the weakest precondition of what it
returns with.
-/

namespace Redfin.Program

open Function

/-- Where each operation is safe, and its effect for each of its results. -/
structure Effects (S : Sig) (σ : Type) where
  safe : S.Op → σ → Prop
  act : (o : S.Op) → S.Res o → σ → Option σ

/-- The operation is safe in the state, and leaves it alone. -/
def Effects.Keeps {S : Sig} {σ : Type} (F : Effects S σ) (s : σ) (o : S.Op) : Prop :=
  F.safe o s ∧ ∀ r s', F.act o r s = some s' → s' = s

namespace Prog

variable {S : Sig} {σ α β : Type} {F : Effects S σ}

/-- Every operation of the program, started in the state `s`, is safe, and every way to return from
it satisfies `post`. -/
def Wp (F : Effects S σ) : Prog S α → σ → (α → σ → Prop) → Prop
  | .ret a, s, post => post a s
  | .op o k, s, post => F.safe o s ∧ ∀ r s', F.act o r s = some s' → (k r).Wp F s' post

/-- A program that has ended establishes what its state does. -/
@[simp] lemma wp_ret (a : α) (s : σ) (post : α → σ → Prop) :
    (Prog.ret a : Prog S α).Wp F s post ↔ post a s := Iff.rfl

/-- A first operation is to be safe, and what follows is to establish the rest from each of its
effects. -/
@[simp] lemma wp_op (o : S.Op) (k : S.Res o → Prog S α) (s : σ) (post : α → σ → Prop) :
    (Prog.op o k).Wp F s post ↔
      F.safe o s ∧ ∀ r s', F.act o r s = some s' → (k r).Wp F s' post := Iff.rfl

/-- The rule of consequence. -/
lemma Wp.mono {p : Prog S α} {s : σ} {post post' : α → σ → Prop} (hp : p.Wp F s post)
    (h : ∀ a s', post a s' → post' a s') : p.Wp F s post' := by
  induction p generalizing s with
  | ret a => exact h a s hp
  | op o k ih => exact ⟨hp.1, fun r s' e => ih r (hp.2 r s' e)⟩

/-- The precondition of a sequence is that of its first part for that of its second. -/
lemma wp_bind (p : Prog S α) (k : α → Prog S β) (s : σ) (post : β → σ → Prop) :
    (p >>= k).Wp F s post ↔ p.Wp F s fun a s' => (k a).Wp F s' post := by
  induction p generalizing s with
  | ret a => rfl
  | op o f ih => exact and_congr Iff.rfl (forall₃_congr fun r s' _ => ih r s')

/-- The rule for sequencing: the second part starts where the first returns. -/
lemma Wp.bind {p : Prog S α} {k : α → Prog S β} {s : σ} {mid : α → σ → Prop}
    {post : β → σ → Prop} (hp : p.Wp F s mid) (hk : ∀ a s', mid a s' → (k a).Wp F s' post) :
    (p >>= k).Wp F s post :=
  (wp_bind p k s post).mpr (hp.mono hk)

/-- Operations that leave the state alone leave it alone one after the other. -/
lemma All.wp {p : Prog S α} {s : σ} {post : α → σ → Prop} (hp : p.All (F.Keeps s))
    (h : ∀ a, post a s) : p.Wp F s post := by
  induction p with
  | ret a => exact h a
  | op o k ih =>
    refine ⟨hp.1.1, fun r s' e => ?_⟩
    obtain rfl := hp.1.2 r s' e
    exact ih r (hp.2 r)

/-- The rule for a first part that leaves the state alone. -/
lemma All.wp_bind {p : Prog S α} {k : α → Prog S β} {s : σ} {post : β → σ → Prop}
    (hp : p.All (F.Keeps s)) (hk : ∀ a, (k a).Wp F s post) : (p >>= k).Wp F s post :=
  (Prog.wp_bind p k s post).mpr (hp.wp hk)

end Prog

/-! ## A thread with a state of its own -/

namespace Machine

variable {S : Sig} {T L C E σ τ : Type}

/-- Of the shared state, `view` is the thread's own: the thread's operations act on it as `F` says,
and the other threads and the environment leave it alone. Where the thread takes up its next program
with `rest`, that program returns with `rest` again. -/
structure Owns (M : Machine S T L C E σ) (G : σ → Label S T C E → Prop) (t : T) (view : σ → τ)
    (F : Effects S τ) (rest : L → τ → Prop) : Prop where
  act : ∀ {o r s s'}, G s (.act t o r) → M.act t o r s = some s' →
    F.act o r (view s) = some (view s')
  other : ∀ {u o r s s'}, u ≠ t → M.act u o r s = some s' → view s' = view s
  go : ∀ {l x s p s'}, G s (.go t x) → M.go t l x s = some (p, s') → rest l (view s) →
    p.Wp F (view s') rest
  goOther : ∀ {u l x s p s'}, u ≠ t → M.go u l x s = some (p, s') → view s' = view s
  env : ∀ {e s s'}, M.env e s = some s' → view s' = view s

variable [DecidableEq S.Op] [DecidableEq T] {M : Machine S T L C E σ}
  {G : σ → Label S T C E → Prop} {t : T} {view : σ → τ} {F : Effects S τ} {rest : L → τ → Prop}

/-- A step of any thread keeps the precondition of what is left of the owner's program. -/
lemma Owns.step (h : M.Owns G t view F rest) {c c' : Config S T L σ} {l : Label S T C E}
    (wp : (c.prog t).Wp F (view c.shared) rest) (hG : G c.shared l)
    (st : M.step c l = some c') : (c'.prog t).Wp F (view c'.shared) rest := by
  cases l with
  | act u o r =>
    obtain ⟨k, s, e, hs, rfl⟩ := step_act st
    by_cases hu : u = t
    · subst hu
      rw [e] at wp
      simpa using wp.2 r _ (h.act hG hs)
    · simpa [update_of_ne (Ne.symm hu), h.other hu hs] using wp
  | go u x =>
    obtain ⟨l, p, s, e, hs, rfl⟩ := step_go st
    by_cases hu : u = t
    · subst hu
      rw [e] at wp
      simpa using h.go hG hs wp
    · simpa [update_of_ne (Ne.symm hu), h.goOther hu hs] using wp
  | env e =>
    obtain ⟨s, hs, rfl⟩ := step_env st
    simpa [h.env hs] using wp

/-- In every state of a run, what is left of the owner's program returns with `rest`. -/
theorem Run.wp (h : M.Owns G t view F rest) {c₀ c : Config S T L σ}
    (start : (c₀.prog t).Wp F (view c₀.shared) rest) (run : M.Run G c₀ c) :
    (c.prog t).Wp F (view c.shared) rest := by
  induction run with
  | refl => exact start
  | tail _ hG st ih => exact h.step ih hG st

/-! ## The operations that a thread's programs perform -/

/-- The machine in which each thread performs only the operations that `P` allows it. -/
def only (M : Machine S T L C E σ) (P : T → S.Op → Prop) [∀ t o, Decidable (P t o)] :
    Machine S T L C E σ :=
  { M with act t o r s := if P t o then M.act t o r s else none }

variable {P : T → S.Op → Prop} [∀ t o, Decidable (P t o)]

omit [DecidableEq S.Op] [DecidableEq T] in
/-- An operation that is allowed is one of the machine itself. -/
lemma act_only {o : S.Op} {r : S.Res o} {s s' : σ} (h : (M.only P).act t o r s = some s') :
    P t o ∧ M.act t o r s = some s' :=
  Option.ite_none_right_eq_some.mp h

/-- If the programs that the threads take up perform only what is allowed, a run loses nothing by
allowing no more. -/
theorem Run.only (takes : ∀ t l x s p s', M.go t l x s = some (p, s') → p.All (P t))
    {c₀ c : Config S T L σ} (start : ∀ t, (c₀.prog t).All (P t)) (run : M.Run G c₀ c) :
    (M.only P).Run G c₀ c ∧ ∀ t, (c.prog t).All (P t) := by
  induction run with
  | refl => exact ⟨.refl, start⟩
  | @tail c c' l _ hG st ih =>
    obtain ⟨run, all⟩ := ih
    cases l with
    | act t o r =>
      obtain ⟨k, s, e, hs, rfl⟩ := step_act st
      have allowed := all t
      rw [e] at allowed
      have act : (M.only P).act t o r c.shared = some s := (if_pos allowed.1).trans hs
      have st' : (M.only P).step c (.act t o r) = some ⟨s, update c.prog t (k r)⟩ := by
        simp [step, e, act]
      refine ⟨run.tail hG st', fun u => ?_⟩
      by_cases hu : u = t
      · subst hu
        simpa using allowed.2 r
      · simpa [update_of_ne hu] using all u
    | go t x =>
      obtain ⟨l, p, s, e, hs, rfl⟩ := step_go st
      refine ⟨run.tail hG st, fun u => ?_⟩
      by_cases hu : u = t
      · subst hu
        simpa using takes _ _ _ _ _ _ hs
      · simpa [update_of_ne hu] using all u
    | env e =>
      obtain ⟨s, hs, rfl⟩ := step_env st
      exact ⟨run.tail hG st, all⟩

end Machine

end Redfin.Program
