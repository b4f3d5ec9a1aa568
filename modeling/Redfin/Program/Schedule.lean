import Redfin.Program.Threads

/-!
# Schedules

Runs of a machine in which a thread performs many operations in a row, each with the result that a
function answers, up to where its program returns. They show what can happen; what always happens is
shown by induction on runs (`Redfin.Program.Threads`).
-/

namespace Redfin.Program

open Function

/-- The value a program has returned, if it has. -/
def Prog.value? {S : Sig} {α : Type} : Prog S α → Option α
  | .ret a => some a
  | .op _ _ => none

/-- A program that has a value has ended with it. -/
lemma Prog.eq_ret_of_value? {S : Sig} {α : Type} {p : Prog S α} {a : α} (h : p.value? = some a) :
    p = .ret a := by
  cases p with
  | ret b => exact congrArg Prog.ret (Option.some.inj h)
  | op o k => cases h

/-- A part of a schedule: a thread takes up a program, or performs at most so many operations. -/
inductive Leg (T C : Type) where
  | go (t : T) (x : C)
  | act (t : T) (n : ℕ)

namespace Machine

variable {S : Sig} {T L C E σ : Type} [DecidableEq S.Op] [DecidableEq T] {M : Machine S T L C E σ}
  {c : Config S T L σ} {t : T}

/-- An operation that heads a program is performed where it is possible. -/
lemma step_of_act {o : S.Op} {k : S.Res o → Prog S L} {r : S.Res o} {s : σ}
    (e : c.prog t = .op o k) (h : M.act t o r c.shared = some s) :
    M.step c (.act t o r) = some ⟨s, update c.prog t (k r)⟩ := by
  simp [step, e, h]

/-- A program is taken up where it can be. -/
lemma step_of_go {l : L} {x : C} {p : Prog S L} {s : σ} (e : c.prog t = .ret l)
    (h : M.go t l x c.shared = some (p, s)) :
    M.step c (.go t x) = some ⟨s, update c.prog t p⟩ := by
  simp [step, e, h]

section

variable (M : Machine S T L C E σ) (G : σ → Label S T C E → Prop) [∀ s l, Decidable (G s l)]
  (answer : (o : S.Op) → σ → S.Res o)

/-- Let a thread perform at most `n` operations, as far as the guard permits them. -/
def advance (t : T) : ℕ → Config S T L σ → Option (Config S T L σ)
  | 0, c => some c
  | n + 1, c =>
    match c.prog t with
    | .ret _ => some c
    | .op o k =>
      let r := answer o c.shared
      if G c.shared (.act t o r) then
        (M.act t o r c.shared).bind fun s => advance t n ⟨s, update c.prog t (k r)⟩
      else none

/-- Follow a schedule from one leg to the next. -/
def follow : List (Leg T C) → Config S T L σ → Option (Config S T L σ)
  | [], c => some c
  | .go t x :: legs, c =>
    if G c.shared (.go t x) then (M.step c (.go t x)).bind (follow legs) else none
  | .act t n :: legs, c => (M.advance G answer t n c).bind (follow legs)

end

variable {G : σ → Label S T C E → Prop} [∀ s l, Decidable (G s l)]
  {answer : (o : S.Op) → σ → S.Res o} {c₀ c' : Config S T L σ}

/-- A run can be advanced by steps of one thread. -/
lemma Run.advance {n : ℕ} (run : M.Run G c₀ c) (h : M.advance G answer t n c = some c') :
    M.Run G c₀ c' := by
  induction n generalizing c with
  | zero =>
    cases h
    exact run
  | succ n ih =>
    cases e : c.prog t with
    | ret a =>
      simp only [Machine.advance, e] at h
      cases h
      exact run
    | op o k =>
      simp only [Machine.advance, e] at h
      obtain ⟨hG, h⟩ := Option.ite_none_right_eq_some.mp h
      obtain ⟨s, hs, rest⟩ := Option.bind_eq_some_iff.mp h
      exact ih (run.tail hG (step_of_act e hs)) rest

/-- A run can be continued along a schedule. -/
lemma Run.follow {legs : List (Leg T C)} (run : M.Run G c₀ c)
    (h : M.follow G answer legs c = some c') : M.Run G c₀ c' := by
  induction legs generalizing c with
  | nil =>
    cases h
    exact run
  | cons leg legs ih =>
    cases leg with
    | go t x =>
      obtain ⟨hG, h⟩ := Option.ite_none_right_eq_some.mp h
      obtain ⟨d, first, rest⟩ := Option.bind_eq_some_iff.mp h
      exact ih (run.tail hG first) rest
    | act t n =>
      obtain ⟨d, first, rest⟩ := Option.bind_eq_some_iff.mp h
      exact ih (run.advance first) rest

/-- What a schedule computes of its last state is so in a state that a run reaches. -/
lemma exists_follow {legs : List (Leg T C)} {β : Type} {f : Config S T L σ → β} {b : β}
    (h : (M.follow G answer legs c₀).map f = some b) : ∃ c, M.Run G c₀ c ∧ f c = b := by
  obtain ⟨c, hc, e⟩ := Option.map_eq_some_iff.mp h
  exact ⟨c, Run.refl.follow hc, e⟩

/-! ## A thread by itself -/

/-- A thread may perform each operation with what the handler answers. -/
def Admits (M : Machine S T L C E σ) (G : σ → Label S T C E → Prop) (t : T) (h : Handler S σ) :
    Prop :=
  ∀ o r s s', h o s = (some r, s') → G s (.act t o r) ∧ M.act t o r s = some s'

variable {h : Handler S σ} {prog : T → Prog S L} {p : Prog S L} {s s' : σ}

omit [∀ s l, Decidable (G s l)]

/-- An operation that heads the program of one thread, performed as the handler answers it. -/
lemma Run.answered (hM : M.Admits G t h) {o : S.Op} {k : S.Res o → Prog S L} {r : S.Res o}
    (run : M.Run G c₀ ⟨s, update prog t (.op o k)⟩) (e : h o s = (some r, s')) :
    M.Run G c₀ ⟨s', update prog t (k r)⟩ := by
  obtain ⟨hG, act⟩ := hM o r s s' e
  have next := run.tail hG (step_of_act (update_self ..) act)
  rwa [update_idem] at next

/-- Each operation of a sequential run is the next one of the thread in a state that a run reaches,
with the other threads where they were. -/
lemma Run.trace (hM : M.Admits G t h) (run : M.Run G c₀ ⟨s, update prog t p⟩) :
    ∀ x ∈ p.trace h s, ∃ k, M.Run G c₀ ⟨x.1, update prog t (.op x.2 k)⟩ := by
  induction p generalizing s with
  | ret a =>
    intro x hx
    cases hx
  | op o k ih =>
    intro x hx
    rcases e : h o s with ⟨_ | r, s'⟩
    · rw [Prog.trace, e] at hx
      obtain rfl := List.mem_singleton.mp hx
      exact ⟨k, run⟩
    · rw [Prog.trace_op k e] at hx
      rcases List.mem_cons.mp hx with rfl | later
      · exact ⟨k, run⟩
      · exact ih r (run.answered hM e) x later

/-- Where a sequential run returns, a run of the machine has the thread at rest. -/
lemma Run.exec (hM : M.Admits G t h) {l : L} (run : M.Run G c₀ ⟨s, update prog t p⟩)
    (e : p.exec h s = (some l, s')) : M.Run G c₀ ⟨s', update prog t (.ret l)⟩ := by
  induction p generalizing s with
  | ret a =>
    cases e
    exact run
  | op o k ih =>
    rcases first : h o s with ⟨_ | r, s₁⟩
    · rw [Prog.exec, first] at e
      cases e
    · rw [Prog.exec_op k first] at e
      exact ih r (run.answered hM first) e

end Machine

end Redfin.Program
