import Mathlib.Logic.Function.Basic
import Redfin.Program.Protocol

/-!
# Threads over a shared state

The programs of several threads, interleaved one operation at a time over one shared state. A
thread's program ends in a label; the machine then chooses what the thread runs next (the next
call it serves, the next turn of a loop). `Machine.act` is the effect of an operation for each
result it may have, and none where the operation is blocked or the result impossible; `Machine.env`
is what happens outside the threads.

`Run G c₀ c` says that `c` is reached from `c₀` by steps that all satisfy `G`. If every program
follows a protocol, a run of the machine is matched by a run of the protocol's automata over the
same shared state (`Machine.tracks_step`), so an invariant of that smaller system is one of the
machine (`Run.invariant`).
-/

namespace Redfin.Program

open Function

/-- An effect under a condition, inverted. -/
lemma of_enabled {σ : Type} {p : Prop} [Decidable p] {s s' : σ}
    (h : (if p then some s else none) = some s') : p ∧ s = s' := by
  obtain ⟨hp, e⟩ := Option.ite_none_right_eq_some.mp h
  exact ⟨hp, Option.some.inj e⟩

/-- An effect that a condition blocks, inverted. -/
lemma of_blocked {σ : Type} {p : Prop} [Decidable p] {s s' : σ}
    (h : (if p then none else some s) = some s') : ¬p ∧ s = s' := by
  obtain ⟨hp, e⟩ := Option.ite_none_left_eq_some.mp h
  exact ⟨hp, Option.some.inj e⟩

/-- What the threads of a system run and how they act on the shared state `σ`. -/
structure Machine (S : Sig) (T L C E σ : Type) where
  act : T → (o : S.Op) → S.Res o → σ → Option σ
  go : T → L → C → σ → Option (Prog S L × σ)
  env : E → σ → Option σ

/-- A state of the system: the shared state and what is left of each thread's program. -/
structure Config (S : Sig) (T L σ : Type) where
  shared : σ
  prog : T → Prog S L

/-- A step: an operation of a thread with its result, a thread's next program, the environment. -/
inductive Label (S : Sig) (T C E : Type) where
  | act (t : T) (o : S.Op) (r : S.Res o)
  | go (t : T) (x : C)
  | env (e : E)

namespace Machine

variable {S : Sig} {T L C E σ Q : Type} [DecidableEq S.Op] [DecidableEq T]

/-- The state after a step, if the step is possible. -/
def step (M : Machine S T L C E σ) (c : Config S T L σ) : Label S T C E → Option (Config S T L σ)
  | .act t o r =>
    match c.prog t with
    | .ret _ => none
    | .op o' k =>
      if h : o = o' then
        (M.act t o r c.shared).map fun s => ⟨s, update c.prog t (k (h ▸ r))⟩
      else none
  | .go t x =>
    match c.prog t with
    | .ret l => (M.go t l x c.shared).map fun ps => ⟨ps.2, update c.prog t ps.1⟩
    | .op _ _ => none
  | .env e => (M.env e c.shared).map fun s => ⟨s, c.prog⟩

/-- An operation of a thread heads its program and is possible in the shared state. -/
lemma step_act {M : Machine S T L C E σ} {c c' : Config S T L σ} {t : T} {o : S.Op} {r : S.Res o}
    (h : M.step c (.act t o r) = some c') :
    ∃ k s, c.prog t = .op o k ∧ M.act t o r c.shared = some s ∧
      c' = ⟨s, update c.prog t (k r)⟩ := by
  simp only [step] at h
  split at h
  · cases h
  · rename_i o' k e
    split at h
    · rename_i ho
      subst ho
      obtain ⟨s, hs, rfl⟩ := Option.map_eq_some_iff.mp h
      exact ⟨k, s, e, hs, rfl⟩
    · cases h

/-- A thread takes up its next program where the last one has returned. -/
lemma step_go {M : Machine S T L C E σ} {c c' : Config S T L σ} {t : T} {x : C}
    (h : M.step c (.go t x) = some c') :
    ∃ l p s, c.prog t = .ret l ∧ M.go t l x c.shared = some (p, s) ∧
      c' = ⟨s, update c.prog t p⟩ := by
  simp only [step] at h
  split at h
  · rename_i l e
    obtain ⟨⟨p, s⟩, hs, rfl⟩ := Option.map_eq_some_iff.mp h
    exact ⟨l, p, s, e, hs, rfl⟩
  · cases h

/-- The environment changes the shared state only. -/
lemma step_env {M : Machine S T L C E σ} {c c' : Config S T L σ} {e : E}
    (h : M.step c (.env e) = some c') :
    ∃ s, M.env e c.shared = some s ∧ c' = ⟨s, c.prog⟩ := by
  obtain ⟨s, hs, rfl⟩ := Option.map_eq_some_iff.mp h
  exact ⟨s, hs, rfl⟩

/-- `c` is reached from `c₀` by steps that all satisfy the guard `G`. -/
inductive Run (M : Machine S T L C E σ) (G : σ → Label S T C E → Prop) (c₀ : Config S T L σ) :
    Config S T L σ → Prop where
  | refl : Run M G c₀ c₀
  | tail {c c' l} :
    Run M G c₀ c →
    G c.shared l →
    M.step c l = some c' →
    Run M G c₀ c'

/-- `c` is reached from `c₀` by any steps. -/
abbrev Reach (M : Machine S T L C E σ) : Config S T L σ → Config S T L σ → Prop :=
  M.Run fun _ _ => True

/-- Take the listed steps one after the other, each of them only if the guard permits it. -/
def play (M : Machine S T L C E σ) (G : σ → Label S T C E → Prop) [∀ s l, Decidable (G s l)]
    (ls : List (Label S T C E)) (c : Config S T L σ) : Option (Config S T L σ) :=
  ls.foldlM (fun c l => if G c.shared l then M.step c l else none) c

/-- What a schedule reaches is reached by a run. -/
lemma Run.play {M : Machine S T L C E σ} {G : σ → Label S T C E → Prop}
    [∀ s l, Decidable (G s l)] {ls : List (Label S T C E)} {c₀ c c' : Config S T L σ}
    (hc : M.Run G c₀ c) (h : M.play G ls c = some c') : M.Run G c₀ c' := by
  induction ls generalizing c with
  | nil => cases h; exact hc
  | cons l ls ih =>
    simp only [Machine.play, List.foldlM_cons] at h
    obtain ⟨c₁, h₁, h₂⟩ := Option.bind_eq_some_iff.mp h
    split at h₁
    · rename_i hG
      exact ih (hc.tail hG h₁) h₂
    · cases h₁

/-- A schedule and what it computes of its last state give a run to such a state. -/
lemma exists_run (M : Machine S T L C E σ) {G : σ → Label S T C E → Prop}
    [∀ s l, Decidable (G s l)] {ls : List (Label S T C E)} {c₀ : Config S T L σ} {β : Type}
    {f : Config S T L σ → β} {b : β} (h : (M.play G ls c₀).map f = some b) :
    ∃ c, M.Run G c₀ c ∧ f c = b := by
  obtain ⟨c, hc, e⟩ := Option.map_eq_some_iff.mp h
  exact ⟨c, Run.refl.play hc, e⟩

/-- A run whose steps satisfy a stronger guard. -/
lemma Run.mono {M : Machine S T L C E σ} {G G' : σ → Label S T C E → Prop}
    {c₀ c : Config S T L σ} (hc : M.Run G c₀ c) (h : ∀ s l, G s l → G' s l) : M.Run G' c₀ c := by
  induction hc with
  | refl => exact .refl
  | tail _ hG st ih => exact ih.tail (h _ _ hG) st

/-- What holds of each operation of the programs that the threads take up holds of what is left of
them. -/
lemma Run.each {M : Machine S T L C E σ} {G : σ → Label S T C E → Prop} {c₀ c : Config S T L σ}
    {P : T → (o : S.Op) → (S.Res o → Prog S L) → Prop}
    (takes : ∀ t l x s p s', M.go t l x s = some (p, s') → p.Each (P t))
    (start : ∀ t, (c₀.prog t).Each (P t)) (run : M.Run G c₀ c) : ∀ t, (c.prog t).Each (P t) := by
  induction run with
  | refl => exact start
  | @tail c c' l _ _ st ih =>
    cases l with
    | act t o r =>
      obtain ⟨k, s, e, -, rfl⟩ := step_act st
      have here := ih t
      rw [e] at here
      exact (forall_update_iff c.prog fun t p => p.Each (P t)).mpr ⟨here.2 r, fun u _ => ih u⟩
    | go t x =>
      obtain ⟨l, p, s, -, hs, rfl⟩ := step_go st
      have taken := takes t l x c.shared p s hs
      exact (forall_update_iff c.prog fun t p => p.Each (P t)).mpr ⟨taken, fun u _ => ih u⟩
    | env e =>
      obtain ⟨s, -, rfl⟩ := step_env st
      exact ih

/-! ## Programs that follow protocols -/

/-- Whatever a thread takes up follows its protocol from one resting state to another. -/
def Obeys (M : Machine S T L C E σ) (A : T → Protocol S Q) (rest : T → L → Q) : Prop :=
  ∀ t l x s p s', M.go t l x s = some (p, s') →
    p.Follows (A t) (rest t l) fun l' q => q = rest t l'

/-- The protocol states `q` of the threads fit what is left of their programs. -/
def Tracks (A : T → Protocol S Q) (rest : T → L → Q) (c : Config S T L σ) (q : T → Q) : Prop :=
  ∀ t, (c.prog t).Follows (A t) (q t) fun l q' => q' = rest t l

/-- A step of the protocols' automata over the shared state. -/
inductive PStep (M : Machine S T L C E σ) (A : T → Protocol S Q) (rest : T → L → Q) (s : σ)
    (q : T → Q) : Label S T C E → σ → (T → Q) → Prop where
  | act {t o r s'} :
    (A t).ok (q t) o →
    M.act t o r s = some s' →
    PStep M A rest s q (.act t o r) s' (update q t ((A t).next (q t) o r))
  | go {t l x p s'} :
    q t = rest t l →
    M.go t l x s = some (p, s') →
    PStep M A rest s q (.go t x) s' q
  | env {e s'} :
    M.env e s = some s' →
    PStep M A rest s q (.env e) s' q

omit [DecidableEq S.Op] [DecidableEq T] in
/-- The operation a thread is about to perform is permitted by its protocol. -/
lemma Tracks.ok {A : T → Protocol S Q} {rest : T → L → Q} {c : Config S T L σ} {q : T → Q}
    (h : Tracks A rest c q) {t : T} {o : S.Op} {k : S.Res o → Prog S L}
    (e : c.prog t = .op o k) : (A t).ok (q t) o := by
  have ht := h t
  rw [e] at ht
  exact ht.1

omit [DecidableEq S.Op] in
/-- The other threads' protocol states still fit after one thread has moved. -/
lemma Tracks.update {A : T → Protocol S Q} {rest : T → L → Q} {c : Config S T L σ} {q : T → Q}
    (h : Tracks A rest c q) {t : T} {p : Prog S L} {qt : Q} (s : σ)
    (hp : p.Follows (A t) qt fun l q' => q' = rest t l) :
    Tracks A rest ⟨s, Function.update c.prog t p⟩ (Function.update q t qt) := by
  intro u
  by_cases hu : u = t
  · subst hu
    simpa using hp
  · simpa [hu] using h u

/-- A step of the machine is a step of the protocols' automata. -/
theorem tracks_step {M : Machine S T L C E σ} {A : T → Protocol S Q} {rest : T → L → Q}
    (hM : M.Obeys A rest) {c c' : Config S T L σ} {q : T → Q} {l : Label S T C E}
    (h : Tracks A rest c q) (st : M.step c l = some c') :
    ∃ q', M.PStep A rest c.shared q l c'.shared q' ∧ Tracks A rest c' q' := by
  cases l with
  | act t o r =>
    obtain ⟨k, s, e, hs, rfl⟩ := step_act st
    have ht := h t
    rw [e] at ht
    exact ⟨_, .act (h.ok e) hs, h.update s (ht.2 r)⟩
  | go t x =>
    obtain ⟨l, p, s, e, hs, rfl⟩ := step_go st
    have ht := h t
    rw [e] at ht
    refine ⟨q, .go ht hs, ?_⟩
    have hp := hM _ _ _ _ _ _ hs
    have ht' : q t = rest t l := ht
    rw [← ht'] at hp
    simpa using h.update s hp
  | env e =>
    obtain ⟨s, hs, rfl⟩ := step_env st
    exact ⟨q, .env hs, h⟩

/-- An invariant of the protocols' automata holds along every run of the machine. -/
theorem Run.invariant {M : Machine S T L C E σ} {A : T → Protocol S Q} {rest : T → L → Q}
    (hM : M.Obeys A rest) {G : σ → Label S T C E → Prop} {I : σ → (T → Q) → Prop}
    (hI : ∀ s q l s' q', I s q → G s l → M.PStep A rest s q l s' q' → I s' q')
    {c₀ c : Config S T L σ} {q₀ : T → Q} (h₀ : I c₀.shared q₀) (t₀ : Tracks A rest c₀ q₀)
    (hc : M.Run G c₀ c) : ∃ q, I c.shared q ∧ Tracks A rest c q := by
  induction hc with
  | refl => exact ⟨q₀, h₀, t₀⟩
  | tail _ hG st ih =>
    obtain ⟨q, hq, tq⟩ := ih
    obtain ⟨q', pst, tq'⟩ := tracks_step hM tq st
    exact ⟨q', hI _ _ _ _ _ hq hG pst, tq'⟩

end Machine

end Redfin.Program
