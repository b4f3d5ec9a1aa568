import Redfin.Program.Threads

/-!
# Runs with a history

What a property has to remember of the steps of a run is recorded beside the shared state.
`Machine.record` updates such a history at each step from the state the step is taken in and its
label; the history decides nothing, so the recorded machine has the runs of the machine itself
(`Machine.run_record_iff`).

`Protocol.prod` is two protocols at once. Programs that follow each of them follow both, so an
invariant may use what either says about the threads.
-/

namespace Redfin.Program

open Function

/-! ## Two protocols at once -/

/-- The protocol that permits what both permit, and follows the state of each. -/
def Protocol.prod {S : Sig} {Q R : Type} (A : Protocol S Q) (B : Protocol S R) :
    Protocol S (Q × R) where
  ok q o := A.ok q.1 o ∧ B.ok q.2 o
  next q o r := (A.next q.1 o r, B.next q.2 o r)

/-- A program that follows two protocols follows both side by side. -/
lemma Prog.Follows.prod {S : Sig} {Q R α : Type} {A : Protocol S Q} {B : Protocol S R}
    {p : Prog S α} {q : Q} {r : R} {post : α → Q → Prop} {post' : α → R → Prop}
    (ha : p.Follows A q post) (hb : p.Follows B r post') :
    p.Follows (A.prod B) (q, r) fun a x => post a x.1 ∧ post' a x.2 := by
  induction p generalizing q r with
  | ret a => exact ⟨ha, hb⟩
  | op o k ih => exact ⟨⟨ha.1, hb.1⟩, fun res => ih res (ha.2 res) (hb.2 res)⟩

/-- A state of a machine with a history. -/
def Config.withHistory {S : Sig} {T L σ η : Type} (c : Config S T L σ) (h : η) :
    Config S T L (σ × η) := ⟨(c.shared, h), c.prog⟩

/-- The history hides nothing of the configuration. -/
lemma withHistory_inj {S : Sig} {T L σ η : Type} {c c' : Config S T L σ} {h h' : η}
    (e : c.withHistory h = c'.withHistory h') : c = c' := by
  obtain ⟨s, p⟩ := c
  obtain ⟨s', p'⟩ := c'
  cases e
  exact rfl

namespace Machine

variable {S : Sig} {T L C E σ η Q R : Type} {M : Machine S T L C E σ}

/-- Threads that obey two protocols obey both side by side. -/
lemma Obeys.prod {A : T → Protocol S Q} {B : T → Protocol S R} {restA : T → L → Q}
    {restB : T → L → R} (ha : M.Obeys A restA) (hb : M.Obeys B restB) :
    M.Obeys (fun t => (A t).prod (B t)) fun t l => (restA t l, restB t l) := by
  intro t l x s p s' h
  exact (ha t l x s p s' h).prod (hb t l x s p s' h) |>.mono fun _ _ e => Prod.ext e.1 e.2

section

variable [DecidableEq T]

/-- A step under two protocols is one under the first. -/
lemma PStep.fst {A : T → Protocol S Q} {B : T → Protocol S R} {restA : T → L → Q}
    {restB : T → L → R} {s s' : σ} {q q' : T → Q × R} {l : Label S T C E}
    (st : M.PStep (fun t => (A t).prod (B t)) (fun t l => (restA t l, restB t l)) s q l s' q') :
    M.PStep A restA s (Prod.fst ∘ q) l s' (Prod.fst ∘ q') := by
  cases st with
  | act ok st =>
    rw [comp_update]
    exact .act ok.1 st
  | go hq st => exact .go (congrArg Prod.fst hq) st
  | env st => exact .env st

/-- A step under two protocols is one under the second. -/
lemma PStep.snd {A : T → Protocol S Q} {B : T → Protocol S R} {restA : T → L → Q}
    {restB : T → L → R} {s s' : σ} {q q' : T → Q × R} {l : Label S T C E}
    (st : M.PStep (fun t => (A t).prod (B t)) (fun t l => (restA t l, restB t l)) s q l s' q') :
    M.PStep B restB s (Prod.snd ∘ q) l s' (Prod.snd ∘ q') := by
  cases st with
  | act ok st =>
    rw [comp_update]
    exact .act ok.2 st
  | go hq st => exact .go (congrArg Prod.snd hq) st
  | env st => exact .env st

end

/-! ## A history beside the shared state -/

/-- The machine with a history that `note` updates at each step. -/
def record (M : Machine S T L C E σ) (note : σ → Label S T C E → η → η) :
    Machine S T L C E (σ × η) where
  act t o r x := (M.act t o r x.1).map fun s => (s, note x.1 (.act t o r) x.2)
  go t l c x := (M.go t l c x.1).map fun ps => (ps.1, ps.2, note x.1 (.go t c) x.2)
  env e x := (M.env e x.1).map fun s => (s, note x.1 (.env e) x.2)

variable {note : σ → Label S T C E → η → η}

/-- Beginning a turn with a history is beginning it without, and noting it. -/
lemma go_record {t : T} {l : L} {c : C} {x x' : σ × η} {p : Prog S L}
    (h : (M.record note).go t l c x = some (p, x')) :
    M.go t l c x.1 = some (p, x'.1) ∧ x'.2 = note x.1 (.go t c) x.2 := by
  obtain ⟨⟨p', s⟩, hs, e⟩ := Option.map_eq_some_iff.mp h
  cases e
  exact ⟨hs, rfl⟩

/-- The threads take up the same programs. -/
lemma Obeys.record {A : T → Protocol S Q} {rest : T → L → Q} (h : M.Obeys A rest) :
    (M.record note).Obeys A rest :=
  fun t l c _ p _ hx => h t l c _ p _ (go_record hx).1

section

variable [DecidableEq T]

/-- A step of the recorded machine is one of the machine itself, and is noted. -/
lemma PStep.of_record {A : T → Protocol S Q} {rest : T → L → Q} {x x' : σ × η} {q q' : T → Q}
    {l : Label S T C E} (st : (M.record note).PStep A rest x q l x' q') :
    M.PStep A rest x.1 q l x'.1 q' ∧ x'.2 = note x.1 l x.2 := by
  cases st with
  | act ok st =>
    obtain ⟨s, hs, rfl⟩ := Option.map_eq_some_iff.mp st
    exact ⟨.act ok hs, rfl⟩
  | go hq st =>
    obtain ⟨hs, e⟩ := go_record st
    exact ⟨.go hq hs, e⟩
  | env st =>
    obtain ⟨s, hs, rfl⟩ := Option.map_eq_some_iff.mp st
    exact ⟨.env hs, rfl⟩

variable [DecidableEq S.Op]

/-- The recorded machine takes the step that the machine takes, and notes it. -/
lemma step_record (c : Config S T L σ) (h : η) (l : Label S T C E) :
    (M.record note).step (c.withHistory h) l =
      (M.step c l).map fun c' => c'.withHistory (note c.shared l h) := by
  cases l with
  | act t o r =>
    simp only [step, Config.withHistory]
    split
    · rfl
    · split
      · simp only [record, Option.map_map]
        rfl
      · rfl
  | go t x =>
    simp only [step, Config.withHistory]
    split
    · simp only [record, Option.map_map]
      rfl
    · rfl
  | env e =>
    simp only [step, Config.withHistory, record, Option.map_map]
    rfl

/-- The history decides nothing. -/
theorem run_record_iff {G : σ → Label S T C E → Prop} {c₀ c : Config S T L σ} {h₀ : η} :
    (∃ h, (M.record note).Run (fun x l => G x.1 l) (c₀.withHistory h₀) (c.withHistory h)) ↔
      M.Run G c₀ c := by
  constructor
  · rintro ⟨h, run⟩
    generalize e : c.withHistory h = d at run
    induction run generalizing c h with
    | refl =>
      obtain rfl : c = c₀ := withHistory_inj e
      exact .refl
    | @tail d d' l _ hG st ih =>
      subst e
      have before : d = Config.withHistory ⟨d.shared.1, d.prog⟩ d.shared.2 := rfl
      rw [before, step_record] at st
      obtain ⟨c', hc', e⟩ := Option.map_eq_some_iff.mp st
      obtain rfl : c' = c := withHistory_inj e
      exact (ih d.shared.2 before.symm).tail hG hc'
  · intro run
    induction run with
    | refl => exact ⟨h₀, .refl⟩
    | @tail c c' l _ hG st ih =>
      obtain ⟨h, run⟩ := ih
      exact ⟨note c.shared l h, run.tail hG (by rw [step_record, st]; rfl)⟩

end

end Machine

end Redfin.Program
