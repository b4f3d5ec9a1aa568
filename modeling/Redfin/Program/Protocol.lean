import Redfin.Program.Basic

/-!
# Protocols of operations

A protocol is an automaton over the operations of a signature: in each state it permits some
operations, and the result of an operation decides its next state. `Prog.Follows` says that a
program performs only permitted operations, whatever their results, and that a postcondition holds
where it returns. It is to a program what a type is to a term: it is derived once along the
structure of the program, and proofs about many programs running together then need only the
protocol (`Redfin.Program.Threads`).
-/

namespace Redfin.Program

/-- An automaton over operations: which it permits in a state, and where each result leads. -/
structure Protocol (S : Sig) (Q : Type) where
  ok : Q → S.Op → Prop
  next : Q → (o : S.Op) → S.Res o → Q

/-- An operation that the protocol permits in the state `q` and that leaves it there. -/
def Protocol.Neutral {S : Sig} {Q : Type} (A : Protocol S Q) (q : Q) (o : S.Op) : Prop :=
  A.ok q o ∧ ∀ r, A.next q o r = q

/-- The protocol that permits the operations with the property `P`, and has no state. -/
def Protocol.always {S : Sig} (P : S.Op → Prop) : Protocol S Unit where
  ok _ := P
  next _ _ _ := ()

namespace Prog

variable {S : Sig} {Q α β σ : Type} {A : Protocol S Q}

/-- Started in the state `q`, the program keeps to the protocol and returns with `post`. -/
def Follows (A : Protocol S Q) : Prog S α → Q → (α → Q → Prop) → Prop
  | .ret a, q, post => post a q
  | .op o k, q, post => A.ok q o ∧ ∀ r, (k r).Follows A (A.next q o r) post

/-- A program that has ended follows every protocol; its result is to fit the state. -/
@[simp] lemma follows_ret (a : α) (q : Q) (post : α → Q → Prop) :
    (Prog.ret a : Prog S α).Follows A q post ↔ post a q := Iff.rfl

/-- A program follows a protocol if its first operation is allowed and the rest follows it on. -/
@[simp] lemma follows_op (o : S.Op) (k : S.Res o → Prog S α) (q : Q) (post : α → Q → Prop) :
    (Prog.op o k).Follows A q post ↔ A.ok q o ∧ ∀ r, (k r).Follows A (A.next q o r) post :=
  Iff.rfl

/-- A call follows a protocol that allows its operation. -/
@[simp] lemma follows_call (o : S.Op) (q : Q) (post : S.Res o → Q → Prop) :
    (call o).Follows A q post ↔ A.ok q o ∧ ∀ r, post r (A.next q o r) := Iff.rfl

/-- A program keeps to the protocol with any weaker postcondition. -/
lemma Follows.mono {p : Prog S α} {q : Q} {post post' : α → Q → Prop}
    (hp : p.Follows A q post) (h : ∀ a q', post a q' → post' a q') : p.Follows A q post' := by
  induction p generalizing q with
  | ret a => exact h a q hp
  | op o k ih => exact ⟨hp.1, fun r => ih r (hp.2 r)⟩

/-- A sequence follows the protocol if its second part does so where the first returns. -/
lemma follows_bind (p : Prog S α) (k : α → Prog S β) (q : Q) (post : β → Q → Prop) :
    (p >>= k).Follows A q post ↔ p.Follows A q fun a q' => (k a).Follows A q' post := by
  induction p generalizing q with
  | ret a => rfl
  | op o f ih => exact and_congr Iff.rfl (forall_congr' fun r => ih r _)

/-- The rule for sequencing: the second part starts where the first returns. -/
lemma Follows.bind {p : Prog S α} {k : α → Prog S β} {q : Q} {mid : α → Q → Prop}
    {post : β → Q → Prop} (hp : p.Follows A q mid)
    (hk : ∀ a q', mid a q' → (k a).Follows A q' post) : (p >>= k).Follows A q post :=
  (follows_bind p k q post).mpr (hp.mono hk)

/-- A neutral operation does not matter. -/
lemma follows_neutral {o : S.Op} {k : S.Res o → Prog S α} {q : Q} {post : α → Q → Prop}
    (ho : A.Neutral q o) (hk : ∀ r, (k r).Follows A q post) : (Prog.op o k).Follows A q post := by
  refine ⟨ho.1, fun r => ?_⟩
  rw [ho.2 r]
  exact hk r

/-- A program of neutral operations returns in the state it was started in. -/
lemma All.follows {p : Prog S α} {q : Q} {post : α → Q → Prop} (hp : p.All (A.Neutral q))
    (h : ∀ a, post a q) : p.Follows A q post := by
  induction p with
  | ret a => exact h a
  | op o k ih =>
    refine ⟨hp.1.1, fun r => ?_⟩
    rw [hp.1.2 r]
    exact ih r (hp.2 r)

/-- A neutral first part of a sequence does not matter. -/
lemma All.follows_bind {p : Prog S α} {k : α → Prog S β} {q : Q} {post : β → Q → Prop}
    (hp : p.All (A.Neutral q)) (hk : ∀ a, (k a).Follows A q post) :
    (p >>= k).Follows A q post :=
  (Prog.follows_bind p k q post).mpr (hp.follows hk)

/-! ## What a program comes to -/

/-- With the expected results the program comes to an operation that is one of the last, and
performs none before it that is not permitted. -/
def Reaches (permitted : S.Op → Prop) (expected : (o : S.Op) → S.Res o → Prop)
    (last : S.Op → Prop) : Prog S α → Prop
  | .ret _ => False
  | .op o k =>
    last o ∨ permitted o ∧ ∀ r, expected o r → (k r).Reaches permitted expected last

/-- A program that follows a protocol comes to a last operation, if it cannot return before it and
each step towards it is permitted. -/
lemma Follows.reaches {permitted last : S.Op → Prop} {expected : (o : S.Op) → S.Res o → Prop}
    {D : Q → Prop} {p : Prog S α} {q : Q} {post : α → Q → Prop} (hp : p.Follows A q post)
    (step : ∀ q o, D q → A.ok q o → last o ∨ permitted o ∧ ∀ r, expected o r → D (A.next q o r))
    (ends : ∀ a q, post a q → ¬D q) (hq : D q) : p.Reaches permitted expected last := by
  induction p generalizing q with
  | ret a => exact ends a q hp hq
  | op o k ih =>
    exact (step q o hq hp.1).imp_right fun h =>
      ⟨h.1, fun r expect => ih r (hp.2 r) (h.2 r expect)⟩

/-- The property holds of every operation of the program with what follows it. -/
def Each (P : (o : S.Op) → (S.Res o → Prog S α) → Prop) : Prog S α → Prop
  | .ret _ => True
  | .op o k => P o k ∧ ∀ r, (k r).Each P

/-- A property that every operation has with whatever follows it. -/
lemma each_of_forall {P : (o : S.Op) → (S.Res o → Prog S α) → Prop} (h : ∀ o k, P o k)
    (p : Prog S α) : p.Each P := by
  induction p with
  | ret a => exact trivial
  | op o k ih => exact ⟨h o k, ih⟩

/-- A property of the operations alone. -/
lemma All.each {P : S.Op → Prop} {P' : (o : S.Op) → (S.Res o → Prog S α) → Prop} {p : Prog S α}
    (hp : p.All P) (h : ∀ o k, P o → P' o k) : p.Each P' := by
  induction p with
  | ret a => exact trivial
  | op o k ih => exact ⟨h o k hp.1, fun r => ih r (hp.2 r)⟩

/-! ## A property of all operations

The protocol with one state: `Follows (.always P) ()` is `All P` with a postcondition, for programs
whose operations depend on values computed before. -/

/-- The protocol that always asks the same asks it of every operation. -/
lemma Follows.all {P : S.Op → Prop} {p : Prog S α} {post : α → Unit → Prop}
    (hp : p.Follows (.always P) () post) : p.All P := by
  induction p with
  | ret a => trivial
  | op o k ih => exact ⟨hp.1, fun r => ih r (hp.2 r)⟩

/-- What the protocol that always asks the same asks holds along every run. -/
lemma Follows.forall_trace {P : S.Op → Prop} {p : Prog S α} {post : α → Unit → Prop}
    (hp : p.Follows (.always P) () post) (h : Handler S σ) (s : σ) :
    ∀ e ∈ p.trace h s, P e.2 :=
  hp.all.trace h s

end Prog

end Redfin.Program
