import Mathlib.Tactic.Common

/-!
# Programs over a signature of operations

A program is a finite tree of operations, each of them continued by its result: the control flow
of a function that asks its environment (the kernel, a library, another thread) for everything it
does not compute itself. The signature says which operations there are and what each returns; what
the operations do is not part of the program. Programs form a monad, so a function of the source is
written in `do` notation in the order of its statements.

`Prog.exec` runs a program against a handler, which answers each operation and updates a state;
`Prog.trace` lists the operations the run performs, each with the state it was performed in. A
handler that gives no answer ends the run there (an aborted process, a call that never returns).
`Prog.All P` says that every operation of the program, on every path, satisfies `P`.
`Prog.outputs` lists what some of the operations of a run make visible.
-/

namespace Redfin.Program

/-- A signature: the operations and the type of the results of each. -/
structure Sig where
  Op : Type
  Res : Op → Type

/-- A program over the signature `S` that returns a value of type `α`. -/
inductive Prog (S : Sig) (α : Type) where
  | ret (a : α) : Prog S α
  | op (o : S.Op) (k : S.Res o → Prog S α) : Prog S α

/-- Answers to operations, with the state after each; no answer ends the run. -/
abbrev Handler (S : Sig) (σ : Type) := (o : S.Op) → σ → Option (S.Res o) × σ

namespace Prog

variable {S : Sig} {σ α β γ : Type}

/-- Sequencing: the program `k` goes on where `p` returns. -/
def bind (p : Prog S α) (k : α → Prog S β) : Prog S β :=
  match p with
  | .ret a => k a
  | .op o f => .op o fun r => (f r).bind k

instance : Monad (Prog S) where
  pure := .ret
  bind := bind

/-- The program that performs one operation and returns its result. -/
def call (o : S.Op) : Prog S (S.Res o) := .op o .ret

/-- `return` is the program that has ended. -/
@[simp] lemma pure_eq (a : α) : (pure a : Prog S α) = .ret a := rfl

/-- Where a program has ended, the next one begins with its value. -/
@[simp] lemma ret_bind (a : α) (k : α → Prog S β) : (Prog.ret a >>= k) = k a := rfl

/-- The first operation of a program is the first of what it is part of. -/
@[simp] lemma op_bind (o : S.Op) (f : S.Res o → Prog S α) (k : α → Prog S β) :
    (Prog.op o f >>= k) = .op o fun r => f r >>= k := rfl

/-- After one operation the program goes on with its result. -/
@[simp] lemma call_bind (o : S.Op) (k : S.Res o → Prog S β) : (call o >>= k) = .op o k := rfl

/-- Returning what a program returns adds nothing to it. -/
lemma bind_ret (p : Prog S α) : (p >>= Prog.ret) = p := by
  induction p with
  | ret a => rfl
  | op o f ih => exact congrArg (Prog.op o) (funext ih)

/-- Sequencing is associative. -/
lemma bind_assoc (p : Prog S α) (f : α → Prog S β) (g : β → Prog S γ) :
    ((p >>= f) >>= g) = (p >>= fun a => f a >>= g) := by
  induction p with
  | ret a => rfl
  | op o k ih => exact congrArg (Prog.op o) (funext ih)

instance : LawfulMonad (Prog S) :=
  LawfulMonad.mk' (Prog S) bind_ret (fun _ _ => rfl) bind_assoc

/-- The operation the program performs next. -/
def head? : Prog S α → Option S.Op
  | .ret _ => none
  | .op o _ => some o

/-- A program with a first operation begins with it. -/
lemma eq_op_of_head? {p : Prog S α} {o : S.Op} (h : p.head? = some o) : ∃ k, p = .op o k := by
  cases p with
  | ret a => cases h
  | op o' k =>
    obtain rfl := Option.some.inj h
    exact ⟨k, rfl⟩

/-! ## Every operation of a program -/

/-- Every operation on every path of the program satisfies `P`. -/
def All (P : S.Op → Prop) : Prog S α → Prop
  | .ret _ => True
  | .op o k => P o ∧ ∀ r, (k r).All P

/-- A program that has ended performs no operation. -/
@[simp] lemma all_ret (P : S.Op → Prop) (a : α) : (Prog.ret a : Prog S α).All P := trivial

/-- All operations are the first one and those of what follows, whatever its result is. -/
@[simp] lemma all_op (P : S.Op → Prop) (o : S.Op) (k : S.Res o → Prog S α) :
    (Prog.op o k).All P ↔ P o ∧ ∀ r, (k r).All P := Iff.rfl

/-- A call performs one operation. -/
@[simp] lemma all_call (P : S.Op → Prop) (o : S.Op) : (call o).All P ↔ P o :=
  ⟨And.left, fun h => ⟨h, fun _ => trivial⟩⟩

/-- Sequencing keeps a property that all operations of both parts have. -/
lemma All.bind {P : S.Op → Prop} {p : Prog S α} {k : α → Prog S β}
    (hp : p.All P) (hk : ∀ a, (k a).All P) : (p >>= k).All P := by
  induction p with
  | ret a => exact hk a
  | op o f ih => exact ⟨hp.1, fun r => ih r (hp.2 r)⟩

/-- A weaker property holds of every operation too. -/
lemma All.mono {P Q : S.Op → Prop} {p : Prog S α} (h : ∀ o, P o → Q o) (hp : p.All P) :
    p.All Q := by
  induction p with
  | ret a => trivial
  | op o k ih => exact ⟨h o hp.1, fun r => ih r (hp.2 r)⟩

/-! ## Running against a handler -/

/-- Run the program: its value, if the handler answers every operation, and the last state. -/
def exec (h : Handler S σ) : Prog S α → σ → Option α × σ
  | .ret a, s => (some a, s)
  | .op o k, s =>
    match h o s with
    | (some r, s') => (k r).exec h s'
    | (none, s') => (none, s')

/-- The operations of the run, each with the state it is performed in. -/
def trace (h : Handler S σ) : Prog S α → σ → List (σ × S.Op)
  | .ret _, _ => []
  | .op o k, s =>
    (s, o) :: match h o s with
      | (some r, s') => (k r).trace h s'
      | (none, _) => []

/-- A program that has ended changes nothing. -/
@[simp] lemma exec_ret (h : Handler S σ) (a : α) (s : σ) : (Prog.ret a).exec h s = (some a, s) :=
  rfl

/-- An answered operation is one step of the run. -/
lemma exec_op {h : Handler S σ} {o : S.Op} {s s' : σ} {r : S.Res o} (k : S.Res o → Prog S α)
    (e : h o s = (some r, s')) : (Prog.op o k).exec h s = (k r).exec h s' := by
  simp only [exec, e]

/-- A handler that always answers lets every program return. -/
lemma exists_exec {h : Handler S σ} (total : ∀ o s, ∃ r s', h o s = (some r, s')) (p : Prog S α)
    (s : σ) : ∃ a s', p.exec h s = (some a, s') := by
  induction p generalizing s with
  | ret a => exact ⟨a, s, rfl⟩
  | op o k ih =>
    obtain ⟨r, s', e⟩ := total o s
    rw [exec_op k e]
    exact ih r s'

/-- A run of a sequence is a run of its first part and, where that returns, of the second. -/
lemma exec_bind (h : Handler S σ) (p : Prog S α) (k : α → Prog S β) (s : σ) :
    (p >>= k).exec h s =
      match p.exec h s with
      | (some a, s') => (k a).exec h s'
      | (none, s') => (none, s') := by
  induction p generalizing s with
  | ret a => rfl
  | op o f ih =>
    simp only [op_bind, exec]
    rcases h o s with ⟨_ | r, s'⟩
    · rfl
    · exact ih r s'

/-- Where the first program has ended, the second one runs on from there. -/
lemma exec_bind_of {h : Handler S σ} {p : Prog S α} {s s' : σ} {a : α} (k : α → Prog S β)
    (e : p.exec h s = (some a, s')) : (p >>= k).exec h s = (k a).exec h s' := by
  rw [exec_bind, e]

/-- A sequence returns if both of its parts do. -/
lemma exec_bind_eq_some_iff {h : Handler S σ} {p : Prog S α} {k : α → Prog S β} {s s' : σ}
    {b : β} :
    (p >>= k).exec h s = (some b, s') ↔
      ∃ a s₁, p.exec h s = (some a, s₁) ∧ (k a).exec h s₁ = (some b, s') := by
  constructor
  · intro run
    rw [exec_bind] at run
    rcases first : p.exec h s with ⟨_ | a, s₁⟩
    · rw [first] at run
      exact absurd (congrArg Prod.fst run).symm (Option.some_ne_none b)
    · rw [first] at run
      exact ⟨a, s₁, rfl, run⟩
  · rintro ⟨a, s₁, first, second⟩
    rw [exec_bind_of k first, second]

/-- A program that has ended leaves no trace. -/
@[simp] lemma trace_ret (h : Handler S σ) (a : α) (s : σ) : (Prog.ret a).trace h s = [] := rfl

/-- An answered operation heads the trace of the rest. -/
lemma trace_op {h : Handler S σ} {o : S.Op} {s s' : σ} {r : S.Res o} (k : S.Res o → Prog S α)
    (e : h o s = (some r, s')) : (Prog.op o k).trace h s = (s, o) :: (k r).trace h s' := by
  simp only [trace, e]

/-- The trace of a sequence. -/
lemma trace_bind (h : Handler S σ) (p : Prog S α) (k : α → Prog S β) (s : σ) :
    (p >>= k).trace h s =
      p.trace h s ++
        match p.exec h s with
        | (some a, s') => (k a).trace h s'
        | (none, _) => [] := by
  induction p generalizing s with
  | ret a => rfl
  | op o f ih =>
    simp only [op_bind, trace, exec]
    rcases h o s with ⟨_ | r, s'⟩
    · rfl
    · simp only [ih r s', List.cons_append]

/-- A function of a run's value leaves its operations and its last state alone. -/
lemma trace_map (h : Handler S σ) (f : α → β) (p : Prog S α) (s : σ) :
    (f <$> p).trace h s = p.trace h s := by
  rw [map_eq_pure_bind, trace_bind]
  split <;> exact List.append_nil _

/-- Mapping the value of a program leaves its run as it is. -/
lemma exec_map (h : Handler S σ) (f : α → β) (p : Prog S α) (s : σ) :
    (f <$> p).exec h s = ((p.exec h s).1.map f, (p.exec h s).2) := by
  rw [map_eq_pure_bind, exec_bind]
  rcases p.exec h s with ⟨_ | a, s'⟩
  · rfl
  · rfl

/-- Something holds along a sequence if it holds along both parts. -/
lemma forall_trace_bind {h : Handler S σ} {p : Prog S α} {k : α → Prog S β} {s s' : σ} {a : α}
    {P : σ × S.Op → Prop} (e : p.exec h s = (some a, s')) :
    (∀ x ∈ (p >>= k).trace h s, P x) ↔
      (∀ x ∈ p.trace h s, P x) ∧ ∀ x ∈ (k a).trace h s', P x := by
  simp only [trace_bind, e, List.forall_mem_append]

/-- The rule for a sequence: the second part is looked at only where the first returns. -/
lemma forall_trace_bind_of {h : Handler S σ} {p : Prog S α} {k : α → Prog S β} {s : σ}
    {P : σ × S.Op → Prop} (hp : ∀ x ∈ p.trace h s, P x)
    (hk : ∀ a s', p.exec h s = (some a, s') → ∀ x ∈ (k a).trace h s', P x) :
    ∀ x ∈ (p >>= k).trace h s, P x := by
  intro x hx
  rw [trace_bind] at hx
  rcases List.mem_append.mp hx with first | second
  · exact hp x first
  · rcases run : p.exec h s with ⟨_ | a, s'⟩
    · rw [run] at second
      exact absurd second List.not_mem_nil
    · rw [run] at second
      exact hk a s' run x second

/-- What holds of every operation of a program holds of those a run performs. -/
lemma All.trace {P : S.Op → Prop} {p : Prog S α} (hp : p.All P) (h : Handler S σ) (s : σ) :
    ∀ e ∈ p.trace h s, P e.2 := by
  induction p generalizing s with
  | ret a => intro e he; cases he
  | op o k ih =>
    intro e he
    simp only [Prog.trace, List.mem_cons] at he
    rcases he with rfl | he
    · exact hp.1
    · revert he
      rcases h o s with ⟨_ | r, s'⟩
      · intro he; cases he
      · exact ih r (hp.2 r) s' e

/-- Operations that leave the state alone leave it alone one after the other. -/
lemma All.exec_state {P : S.Op → Prop} {p : Prog S α} {h : Handler S σ} (hp : p.All P)
    (keep : ∀ o s, P o → (h o s).2 = s) (s : σ) : (p.exec h s).2 = s := by
  induction p generalizing s with
  | ret a => rfl
  | op o k ih =>
    have e := keep o s hp.1
    simp only [exec]
    cases hr : h o s with
    | mk r s' =>
      rw [hr] at e
      obtain rfl : s' = s := e
      cases r with
      | none => rfl
      | some r => exact ih r (hp.2 r) s'

/-! ## What a run puts out -/

/-- What the operations of the run put out, for operations of which some put something out. -/
def outputs (out : S.Op → Option β) (h : Handler S σ) (p : Prog S α) (s : σ) : List β :=
  (p.trace h s).filterMap fun e => out e.2

/-- A program that has ended puts nothing out. -/
@[simp] lemma outputs_ret (out : S.Op → Option β) (h : Handler S σ) (a : α) (s : σ) :
    (Prog.ret a : Prog S α).outputs out h s = [] := rfl

/-- An answered operation puts out what it does, before the rest. -/
lemma outputs_op {out : S.Op → Option β} {h : Handler S σ} {o : S.Op} {s s' : σ} {r : S.Res o}
    (k : S.Res o → Prog S α) (e : h o s = (some r, s')) :
    (Prog.op o k).outputs out h s = (out o).toList ++ (k r).outputs out h s' := by
  rw [outputs, trace_op k e, List.filterMap_cons]
  cases out o with
  | none => rfl
  | some b => rfl

/-- An answered operation that puts nothing out. -/
lemma outputs_silent {out : S.Op → Option β} {h : Handler S σ} {o : S.Op} {s s' : σ} {r : S.Res o}
    {k : S.Res o → Prog S α} (ho : out o = none) (e : h o s = (some r, s')) :
    (Prog.op o k).outputs out h s = (k r).outputs out h s' := by
  rw [outputs_op k e, ho]
  rfl

/-- The output of a sequence is that of its first part and then that of its second. -/
lemma outputs_bind {out : S.Op → Option β} {h : Handler S σ} {p : Prog S α} {s s' : σ} {a : α}
    (k : α → Prog S γ) (e : p.exec h s = (some a, s')) :
    (p >>= k).outputs out h s = p.outputs out h s ++ (k a).outputs out h s' := by
  simp only [outputs, trace_bind, e, List.filterMap_append]

/-- A run of a sequence, wherever its first part ends, puts out what both parts do. -/
lemma outputs_bind_eq (out : S.Op → Option β) (h : Handler S σ) (p : Prog S α) (k : α → Prog S γ)
    (s : σ) :
    (p >>= k).outputs out h s =
      p.outputs out h s ++
        match p.exec h s with
        | (some a, s') => (k a).outputs out h s'
        | (none, _) => [] := by
  simp only [outputs, trace_bind, List.filterMap_append]
  rcases p.exec h s with ⟨_ | a, s'⟩ <;> exact rfl

/-- Operations that put nothing out put nothing out one after the other. -/
lemma All.outputs {out : S.Op → Option β} {p : Prog S α} (hp : p.All fun o => out o = none)
    (h : Handler S σ) (s : σ) : p.outputs out h s = [] :=
  List.filterMap_eq_nil_iff.mpr (hp.trace h s)

end Prog

end Redfin.Program
