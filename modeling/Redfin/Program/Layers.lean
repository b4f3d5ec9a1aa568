import Redfin.Program.Basic

/-!
# Layers

An operation of a program may itself be done by a program, over the signature of a lower layer.
`Prog.implement` puts such programs in the place of the operations. Where each of them does what a
handler of the upper layer says, up to a relation between the states of the two layers
(`Implements`), the implemented program does what the program does under that handler
(`Implements.exec`), and what it makes visible is the same.
-/

namespace Redfin.Program

variable {S T : Sig} {σ τ α β γ : Type}

namespace Prog

/-- The program with each operation done by a program of the layer below. -/
def implement (f : (o : S.Op) → Prog T (S.Res o)) : Prog S α → Prog T α
  | .ret a => .ret a
  | .op o k => f o >>= fun r => (k r).implement f

/-- There is nothing to implement in a program that has ended. -/
@[simp] lemma implement_ret (f : (o : S.Op) → Prog T (S.Res o)) (a : α) :
    (Prog.ret a).implement f = .ret a := rfl

/-- The first operation is implemented first, and what follows it afterwards. -/
lemma implement_op (f : (o : S.Op) → Prog T (S.Res o)) (o : S.Op) (k : S.Res o → Prog S α) :
    (Prog.op o k).implement f = f o >>= fun r => (k r).implement f := rfl

/-- A sequence is implemented part by part. -/
lemma implement_bind (f : (o : S.Op) → Prog T (S.Res o)) (p : Prog S α) (k : α → Prog S γ) :
    (p >>= k).implement f = p.implement f >>= fun a => (k a).implement f := by
  induction p with
  | ret a => exact rfl
  | op o k' ih =>
    rw [op_bind, implement_op, implement_op, bind_assoc]
    exact congrArg (f o >>= ·) (funext ih)

/-- The operations of the lower layer are those of the implementations. -/
lemma All.implement {P : S.Op → Prop} {Q : T.Op → Prop} {f : (o : S.Op) → Prog T (S.Res o)}
    (hf : ∀ o, P o → (f o).All Q) {p : Prog S α} (hp : p.All P) : (p.implement f).All Q := by
  induction p with
  | ret a => trivial
  | op o k ih => exact (hf o hp.1).bind fun r => ih r (hp.2 r)

end Prog

/-- From related states the programs for the operations that satisfy `P` do what the handler of the
upper layer says, and put out the same. -/
def Implements (P : S.Op → Prop) (R : σ → τ → Prop) (f : (o : S.Op) → Prog T (S.Res o))
    (h : Handler T σ) (g : Handler S τ) (out : T.Op → Option β) (out' : S.Op → Option β) : Prop :=
  ∀ o s t, P o → R s t →
    ∃ s', (f o).exec h s = ((g o t).1, s') ∧ R s' (g o t).2 ∧
      (f o).outputs out h s = (out' o).toList

/-- A program whose run performs such operations only does what its implementation does. -/
theorem Implements.exec {P : S.Op → Prop} {R : σ → τ → Prop} {f : (o : S.Op) → Prog T (S.Res o)}
    {h : Handler T σ} {g : Handler S τ} {out : T.Op → Option β} {out' : S.Op → Option β}
    (imp : Implements P R f h g out out') {p : Prog S α} {s : σ} {t : τ}
    (hp : ∀ e ∈ p.trace g t, P e.2) (hr : R s t) :
    ∃ s', (p.implement f).exec h s = ((p.exec g t).1, s') ∧ R s' (p.exec g t).2 ∧
      (p.implement f).outputs out h s = p.outputs out' g t := by
  induction p generalizing s t with
  | ret a => exact ⟨s, rfl, hr, rfl⟩
  | op o k ih =>
    have ho : P o := by
      apply hp (t, o)
      rw [Prog.trace]
      exact List.mem_cons_self
    obtain ⟨s₁, done, hr₁, put⟩ := imp o s t ho hr
    rw [Prog.implement_op, Prog.exec_bind, Prog.outputs_bind_eq, done, put]
    rcases e : g o t with ⟨_ | r, t'⟩
    · have stop : (Prog.op o k).exec g t = (none, t') := by
        rw [Prog.exec, e]
      have last : (Prog.op o k).outputs out' g t = (out' o).toList := by
        rw [Prog.outputs, Prog.trace, e, List.filterMap_cons, List.filterMap_nil]
        cases out' o <;> exact rfl
      rw [e] at hr₁
      rw [stop, last]
      exact ⟨s₁, rfl, hr₁, List.append_nil _⟩
    · rw [e] at hr₁
      have rest : ∀ x ∈ (k r).trace g t', P x.2 := by
        intro x hx
        apply hp x
        rw [Prog.trace_op k e]
        exact List.mem_cons_of_mem _ hx
      obtain ⟨s', run, hr', put'⟩ := ih r rest hr₁
      rw [Prog.exec_op k e, Prog.outputs_op k e]
      exact ⟨s', run, hr', congrArg _ put'⟩

end Redfin.Program
