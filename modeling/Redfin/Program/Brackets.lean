import Mathlib.Data.Finset.Basic
import Redfin.Program.History

/-!
# Brackets

Some operations open a bracket (they switch something over, take something out, stop something)
and others close it again. A program is balanced if on every path it opens no bracket that is open,
closes only brackets it has opened, and returns with all of them closed.

The open brackets of each thread of a machine can be recorded beside its shared state
(`Machine.noteBrackets`); where the programs keep to them they are those that the protocol follows
(`Machine.PStep.noteBrackets`).
-/

namespace Redfin.Program

open Function

/-- What an operation does to the brackets: it opens or closes one; or it is the last operation of
a thread, before which all have to be closed; or the thread must not perform it. -/
inductive Mark (B : Type) where
  | neutral
  | opens (b : B)
  | closes (b : B)
  | last
  | never
deriving DecidableEq

/-- What each operation of a signature does to the brackets, for each result. -/
abbrev Brackets (S : Sig) (B : Type) := (o : S.Op) → S.Res o → Mark B

namespace Mark

variable {B : Type}

/-- A bracket is opened if it is not open, and closed if it is. -/
def ok (opened : Finset B) : Mark B → Prop
  | .neutral => True
  | .opens b => b ∉ opened
  | .closes b => b ∈ opened
  | .last => opened = ∅
  | .never => False

variable [DecidableEq B]

/-- The brackets that are open after an operation. -/
def next (opened : Finset B) : Mark B → Finset B
  | .opens b => insert b opened
  | .closes b => opened.erase b
  | _ => opened

/-- A bracket stays open that is not closed. -/
lemma mem_next {opened : Finset B} {m : Mark B} {b : B} (h : m ≠ .closes b) (hb : b ∈ opened) :
    b ∈ m.next opened := by
  cases m with
  | opens b' => exact Finset.mem_insert_of_mem hb
  | closes b' => exact Finset.mem_erase.mpr ⟨fun e => h (e ▸ rfl), hb⟩
  | neutral => exact hb
  | last => exact hb
  | never => exact hb

end Mark

/-- The protocol whose states are the open brackets. -/
def Brackets.protocol {S : Sig} {B : Type} [DecidableEq B] (mark : Brackets S B) :
    Protocol S (Finset B) where
  ok q o := ∀ r, (mark o r).ok q
  next q o r := (mark o r).next q

/-- The operation does nothing to the brackets. -/
def Brackets.Quiet {S : Sig} {B : Type} (mark : Brackets S B) (o : S.Op) : Prop :=
  ∀ r, mark o r = .neutral

variable {S : Sig} {B : Type} [DecidableEq B] {mark : Brackets S B}

/-- An operation without brackets changes nothing of what is held. -/
lemma Brackets.Quiet.neutral {q : Finset B} {o : S.Op} (h : mark.Quiet o) :
    mark.protocol.Neutral q o := by
  constructor
  · intro r
    rw [h r]
    exact trivial
  · intro r
    show (mark o r).next q = q
    rw [h r]
    rfl

namespace Prog

variable {α β : Type} {q : Finset B}

/-- Started with the brackets `q` open, the program returns with those open that `q'` says for what
it returns. -/
def Leads (mark : Brackets S B) (p : Prog S α) (q : Finset B) (q' : α → Finset B) : Prop :=
  p.Follows mark.protocol q fun a x => x = q' a

/-- The program returns with the brackets open that were so before. -/
abbrev Balanced (mark : Brackets S B) (p : Prog S α) (q : Finset B) : Prop :=
  p.Leads mark q fun _ => q

/-- A program that has ended is balanced. -/
lemma balanced_ret (a : α) : (Prog.ret a : Prog S α).Balanced mark q := rfl

/-- A program without brackets. -/
lemma All.balanced {p : Prog S α} (hp : p.All mark.Quiet) : p.Balanced mark q :=
  (hp.mono fun _ h => h.neutral).follows fun _ => rfl

/-- Programs lead on from where the one before them has led to. -/
lemma Leads.bind {p : Prog S α} {k : α → Prog S β} {q₁ : α → Finset B} {q' : β → Finset B}
    (hp : p.Leads mark q q₁) (hk : ∀ a, (k a).Leads mark (q₁ a) q') :
    (p >>= k).Leads mark q q' := by
  apply Follows.bind hp
  intro a x hx
  cases hx
  exact hk a

variable {q' : α → Finset B} {o : S.Op} {k : S.Res o → Prog S α} {b : B}

/-- An operation without a bracket comes first. -/
lemma Leads.op (ho : mark.Quiet o) (hk : ∀ r, (k r).Leads mark q q') :
    (Prog.op o k).Leads mark q q' := by
  refine ⟨(ho.neutral (q := q)).1, fun r => ?_⟩
  rw [(ho.neutral (q := q)).2 r]
  exact hk r

/-- A bracket is opened. -/
lemma Leads.opens (ho : ∀ r, mark o r = .opens b) (hb : b ∉ q)
    (hk : ∀ r, (k r).Leads mark (insert b q) q') : (Prog.op o k).Leads mark q q' := by
  constructor
  · intro r
    rw [ho r]
    exact hb
  · intro r
    show Follows _ _ ((mark o r).next q) _
    rw [ho r]
    exact hk r

/-- The bracket is closed that was opened last. -/
lemma Leads.closes (ho : ∀ r, mark o r = .closes b) (hb : b ∉ q)
    (hk : ∀ r, (k r).Leads mark q q') : (Prog.op o k).Leads mark (insert b q) q' := by
  constructor
  · intro r
    rw [ho r]
    exact Finset.mem_insert_self b q
  · intro r
    show Follows _ _ ((mark o r).next (insert b q)) _
    rw [ho r, Mark.next, Finset.erase_insert hb]
    exact hk r

/-- The last operation of a thread. -/
lemma Leads.last (ho : ∀ r, mark o r = .last) (hk : ∀ r, (k r).Leads mark ∅ q') :
    (Prog.op o k).Leads mark ∅ q' := by
  constructor
  · intro r
    rw [ho r]
    rfl
  · intro r
    show Follows _ _ ((mark o r).next ∅) _
    rw [ho r]
    exact hk r

end Prog

namespace Machine

variable {T L C E σ : Type} [DecidableEq T] {M : Machine S T L C E σ}
  {marks : T → Brackets S B} {rest : T → L → Finset B}

/-- What each thread has opened and not yet closed, after a step. -/
def noteBrackets (marks : T → Brackets S B) (_ : σ) (l : Label S T C E) (opened : T → Finset B) :
    T → Finset B :=
  match l with
  | .act t o r => update opened t ((marks t o r).next (opened t))
  | _ => opened

/-- The recorded brackets are those that the protocol follows. -/
lemma PStep.noteBrackets {x x' : σ × (T → Finset B)} {q q' : T → Finset B} {l : Label S T C E}
    (st : (M.record (noteBrackets marks)).PStep (fun t => (marks t).protocol) rest x q l x' q')
    (e : x.2 = q) : M.PStep (fun t => (marks t).protocol) rest x.1 q l x'.1 q' ∧ x'.2 = q' := by
  obtain ⟨st, e'⟩ := st.of_record
  refine ⟨st, ?_⟩
  rw [e', e]
  cases st with
  | act _ _ => exact rfl
  | go _ _ => exact rfl
  | env _ => exact rfl

end Machine

end Redfin.Program
