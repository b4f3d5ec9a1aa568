import Mathlib.Data.Finset.Insert
import Mathlib.Data.Finset.Erase
import Mathlib.Logic.Function.Basic
import Mathlib.Logic.Relation

/-!
# Locks and waiting in a circle

A table says which thread holds each lock, and the state of a thread says which locks it holds.
`Holds` says that the two agree; taking and releasing a lock keeps it so.

Threads wait in a circle if following the relation "waits for" leads from some thread back to it.
Where no thread that is waited for waits itself, there is no circle.
-/

namespace Redfin.Program

open Function Relation

section

variable {M T Q : Type} [DecidableEq M]

/-- The table of the holders agrees with the locks that the threads' states hold. -/
def Holds (holder : M → Option T) (held : Q → Finset M) (q : T → Q) : Prop :=
  ∀ m t, holder m = some t ↔ m ∈ held (q t)

variable {holder : M → Option T} {held : Q → Finset M} {q : T → Q} {t : T} {p : Q} {m : M}

omit [DecidableEq M] in
/-- No two threads hold a lock at once. -/
lemma Holds.unique (h : Holds holder held q) {u : T} (ht : m ∈ held (q t)) (hu : m ∈ held (q u)) :
    t = u :=
  Option.some.inj (((h m t).mpr ht).symm.trans ((h m u).mpr hu))

variable [DecidableEq T]

omit [DecidableEq M] in
/-- A thread moves on and holds what it held before. -/
lemma Holds.keep (h : Holds holder held q) (hp : held p = held (q t)) :
    Holds holder held (update q t p) := by
  intro m'
  refine (forall_update_iff q fun u p => holder m' = some u ↔ m' ∈ held p).mpr ⟨?_, ?_⟩
  · rw [hp]
    exact h m' t
  · exact fun u _ => h m' u

/-- A thread takes a free lock. -/
lemma Holds.acquire (h : Holds holder held q) (free : holder m = none)
    (hp : held p = insert m (held (q t))) :
    Holds (update holder m (some t)) held (update q t p) := by
  intro m'
  refine (forall_update_iff q fun u p =>
    update holder m (some t) m' = some u ↔ m' ∈ held p).mpr ⟨?_, fun u hu => ?_⟩
  · rw [hp, Finset.mem_insert, ← h m' t]
    rcases eq_or_ne m' m with rfl | ne
    · simp
    · simp [ne]
  · rw [← h m' u]
    rcases eq_or_ne m' m with rfl | ne
    · simp [free, hu.symm]
    · simp [ne]

/-- A thread releases a lock it holds. -/
lemma Holds.release (h : Holds holder held q) (hm : m ∈ held (q t))
    (hp : held p = (held (q t)).erase m) :
    Holds (update holder m none) held (update q t p) := by
  have ht := (h m t).mpr hm
  intro m'
  refine (forall_update_iff q fun u p =>
    update holder m none m' = some u ↔ m' ∈ held p).mpr ⟨?_, fun u hu => ?_⟩
  · rw [hp, Finset.mem_erase, ← h m' t]
    rcases eq_or_ne m' m with rfl | ne
    · simp
    · simp [ne]
  · rw [← h m' u]
    rcases eq_or_ne m' m with rfl | ne
    · simp [ht, hu.symm]
    · simp [ne]

end

/-- Following the relation leads from some thread back to it. -/
def Circular {T : Type} (waits : T → T → Prop) : Prop := ∃ t, TransGen waits t t

/-- If no thread that is waited for waits itself, nobody waits in a circle. -/
lemma not_circular {T : Type} {waits : T → T → Prop}
    (h : ∀ t u v, waits t u → ¬waits u v) : ¬Circular waits := by
  rintro ⟨t, ht⟩
  obtain ⟨u, htu, hut⟩ := TransGen.head'_iff.mp ht
  rcases ReflTransGen.cases_head hut with rfl | ⟨v, huv, -⟩
  · exact h _ _ _ htu htu
  · exact h _ _ _ htu huv

/-- Two threads that wait for each other. -/
lemma circular_of_mutual {T : Type} {waits : T → T → Prop} {t u : T} (htu : waits t u)
    (hut : waits u t) : Circular waits :=
  ⟨t, (TransGen.single htu).tail hut⟩

end Redfin.Program
