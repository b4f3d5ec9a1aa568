import Redfin.Program.Guards
import Redfin.Usb.LockInvariant

/-!
# A lock of the USB HAL and a cell it guards

What the operations do to the holder of a mutex, said once for whatever the mutex guards.
-/

set_option linter.unusedSectionVars false

namespace Redfin.Usb

open Function Program

variable [Libbase]

variable {β : Type}

/-- What an operation does to a lock. -/
def lockUse (m : Mutex) : (o : Op) → o.Res → Access β
  | .lock m', _ => if m' = m then .take else .quiet
  | .unlock m', _ => if m' = m then .release else .quiet
  | .trylock m', taken => if m' = m ∧ taken = true then .take else .quiet
  | .condRelease, _ => if .mPartnerLock = m then .release else .quiet
  | _, _ => .quiet

/-- Taking a lock, as the rule of the guarded cells sees it. -/
lemma does_take {t : Thread} {m m' : Mutex} {s : Shared} (free : s.holder m' = none) (b : β) :
    (if m' = m then Access.take else .quiet : Access β).Does t (s.holder m, b)
      ((s.acquire t m').holder m, b) := by
  by_cases hm : m' = m
  · subst hm
    rw [if_pos rfl, free, show (s.acquire t m').holder m' = some t from update_self ..]
    exact .take
  · rw [if_neg hm, show (s.acquire t m').holder m = s.holder m from update_of_ne (Ne.symm hm) ..]
    exact .quiet

/-- Giving back a lock, as the rule of the guarded cells sees it. -/
lemma does_release {t : Thread} {m m' : Mutex} {s : Shared} (b : β) :
    (if m' = m then Access.release else .quiet : Access β).Does t (s.holder m, b)
      ((s.release m').holder m, b) := by
  by_cases hm : m' = m
  · subst hm
    rw [if_pos rfl, show (s.release m').holder m' = none from update_self ..]
    exact .release
  · rw [if_neg hm, show (s.release m').holder m = s.holder m from update_of_ne (Ne.symm hm) ..]
    exact .quiet

/-- The holder of a lock, as `lockUse` says. -/
lemma does_lockUse (m : Mutex) {t : Thread} {o : Op} {r : o.Res} {s s' : Shared}
    (h : act t o r s = some s') (b : β) :
    (lockUse m o r : Access β).Does t (s.holder m, b) (s'.holder m, b) := by
  cases o with
  | lock m' =>
    obtain ⟨free, rfl⟩ := of_enabled h
    exact does_take free b
  | unlock m' =>
    cases h
    exact does_release b
  | condRelease =>
    cases h
    exact does_release b
  | trylock m' =>
    obtain ⟨taken, rfl⟩ := of_enabled h
    cases r with
    | true =>
      have free := of_decide_eq_true taken.symm
      simpa [lockUse] using does_take (t := t) (m := m) free b
    | false => simpa [lockUse] using Access.Does.quiet (β := β)
  | pthreadKill =>
    cases r with
    | true =>
      cases h
      exact .quiet
    | false =>
      obtain ⟨-, rfl⟩ := of_blocked h
      exact .quiet
  | pthreadJoin =>
    obtain ⟨-, rfl⟩ := of_blocked h
    exact .quiet
  | recv =>
    obtain ⟨-, rfl⟩ := of_enabled h
    exact .quiet
  | _ =>
    rw [((effect_act h).locks rfl).holder]
    exact .quiet

/-- What an operation does to a lock and to the cell that it guards. -/
def guardedAccess (m : Mutex) (cell : (o : Op) → o.Res → Access β) (o : Op) (r : o.Res) :
    Access β :=
  match lockUse m o r with
  | .quiet => cell o r
  | a => a

/-- An operation does to the lock and to the cell what `guardedAccess` says, if it does to the cell
what `cell` says and leaves it alone where it uses the lock. -/
lemma does_guardedAccess {m : Mutex} {cell : (o : Op) → o.Res → Access β} {t : Thread} {o : Op}
    {r : o.Res} {s s' : Shared} {b b' : β} (h : act t o r s = some s')
    (does : ∀ u : Option Thread, (cell o r).Does t (u, b) (u, b'))
    (same : (lockUse m o r : Access β) ≠ .quiet → b' = b) :
    (guardedAccess m cell o r).Does t (s.holder m, b) (s'.holder m, b') := by
  have lock := does_lockUse m h b
  unfold guardedAccess
  cases use : (lockUse m o r : Access β) with
  | quiet =>
    rw [use] at lock
    generalize s'.holder m = holder at lock
    cases lock
    exact does _
  | _ =>
    have changes : (lockUse m o r : Access β) ≠ .quiet := by
      rw [use]
      intro e
      cases e
    rw [same changes]
    rwa [use] at lock

end Redfin.Usb
