import Redfin.Usb.Deadlock
import Redfin.Usb.Observed

/-!
# The end of the worker

`setCallback(NULL)` sends the worker a signal, whose handler sets `destroyThread`, and joins it.
The worker tests the flag and then waits without a limit: a signal that is delivered between the two
interrupts nothing, and the worker sleeps until the next message. Where that does not happen, the
signal is never missed (`not_missed`).
-/

set_option linter.unusedSectionVars false

namespace Redfin.Usb

open Function Program

section

variable [Libbase]

/-- The worker is being joined and the signal has been handled, but it is in an `epoll_wait` that
the signal has not interrupted and no message ends. -/
def Missed (c : Config sig Thread Next (Shared × History)) : Prop :=
  (c.prog .binder).head? = some .pthreadJoin ∧ c.shared.1.destroyThread = true ∧
    (c.prog .worker).head? = some .epollReturn ∧ c.shared.1.interrupted = false ∧
    c.shared.1.packets = []

/-- The condition on the steps of a run: the signal is not delivered between the worker's test and
its wait, unless a message is there that ends the wait. -/
def NotBetween (x : Shared × History) : Step → Prop
  | .env .deliverSignal => x.2.tested = true → x.1.packets ≠ []
  | _ => True

instance (x : Shared × History) (l : Step) : Decidable (NotBetween x l) := by
  unfold NotBetween
  split <;> infer_instance

/-! ## What the steps do -/

/-- An operation outside `switchRole` does not poll. -/
lemma Op.polls_of_ordinary {o : Op} (h : o.ordinary = true) : o.polls = false := by
  cases o with
  | recv => cases h
  | epollEnter => cases h
  | epollReturn => cases h
  | writeDestroyThread destroy => exact Bool.not_eq_true' _ |>.mp h
  | _ => rfl

/-- The binder thread does not poll. -/
lemma BinderOk.polls {q : Stage} {o : Op} (ok : BinderOk q o) : o.polls = false := by
  cases ok with
  | idle h => exact Op.polls_of_ordinary h
  | file h =>
    cases o with
    | fputs path content => rfl
    | fclose path => rfl
    | readFile path => rfl
    | _ => cases h
  | _ => rfl

/-! ## The invariant -/

/-- Where the worker is about to wait, or waits, with `destroyThread` set, there is a message or it
has been interrupted. -/
structure PollInv (x : Shared × History) (w : Stage) : Prop where
  tested : x.2.tested = true ↔ w = .tested
  test : w = .tested → x.1.destroyThread = true → x.1.packets ≠ []
  poll : w = .polling →
    x.1.inEpoll = true ∧ (x.1.destroyThread = true → x.1.interrupted = true ∨ x.1.packets ≠ [])

section

variable {s s' : Shared} {h h' : History} {w : Stage}

/-- The invariant stays true when the wait is left alone. -/
lemma SamePoll.pollInv (same : SamePoll s s') (th : h'.tested = h.tested)
    (inv : PollInv (s, h) w) : PollInv (s', h') w where
  tested := th ▸ inv.tested
  test hw hd := same.packets ▸ inv.test hw (same.destroyThread hd)
  poll hw := by
    obtain ⟨inEpoll, ends⟩ := inv.poll hw
    show s'.inEpoll = true ∧ (s'.destroyThread = true → s'.interrupted = true ∨ s'.packets ≠ [])
    rw [same.inEpoll, same.interrupted, same.packets]
    exact ⟨inEpoll, fun hd => ends (same.destroyThread hd)⟩

/-- A worker elsewhere than at its wait has nothing to show. -/
lemma PollInv.elsewhere {x : Shared × History} (hx : x.2.tested = false) (ht : w ≠ .tested)
    (hp : w ≠ .polling) : PollInv x w where
  tested := iff_of_false (Bool.eq_false_iff.mp hx) ht
  test hw := absurd hw ht
  poll hw := absurd hw hp

/-- The binder thread tests nothing. -/
lemma tested_binder {o : Op} {r : o.Res} : (h.noteBinder s o r).tested = h.tested := by
  cases o with
  | lock m => cases m <;> rfl
  | unlock m => cases m <;> rfl
  | fclose path => exact (h.write_frame s).2.2.2
  | notify n => cases n <;> rfl
  | _ => rfl

/-- Of an ordinary operation of the worker nothing is noted. -/
lemma noteWorker_ordinary {o : Op} {r : o.Res} (ho : o.ordinary = true) :
    h.noteWorker o r = h := by
  cases o with
  | recv => cases ho
  | writePartnerUp up => cases ho
  | readDestroyThread => cases ho
  | epollEnter => cases ho
  | _ => rfl

/-- Of going back to dual role nothing is noted. -/
lemma noteWorker_switchesBack {o : Op} {r : o.Res} (ho : o.switchesBack = true) :
    h.noteWorker o r = h := by
  cases o with
  | recv => cases ho
  | writePartnerUp up => cases ho
  | readDestroyThread => cases ho
  | epollEnter => cases ho
  | _ => rfl

/-- Going back to dual role is no change of stage. -/
lemma next_of_switchesBack {o : Op} {r : o.Res} (ho : o.switchesBack = true) :
    Stage.role.next o r = .role := by
  cases o with
  | opendir path => rfl
  | fopen path => rfl
  | fputs path content => rfl
  | fclose path => rfl
  | _ => cases ho

/-- The wait returns in the stage of the wait. -/
lemma WorkerOk.polling {q : Stage} (ok : WorkerOk q .epollReturn) : q = .polling := by
  cases ok with
  | quiet h => cases h
  | epollReturn => exact rfl
  | role h => cases h

/-- A step of the worker keeps the invariant. -/
lemma pollInv_worker {o : Op} {r : o.Res} (ok : WorkerOk w o) (st : act .worker o r s = some s')
    (inv : PollInv (s, h) w) : PollInv (s', h.noteWorker o r) (w.next o r) := by
  have out (hw : w ≠ .tested) : h.tested = false := by
    refine Bool.eq_false_iff.mpr fun e => hw (inv.tested.mp e)
  cases ok with
  | quiet ho =>
    have ho := Op.ordinary_of_quiet ho
    rw [next_of_ordinary ho, noteWorker_ordinary ho]
    exact .elsewhere (out nofun) nofun nofun
  | recv => exact .elsewhere (out nofun) nofun nofun
  | test =>
    obtain ⟨destroy, rfl⟩ := of_enabled st
    cases r with
    | true => exact .elsewhere rfl nofun nofun
    | false =>
      refine ⟨iff_of_true rfl rfl, fun _ hd => ?_, nofun⟩
      cases destroy.trans hd
  | epollEnter =>
    cases st
    have message := inv.test rfl
    exact ⟨iff_of_false nofun nofun, nofun, fun _ => ⟨rfl, fun hd => .inr (message hd)⟩⟩
  | epollReturn => exact .elsewhere (out nofun) nofun nofun
  | lock => exact .elsewhere (out nofun) nofun nofun
  | up => exact .elsewhere (out nofun) nofun nofun
  | signal => exact .elsewhere (out nofun) nofun nofun
  | unlock => exact .elsewhere (out nofun) nofun nofun
  | trylock =>
    cases r with
    | true => exact .elsewhere (out nofun) nofun nofun
    | false => exact .elsewhere (out nofun) nofun nofun
  | role ho =>
    rw [next_of_switchesBack ho, noteWorker_switchesBack ho]
    exact .elsewhere (out nofun) nofun nofun
  | leave => exact .elsewhere (out nofun) nofun nofun

/-- The guard is needed where the signal is delivered to a worker that is about to wait. -/
lemma pollInv_step {q q' : Thread → Phase × Stage} {l : Step} (inv : PollInv (s, h) (q .worker).2)
    (g : NotBetween (s, h) l) (st : service.PStep both bothRest s q l s' q') :
    PollInv (s', h.note s l) (q' .worker).2 := by
  cases st with
  | @act t o r s' ok st =>
    cases t with
    | binder =>
      have same : SamePoll s s' := (frame_act st).poll (BinderOk.polls ok.2)
      exact same.pollInv tested_binder inv
    | worker => exact pollInv_worker ok.2 st inv
  | go _ st =>
    have same : SamePoll s s' := by
      cases goes_of_go st with
      | serve call => exact ⟨rfl, rfl, rfl, id⟩
      | waitAgain portName role _ => exact ⟨rfl, rfl, rfl, id⟩
      | start created => exact ⟨rfl, rfl, rfl, id⟩
      | loop => exact ⟨rfl, rfl, rfl, id⟩
    exact same.pollInv rfl inv
  | @env e s' st =>
    have st : env s e = some s' := st
    cases e with
    | uevent packet =>
      cases st
      -- one more message ends every wait
      have message : s.packets ++ [packet] ≠ [] := List.append_ne_nil_of_right_ne_nil _ nofun
      exact ⟨inv.tested, fun _ _ => message, fun hw => ⟨(inv.poll hw).1, fun _ => .inr message⟩⟩
    | deliverSignal =>
      obtain ⟨-, rfl⟩ := of_enabled st
      refine ⟨inv.tested, fun hw _ => g (inv.tested.mpr hw), fun hw => ?_⟩
      obtain ⟨inEpoll, -⟩ := inv.poll hw
      exact ⟨inEpoll, fun _ => .inl inEpoll⟩
    | pullup udc =>
      cases st
      exact ⟨inv.tested, inv.test, inv.poll⟩

end

/-- In a run in which the signal is never delivered between the worker's test and its wait with no
message queued, the end of the worker is not missed. -/
theorem not_missed {udc : Option String} {c : Config sig Thread Next (Shared × History)}
    (run : observed.Run NotBetween (observed.start udc) c) : ¬Missed c := by
  obtain ⟨q, -, inv, tr⟩ := observed_invariant (I := fun x q => PollInv x (q .worker))
    (.elsewhere rfl nofun nofun) (fun _ _ _ _ _ _ _ inv g st => pollInv_step inv g st) run
  rintro ⟨-, destroy, wait, interrupted, packets⟩
  have polling : (q .worker).2 = .polling := WorkerOk.polling (tr.ok wait).2
  rcases (inv.poll polling).2 destroy with h | h
  · rw [interrupted] at h
    cases h
  · exact h packets

end

open Libbase.Documented in
/-- The signal comes in the wait, and the worker is woken. -/
theorem not_missed_in_wait :
    ∃ c, observed.Run NotBetween (observed.start none) c ∧
      (c.prog .binder).head? = some .pthreadJoin ∧ c.shared.1.destroyThread = true ∧
      (c.prog .worker).head? = some .epollReturn ∧ ¬Missed c := by
  have h : (observed.play NotBetween (watchSchedule ++ clearSchedule ++ [.env .deliverSignal])
      (observed.start none)).map (fun c => ((c.prog .binder).head?, c.shared.1.destroyThread,
        (c.prog .worker).head?)) = some (some .pthreadJoin, true, some .epollReturn) := by
    decide +kernel
  obtain ⟨c, run, hc⟩ := observed.exists_run h
  simp only [Prod.mk.injEq] at hc
  exact ⟨c, run, hc.1, hc.2.1, hc.2.2, not_missed run⟩

open Libbase.Documented in
/-- The signal is delivered after the worker has tested the flag and before it waits. -/
theorem missed_between : ∃ c, observed.Reach (observed.start none) c ∧ Missed c := by
  have h : (observed.play (fun _ _ => True) (watchSchedule.dropLast ++ clearSchedule ++
      [.env .deliverSignal, .act .worker .epollEnter ()]) (observed.start none)).map (fun c =>
        ((c.prog .binder).head?, c.shared.1.destroyThread, (c.prog .worker).head?,
          c.shared.1.interrupted, c.shared.1.packets.isEmpty)) =
            some (some .pthreadJoin, true, some .epollReturn, false, true) := by decide +kernel
  obtain ⟨c, run, hc⟩ := observed.exists_run h
  simp only [Prod.mk.injEq, List.isEmpty_iff] at hc
  exact ⟨c, run, hc⟩

end Redfin.Usb
