import Redfin.Usb.Observed

/-!
# What the history says in each stage

The stage of the binder thread decides most of what has been noted of its switch. `Noted` says
what, and every step keeps it.
-/

set_option linter.unusedSectionVars false

namespace Redfin.Usb

open Function Program

variable [Libbase]

namespace Stage

/-- In `switchRole`, before its result is told. -/
def inSwitch : Stage → Bool
  | .switching _ _ | .announcing _ _ => true
  | .locked _ | .cleared _ | .put _ | .failed _ => true
  | .written _ | .waiting _ | .woken _ _ | .relocked _ _ | .up _ => true
  | _ => false

def isPut : Stage → Bool
  | .put _ => true
  | _ => false

/-- The port type is written and the decision is not made. -/
def inWindow : Stage → Bool
  | .written _ | .waiting _ | .woken _ _ | .relocked _ _ | .up _ => true
  | _ => false

/-- The node the binder thread has opened. -/
def node? : Stage → Option String
  | .idle => some ""
  | .switching node _ | .announcing node _ => some node
  | .locked node | .cleared node | .put node | .failed node => some node
  | .written node | .waiting node | .woken node _ | .relocked node _ | .up node => some node
  | _ => none

/-- Whether the last wait of this switch has timed out, up to the decision. -/
def timedOut? : Stage → Option Bool
  | .woken _ timedOut | .relocked _ timedOut => some timedOut
  | .switching _ (some _) | .announcing _ _ | .told => none
  | _ => some false

/-- No partner can have been recorded yet. -/
def unwritten : Stage → Bool
  | .idle | .switching _ none | .announcing _ none => true
  | .locked _ | .cleared _ | .put _ | .failed _ => true
  | _ => false

/-- The thread holds `mPartnerLock`. -/
def hasPartner : Stage → Bool
  | .locked _ | .cleared _ | .put _ | .failed _ | .written _ | .relocked _ _ | .up _ => true
  | .partner => true
  | _ => false

/-- The thread holds `mRoleSwitchLock`. -/
def hasRole : Stage → Bool
  | .idle | .tested | .polling | .partner => false
  | _ => true

variable {q : Stage} {p : Phase}

/-- Outside the switch and its counterpart in the worker neither lock is held. -/
lemma not_mem_held {m : Mutex} (hm : m ≠ .mLock)
    (f : p = .free ∨ p = .locked ∨ p = .joining ∨ p = .pending) : m ∉ p.held := by
  obtain rfl | rfl | rfl | rfl := f
  · exact Finset.notMem_empty m
  · exact fun h => hm (Finset.mem_singleton.mp h)
  · exact fun h => hm (Finset.mem_singleton.mp h)
  · exact Finset.notMem_empty m

/-- The stage knows whether the phase has the partner's lock. -/
lemma Fits.partner_mem (f : q.Fits p) : Mutex.mPartnerLock ∈ p.held ↔ q.hasPartner = true := by
  have out {p : Phase} (h : Mutex.mPartnerLock ∉ p.held) :
      Mutex.mPartnerLock ∈ p.held ↔ false = true := iff_of_false h Bool.noConfusion
  have held {p : Phase} (h : Mutex.mPartnerLock ∈ p.held) :
      Mutex.mPartnerLock ∈ p.held ↔ true = true := iff_of_true h rfl
  cases q with
  | idle | tested | polling => exact out (not_mem_held nofun f)
  | switching _ _ | announcing _ _ | told =>
    obtain rfl | rfl := f
    · exact out (by decide)
    · exact out (by decide)
  | partner =>
    obtain ⟨b, rfl⟩ := f
    exact held (Finset.mem_singleton_self _)
  | waiting _ | woken _ _ | role =>
    obtain rfl := f
    exact out (by decide)
  | _ =>
    obtain rfl := f
    exact held (by decide)

/-- The stage knows whether the phase has `mRoleSwitchLock`. -/
lemma Fits.role_mem (f : q.Fits p) : Mutex.mRoleSwitchLock ∈ p.held ↔ q.hasRole = true := by
  have out {p : Phase} (h : Mutex.mRoleSwitchLock ∉ p.held) :
      Mutex.mRoleSwitchLock ∈ p.held ↔ false = true := iff_of_false h Bool.noConfusion
  have held {p : Phase} (h : Mutex.mRoleSwitchLock ∈ p.held) :
      Mutex.mRoleSwitchLock ∈ p.held ↔ true = true := iff_of_true h rfl
  cases q with
  | idle | tested | polling => exact out (not_mem_held nofun f)
  | switching _ _ | announcing _ _ | told =>
    obtain rfl | rfl := f
    · exact held (by decide)
    · exact held (by decide)
  | partner =>
    obtain ⟨b, rfl⟩ := f
    exact out fun h => nomatch Finset.mem_singleton.mp h
  | _ =>
    obtain rfl := f
    exact held (by decide)

end Stage

/-! ## The locks of a thread in its stage -/

section

variable {s : Shared} {q : Thread → Phase × Stage} {t u : Thread}

/-- The stage of a thread knows whether it holds the partner's lock. -/
lemma StageInv.partner_holder (h : StageInv s q) (t : Thread) :
    s.holder .mPartnerLock = some t ↔ (q t).2.hasPartner = true :=
  (h.locks.holds .mPartnerLock t).trans (h.fits t).partner_mem

/-- Two threads are not both in a stage with `mPartnerLock`. -/
lemma StageInv.partner_unique (h : StageInv s q) (ht : (q t).2.hasPartner = true)
    (hu : (q u).2.hasPartner = true) : t = u :=
  h.locks.holds.unique ((h.fits t).partner_mem.mpr ht) ((h.fits u).partner_mem.mpr hu)

/-- The two threads are not both in a stage with the partner's lock. -/
lemma StageInv.apart (h : StageInv s q) (hw : (q .worker).2.hasPartner = true) :
    (q .binder).2.hasPartner = false :=
  Bool.eq_false_iff.mpr fun hb => nomatch h.partner_unique hb hw

/-- Two threads are not both in a stage with `mRoleSwitchLock`. -/
lemma StageInv.role_unique (h : StageInv s q) (ht : (q t).2.hasRole = true)
    (hu : (q u).2.hasRole = true) : t = u :=
  h.locks.holds.unique ((h.fits t).role_mem.mpr ht) ((h.fits u).role_mem.mpr hu)

end

/-! ## The history in each stage -/

/-- What has been noted when the binder thread is in the stage. -/
structure Noted (b : Stage) (h : History) : Prop where
  switching : h.switching = true → b.inSwitch = true
  put : h.put = b.isPut
  window : h.window = b.inWindow
  node : ∀ node, b.node? = some node → h.node = node
  expired : ∀ timedOut, b.timedOut? = some timedOut → h.expired = timedOut
  recorded : b.unwritten = true → h.recorded = false

section

variable {b : Stage} {o : Op} {r : o.Res} {s : Shared} {h : History}

/-- Outside `switchRole` at most the read of the callback is noted. -/
lemma noteBinder_ordinary (ho : o.ordinary = true) :
    ∃ isSet, h.noteBinder s o r = { h with switching := h.switching && isSet } := by
  have same : h = { h with switching := h.switching && true } := by
    rw [Bool.and_true]
  cases o with
  | lock m =>
    obtain rfl : m = .mLock := of_decide_eq_true ho
    exact ⟨true, same⟩
  | unlock m =>
    obtain rfl : m = .mLock := of_decide_eq_true ho
    exact ⟨true, same⟩
  | readCallback => exact ⟨r, rfl⟩
  | notify n =>
    cases n with
    | roleSwitchStatus portName role status id => cases ho
    | _ => exact ⟨true, same⟩
  | fopen path => cases ho
  | fputs path content => cases ho
  | fclose path => cases ho
  | condWake => cases ho
  | _ => exact ⟨true, same⟩

/-- In a stage without `mPartnerLock` the binder thread does not hold it. -/
lemma free_of_hasPartner (holds : s.holder .mPartnerLock = some .binder ↔ b.hasPartner = true)
    (hb : b.hasPartner = false) : s.holder .mPartnerLock ≠ some .binder :=
  fun e => Bool.false_ne_true (hb.symm.trans (holds.mp e))

/-- Using a file without `mPartnerLock` notes nothing. -/
lemma noteBinder_usesFile (ho : o.usesFile = true) (put : h.put = false)
    (free : s.holder .mPartnerLock ≠ some .binder) : h.noteBinder s o r = h := by
  cases o with
  | readFile path => rfl
  | fputs path content =>
    show { h with put := _ } = h
    rw [decide_eq_false free, Bool.and_false, ← put]
  | fclose path => exact History.write_of_not_put put s
  | _ => cases ho

/-- Using a file assigns nothing. -/
lemma Op.assigns_of_usesFile (ho : o.usesFile = true) : o.assigns = false := by
  cases o with
  | readFile path => rfl
  | fputs path content => rfl
  | fclose path => rfl
  | _ => cases ho

/-- Using a file is no change of stage in a switch. -/
lemma next_of_usesFile {node : String} {decision : Option Bool} (ho : o.usesFile = true) :
    (Stage.switching node decision).next o r = .switching node decision := by
  cases o with
  | readFile path => rfl
  | fputs path content => rfl
  | fclose path => rfl
  | _ => cases ho

/-- What an operation of the binder thread preserves. -/
lemma noted_binder (ok : BinderOk b o) (n : Noted b h)
    (holds : s.holder .mPartnerLock = some .binder ↔ b.hasPartner = true) :
    Noted (b.next o r) (h.noteBinder s o r) := by
  obtain ⟨switching, put, window, node, expired, recorded⟩ := n
  have none {α : Type} {P : α → Prop} (x : α) (e : Option.none = some x) : P x :=
    absurd e.symm (Option.some_ne_none x)
  have never {P : Prop} (e : false = true) : P := absurd e Bool.false_ne_true
  cases ok with
  | idle ho =>
    obtain ⟨isSet, e⟩ := noteBinder_ordinary (r := r) (s := s) (h := h) ho
    rw [next_of_ordinary ho, e]
    refine ⟨fun hs => ?_, put, window, node, expired, recorded⟩
    exact switching (Bool.and_eq_true_iff.mp hs).1
  | enter => exact ⟨fun _ => rfl, put, window, node, expired, recorded⟩
  | @fopen _ decision path _ =>
    cases decision with
    | none => exact ⟨switching, put, window, fun _ e => Option.some.inj e, expired, recorded⟩
    | some _ => exact ⟨switching, put, window, fun _ e => Option.some.inj e, none, never⟩
  | file ho =>
    rw [next_of_usesFile ho, noteBinder_usesFile ho put (free_of_hasPartner holds rfl)]
    exact ⟨switching, put, window, node, expired, recorded⟩
  | lockPartner => exact ⟨switching, put, window, node, expired, recorded⟩
  | clear => exact ⟨switching, put, window, node, expired, recorded⟩
  | fputs =>
    have held : s.holder .mPartnerLock = some .binder := holds.mpr rfl
    cases r with
    | true => exact ⟨switching, decide_eq_true held, window, node, expired, recorded⟩
    | false => exact ⟨switching, rfl, window, node, expired, recorded⟩
  | close =>
    show Noted _ (h.write s)
    rw [History.write, put]
    exact ⟨switching, rfl, rfl, node, expired, never⟩
  | closeFailed =>
    show Noted _ (h.write s)
    rw [History.write_of_not_put put]
    exact ⟨switching, put, window, node, expired, recorded⟩
  | unlockFailed => exact ⟨switching, put, rfl, node, none, never⟩
  | release => exact ⟨switching, put, window, node, expired, never⟩
  | wake => exact ⟨switching, put, window, node, fun _ e => Option.some.inj e, never⟩
  | relock => exact ⟨switching, put, window, node, expired, never⟩
  | unlockExpired => exact ⟨switching, put, rfl, node, none, never⟩
  | read =>
    cases r with
    | true => exact ⟨switching, put, window, node, expired, never⟩
    | false => exact ⟨switching, put, window, node, expired, never⟩
  | unlockUp => exact ⟨switching, put, rfl, node, none, never⟩
  | lock => exact ⟨switching, put, window, node, expired, recorded⟩
  | @readCallback _ decision =>
    have told : (h.switching && false) = true → False := by
      rw [Bool.and_false]
      exact Bool.noConfusion
    cases r with
    | true =>
      cases decision with
      | none => exact ⟨fun _ => rfl, put, window, node, none, recorded⟩
      | some _ => exact ⟨fun _ => rfl, put, window, node, none, never⟩
    | false => exact ⟨fun e => (told e).elim, put, window, none, none, never⟩
  | notify => exact ⟨never, put, window, none, none, never⟩
  | unlock => exact ⟨switching, put, window, node, expired, recorded⟩
  | leave =>
    exact ⟨switching, put, window, fun _ e => Option.some.inj e, fun _ e => Option.some.inj e,
      fun _ => rfl⟩

/-- The worker sets `mPartnerUp` with its lock, and assigns nothing else of the switch. -/
lemma WorkerOk.assigns {q : Stage} (ok : WorkerOk q o) :
    (q = .partner ∧ o = .writePartnerUp true) ∨ o.assigns = false := by
  cases ok with
  | up => exact .inl ⟨rfl, rfl⟩
  | quiet ho =>
    refine .inr ?_
    cases o with
    | writePartnerUp up => cases ho
    | writeCallback isSet => cases ho
    | _ => rfl
  | role ho =>
    refine .inr ?_
    cases o with
    | writePartnerUp up => cases ho
    | writeCallback isSet => cases ho
    | _ => rfl
  | _ => exact .inr rfl

/-- Apart from that only the messages and the test are noted of the worker. -/
lemma noteWorker_of_not_assigns (ho : o.assigns = false) :
    ∃ todo fresh stale tested, h.noteWorker o r = { h with todo, fresh, stale, tested } := by
  cases o with
  | writePartnerUp up => cases ho
  | recv => exact ⟨_, _, _, _, rfl⟩
  | readDestroyThread => exact ⟨_, _, _, _, rfl⟩
  | epollEnter => exact ⟨_, _, _, _, rfl⟩
  | _ => exact ⟨h.todo, h.fresh, h.stale, h.tested, rfl⟩

/-- What an operation of the worker preserves: a partner is recorded in the window only. -/
lemma noted_worker (n : Noted b h) : Noted b (h.noteWorker o r) := by
  cases o with
  | writePartnerUp up =>
    refine ⟨n.switching, n.put, n.window, n.node, n.expired, fun hb => ?_⟩
    have window : h.window = false := by
      rw [n.window]
      cases b <;> first | rfl | cases hb
    show (h.recorded || h.window) = false
    rw [n.recorded hb, window]
    rfl
  | _ => exact ⟨n.switching, n.put, n.window, n.node, n.expired, n.recorded⟩

/-- What a step of the service preserves. -/
lemma noted_step {s' : Shared} {q q' : Thread → Phase × Stage} {l : Step} (inv : StageInv s q)
    (n : Noted (q .binder).2 h) (st : service.PStep both bothRest s q l s' q') :
    Noted (q' .binder).2 (h.note s l) := by
  cases st with
  | @act t o r s' ok st =>
    cases t with
    | binder => exact noted_binder ok.2 n (inv.partner_holder .binder)
    | worker => exact noted_worker n
  | go hq st => exact n
  | env st => exact n

/-- Nothing is noted at the start. -/
lemma noted_start : Noted .idle {} :=
  ⟨nofun, rfl, rfl, fun _ e => Option.some.inj e, fun _ e => Option.some.inj e, fun _ => rfl⟩

end

end Redfin.Usb
