import Redfin.Program.History
import Redfin.Usb.LockInvariant
import Redfin.Usb.Switch

/-!
# The service and its history

What the properties of role switches and of the worker's end have to remember of a run: which node
the binder thread has opened, whether the port type has been written in this switch and the partner
recorded since, which messages were sent before that write, which records the worker has handled.
The history starts anew when the binder thread gives up `mRoleSwitchLock`.
-/

set_option linter.unusedSectionVars false

namespace Redfin.Usb

open Function Program

variable [Libbase]

/-- A step of the service. -/
abbrev Step := Label sig Thread Turn EnvEvent

/-- The name of the port whose `port_type` node it is. -/
def portOf (node : String) : List Char := (node.toList.drop 17).take (node.toList.length - 27)

/-- The record is the addition of the partner of the port. -/
def isPartnerOf (portName : List Char) (cp : List Char) : Bool :=
  isPartnerAdd cp && ('/' :: portName ++ "-partner".toList).isSuffixOf cp

example : isPartnerOf "port0".toList "add@/class/typec/port0/port0-partner".toList := by
  decide +kernel
example : portOf (appendRoleNodeHelper "port0" .mode) = "port0".toList := by decide +kernel

structure History where
  /-- `switchRole` has taken `mRoleSwitchLock` and has not yet told its result, or found that there
  is no callback to tell. -/
  switching : Bool := false
  /-- The node the binder thread has opened last. -/
  node : String := ""
  /-- The text of the new port type is in the buffer of the file. -/
  put : Bool := false
  /-- The port type is written, and `switchMode` will still wait or look at `mPartnerUp`. -/
  window : Bool := false
  /-- The last wait has timed out. -/
  expired : Bool := false
  /-- The worker has recorded a partner in the window. -/
  recorded : Bool := false
  /-- A switch has failed although a partner was recorded. -/
  lost : Bool := false
  /-- The number of queued messages that were sent before the port type was written. -/
  stale : ℕ := 0
  /-- The message the worker handles was sent after the port type was written. -/
  fresh : Bool := false
  /-- The records of the message that the worker has still before it. -/
  todo : List (List Char) := []
  /-- The partners recorded in the window from messages sent after the write. -/
  confirmed : List (List Char) := []
  /-- A mode switch was reported to have succeeded without such a record for its port. -/
  falsely : Bool := false
  /-- The worker has found `destroyThread` false and has not entered `epoll_wait` yet. -/
  tested : Bool := false
deriving DecidableEq

namespace History

/-- The record for which the worker sets `mPartnerUp`. -/
def handled (h : History) : Option (List Char) := h.todo.find? isPartnerAdd

/-- The port type is written when the file is closed; what is queued by then is stale. -/
def write (h : History) (s : Shared) : History :=
  if h.put then { h with put := false, window := true, stale := s.packets.length, fresh := false }
  else h

/-- Closing a file into which nothing was put leaves the history alone. -/
lemma write_of_not_put {h : History} (put : h.put = false) (s : Shared) : h.write s = h :=
  if_neg (Bool.eq_false_iff.mp put)

/-- A write notes nothing about records and results. -/
lemma write_frame (h : History) (s : Shared) :
    (h.write s).recorded = h.recorded ∧ (h.write s).lost = h.lost ∧
      (h.write s).falsely = h.falsely ∧ (h.write s).tested = h.tested := by
  rw [write]
  split <;> exact ⟨rfl, rfl, rfl, rfl⟩

/-- The result of a switch is told. -/
def tell (h : History) (portName : String) (role : PortRole) (status : Status) : History :=
  let proper := h.confirmed.any (isPartnerOf portName.toList)
  { h with
    switching := false
    lost := h.lost || h.recorded && decide (status = .error)
    falsely := h.falsely || decide (role.getTag = .mode ∧ status = .success) && !proper }

/-- What is noted of an operation of the binder thread. -/
def noteBinder (s : Shared) : (o : Op) → o.Res → History → History
  | .lock .mRoleSwitchLock, _, h => { h with switching := true }
  | .unlock .mRoleSwitchLock, _, h =>
    { h with node := "", expired := false, recorded := false, confirmed := [] }
  | .unlock .mPartnerLock, _, h => { h with window := false }
  | .fopen path, _, h => { h with node := path, lost := h.lost || h.recorded }
  | .fputs _ _, ok, h => { h with put := ok && decide (s.holder .mPartnerLock = some .binder) }
  | .fclose _, _, h => h.write s
  | .condWake, timedOut, h => { h with expired := timedOut }
  | .readCallback, isSet, h => { h with switching := h.switching && isSet }
  | .notify (.roleSwitchStatus portName role status _), _, h => h.tell portName role status
  | _, _, h => h

/-- The worker has received a packet. -/
def receive (h : History) (packet : Option (List Char)) : History :=
  { h with
    todo := (packet.filter fun msg => msg.length < ueventMsgLen).elim [] records
    fresh := decide (h.stale = 0)
    stale := h.stale - 1 }

/-- The worker sets `mPartnerUp`. -/
def record (h : History) : History :=
  { h with
    todo := (h.todo.dropWhile fun cp => !isPartnerAdd cp).tail
    recorded := h.recorded || h.window
    confirmed := if h.window && h.fresh then h.handled.toList ++ h.confirmed else h.confirmed }

/-- What is noted of an operation of the worker. -/
def noteWorker : (o : Op) → o.Res → History → History
  | .recv, packet, h => h.receive packet
  | .writePartnerUp _, _, h => h.record
  | .readDestroyThread, destroy, h => { h with tested := !destroy }
  | .epollEnter, _, h => { h with tested := false }
  | _, _, h => h

def note (s : Shared) : Step → History → History
  | .act .binder o r, h => noteBinder s o r h
  | .act .worker o r, h => noteWorker o r h
  | _, h => h

end History

/-- The service with its history. -/
def observed : Machine sig Thread Next Turn EnvEvent (Shared × History) :=
  service.record History.note

/-- The start of the service, of which nothing is noted. -/
def observed.start (udc : Option String) : Config sig Thread Next (Shared × History) :=
  (service.start udc).withHistory {}

/-- The history decides nothing: whatever the service can do is observed, and no more than that. -/
theorem observed_run_iff {udc : Option String} {G : Shared → Step → Prop}
    {c : Config sig Thread Next Shared} :
    (∃ h, observed.Run (fun x l => G x.1 l) (observed.start udc) (c.withHistory h)) ↔
      service.Run G (service.start udc) c :=
  Machine.run_record_iff

/-! ## Stages and locks -/

/-- The phases of the locks that go with a stage. -/
def Stage.Fits : Stage → Phase → Prop
  | .idle, p => p = .free ∨ p = .locked ∨ p = .joining ∨ p = .pending
  | .switching _ _, p => p = .role ∨ p = .roleLocked
  | .announcing _ _, p => p = .role ∨ p = .roleLocked
  | .told, p => p = .role ∨ p = .roleLocked
  | .locked _, p => p = .rolePartner
  | .cleared _, p => p = .rolePartner
  | .put _, p => p = .rolePartner
  | .failed _, p => p = .rolePartner
  | .written _, p => p = .rolePartner
  | .relocked _ _, p => p = .rolePartner
  | .up _, p => p = .rolePartner
  | .waiting _, p => p = .role
  | .woken _ _, p => p = .role
  | .tested, p => p = .free ∨ p = .locked ∨ p = .joining ∨ p = .pending
  | .polling, p => p = .free ∨ p = .locked ∨ p = .joining ∨ p = .pending
  | .partner, p => ∃ b, p = .partner b
  | .role, p => p = .role

section

variable {q : Stage} {p : Phase} {o : Op} {r : o.Res}

/-- An operation outside `switchRole` leaves the stage fitting. -/
lemma fits_ordinary (h : o.ordinary = true) (f : Stage.idle.Fits p) :
    Stage.idle.Fits (p.next o r) := by
  cases o with
  | lock m =>
    obtain rfl : m = .mLock := of_decide_eq_true h
    obtain rfl | rfl | rfl | rfl := f <;> exact .inr (.inl rfl)
  | unlock m => obtain rfl | rfl | rfl | rfl := f <;> exact .inl rfl
  | pthreadKill =>
    cases r with
    | true => exact .inr (.inr (.inl rfl))
    | false => exact f
  | pthreadJoin => exact .inr (.inl rfl)
  | trylock m => cases h
  | condRelease => cases h
  | recv => cases h
  | _ => exact f

/-- An operation that both protocols permit the binder thread keeps stage and phase together. -/
lemma fits_binder (ok : BinderOk q o) (pok : p.ok .binder o) (f : q.Fits p) :
    (q.next o r).Fits (p.next o r) := by
  cases ok with
  | idle h =>
    rw [next_of_ordinary h]
    exact fits_ordinary h f
  | enter =>
    obtain rfl : p = .free := pok
    exact .inl rfl
  | fopen => exact f
  | file h =>
    cases o with
    | fputs path content => exact f
    | fclose path => exact f
    | readFile path => exact f
    | _ => cases h
  | lockPartner =>
    obtain rfl : p = .role := pok
    exact rfl
  | clear => exact f
  | fputs =>
    cases r with
    | true => exact f
    | false => exact f
  | close => exact f
  | closeFailed => exact f
  | unlockFailed =>
    obtain rfl : p = .rolePartner := f
    exact .inl rfl
  | release => exact rfl
  | wake => exact f
  | relock =>
    obtain rfl : p = .role := f
    exact rfl
  | unlockExpired =>
    obtain rfl : p = .rolePartner := f
    exact .inl rfl
  | read =>
    cases r with
    | true => exact f
    | false => exact f
  | unlockUp =>
    obtain rfl : p = .rolePartner := f
    exact .inl rfl
  | lock =>
    obtain rfl | rfl := f
    · exact .inr rfl
    · rcases pok with h | h <;> cases h
  | readCallback =>
    cases r with
    | true => exact f
    | false => exact f
  | notify => exact f
  | unlock =>
    obtain rfl | rfl := f
    · rcases pok with h | h <;> cases h
    · exact .inl rfl
  | leave =>
    obtain rfl : p = .role := pok
    exact .inl rfl

/-- An operation that both protocols permit the worker keeps stage and phase together. -/
lemma fits_worker (ok : WorkerOk q o) (pok : p.ok .worker o) (f : q.Fits p) :
    (q.next o r).Fits (p.next o r) := by
  cases ok with
  | quiet h =>
    have h := Op.ordinary_of_quiet h
    rw [next_of_ordinary h]
    exact fits_ordinary h f
  | recv =>
    show Stage.idle.Fits (.ofQuery (r.any wantsQuery))
    cases r.any wantsQuery with
    | true => exact .inr (.inr (.inr rfl))
    | false => exact .inl rfl
  | test =>
    cases r with
    | true => exact f
    | false => exact f
  | epollEnter => exact f
  | epollReturn => exact f
  | lock =>
    rcases pok with rfl | rfl
    · exact ⟨false, rfl⟩
    · exact ⟨true, rfl⟩
  | up => exact f
  | signal => exact f
  | unlock =>
    obtain ⟨b, rfl⟩ := f
    cases b with
    | true => exact .inr (.inr (.inr rfl))
    | false => exact .inl rfl
  | trylock =>
    cases r with
    | true => exact rfl
    | false => exact f
  | role h =>
    obtain rfl : p = .role := f
    cases o with
    | opendir path => exact rfl
    | fopen path => exact rfl
    | fputs path content => exact rfl
    | fclose path => exact rfl
    | _ => cases h
  | leave =>
    obtain rfl : p = .role := f
    exact .inl rfl

end

/-! ## Every run -/

/-- The protocol of the locks and of the stages. -/
abbrev both (t : Thread) : Protocol sig (Phase × Stage) := (protocol t).prod (stages t)

abbrev bothRest (t : Thread) (l : Next) : Phase × Stage := (rest t l, stageRest t l)

/-- The holders are as the phases say, and the stages fit the phases. -/
structure StageInv (s : Shared) (q : Thread → Phase × Stage) : Prop where
  locks : LockInv s (Prod.fst ∘ q)
  fits : ∀ t, (q t).2.Fits (q t).1

/-- Every step keeps stages and locks together. -/
lemma stageInv_step {s s' : Shared} {q q' : Thread → Phase × Stage} {l : Step}
    (h : StageInv s q) (st : service.PStep both bothRest s q l s' q') : StageInv s' q' where
  locks := lockInv_step h.locks st.fst
  fits := by
    cases st with
    | @act t o r s' ok st =>
      refine (forall_update_iff q fun _ x => x.2.Fits x.1).mpr ⟨?_, fun u _ => h.fits u⟩
      cases t with
      | binder => exact fits_binder ok.2 ok.1 (h.fits .binder)
      | worker => exact fits_worker ok.2 ok.1 (h.fits .worker)
    | go _ _ => exact h.fits
    | env _ => exact h.fits

/-- They are together at the start. -/
lemma stageInv_start (udc : Option String) : StageInv { udc } fun _ => (.free, .idle) where
  locks := lockInv_start udc
  fits _ := .inl rfl

/-- What is left of the programs fits the phases and stages of the threads. -/
abbrev Fitting (c : Config sig Thread Next (Shared × History))
    (q : Thread → Phase × Stage) : Prop := Machine.Tracks both bothRest c q

/-- What a thread is about to perform is allowed by its phase and by its stage. -/
lemma Fitting.ok {c : Config sig Thread Next (Shared × History)} {q : Thread → Phase × Stage}
    (h : Fitting c q) {t : Thread} {o : Op} (e : (c.prog t).head? = some o) :
    (q t).1.ok t o ∧ (stages t).ok (q t).2 o := by
  obtain ⟨k, e⟩ := Prog.eq_op_of_head? e
  exact Machine.Tracks.ok h e

/-- An invariant of the stages, the shared state and the history holds in every run. -/
theorem observed_invariant {G : Shared × History → Step → Prop}
    {I : Shared × History → (Thread → Stage) → Prop} {udc : Option String}
    {c : Config sig Thread Next (Shared × History)}
    (start : I ({ udc }, {}) fun _ => .idle)
    (step : ∀ s h q l s' q', StageInv s q → I (s, h) (Prod.snd ∘ q) → G (s, h) l →
      service.PStep both bothRest s q l s' q' → I (s', h.note s l) (Prod.snd ∘ q'))
    (run : observed.Run G (observed.start udc) c) :
    ∃ q : Thread → Phase × Stage, StageInv c.shared.1 q ∧ I c.shared (Prod.snd ∘ q) ∧
      Fitting c q := by
  have obeys : observed.Obeys both bothRest := (service_obeys.prod service_obeys_stages).record
  have tracks : Machine.Tracks both bothRest (observed.start udc) fun _ => (.free, .idle) := by
    intro t
    cases t with
    | binder => exact rfl
    | worker => exact rfl
  obtain ⟨q, ⟨inv, hI⟩, tr⟩ := run.invariant
    (I := fun x q => StageInv x.1 q ∧ I x (Prod.snd ∘ q)) obeys
    (fun x q l x' q' hx hG st => by
      obtain ⟨st, e⟩ := st.of_record
      obtain ⟨s', h'⟩ := x'
      obtain rfl : h' = _ := e
      exact ⟨stageInv_step hx.1 st, step x.1 x.2 q l s' q' hx.1 hx.2 hG st⟩)
    ⟨stageInv_start udc, start⟩ tracks
  exact ⟨q, inv, hI, tr⟩

end Redfin.Usb
