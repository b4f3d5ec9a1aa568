import Redfin.Program.Locks
import Redfin.Usb.Calls
import Redfin.Usb.Service

/-!
# The locks of the USB service

Which locks a thread holds at each point of its programs, as a protocol with one phase for every
combination that occurs. Only the binder thread nests locks: `mPartnerLock` or `mLock` inside
`mRoleSwitchLock`. The worker takes `mLock` and `mPartnerLock` with no other lock held, and
`mRoleSwitchLock` by `pthread_mutex_trylock` only.
-/

set_option linter.unusedSectionVars false

namespace Redfin.Usb

open Function Program

variable [Libbase]

/-- Where a thread is. In `pending` and `partner true` the worker has a record before it that makes
it query the ports. -/
inductive Phase where
  | free
  | locked
  | joining
  | role
  | rolePartner
  | roleLocked
  | pending
  | partner (pending : Bool)
deriving DecidableEq

namespace Phase

def held : Phase → Finset Mutex
  | free | pending => ∅
  | locked | joining => {.mLock}
  | role => {.mRoleSwitchLock}
  | rolePartner => {.mPartnerLock, .mRoleSwitchLock}
  | roleLocked => {.mLock, .mRoleSwitchLock}
  | partner _ => {.mPartnerLock}

/-- The worker has a query before it. -/
def hasQuery (q : Phase) : Prop := q = .pending ∨ q = .partner true

/-- The phase before the records of a message. -/
def ofQuery (query : Bool) : Phase := if query then .pending else .free

/-- The thread may take the lock. -/
def mayLock (q : Phase) : Thread → Mutex → Prop
  | .binder, .mLock => q = .free ∨ q = .role
  | .binder, .mRoleSwitchLock => q = .free
  | .binder, .mPartnerLock => q = .role
  | .worker, .mLock => q = .pending
  | .worker, .mRoleSwitchLock => False
  | .worker, .mPartnerLock => q = .free ∨ q = .pending

/-- The operations a thread performs in a phase. -/
def ok (t : Thread) (q : Phase) : Op → Prop
  | .lock m => q.mayLock t m
  | .unlock .mLock => q = .locked ∨ q = .roleLocked
  | .unlock .mRoleSwitchLock => q = .role
  | .unlock .mPartnerLock => q = .rolePartner ∨ ∃ b, q = .partner b
  | .trylock m => t = .worker ∧ m = .mRoleSwitchLock ∧ q = .free
  | .condRelease => q = .rolePartner
  | .pthreadKill => t = .binder ∧ q = .locked
  | .pthreadJoin => t = .binder ∧ q = .joining
  | .recv => t = .worker ∧ q = .free
  | _ => True

/-- The phase after taking a lock. -/
def lock : Phase → Mutex → Phase
  | .role, .mLock => .roleLocked
  | _, .mLock => .locked
  | _, .mRoleSwitchLock => .role
  | .role, .mPartnerLock => .rolePartner
  | .pending, .mPartnerLock => .partner true
  | _, .mPartnerLock => .partner false

/-- The phase after releasing a lock. -/
def unlock : Phase → Mutex → Phase
  | .roleLocked, _ => .role
  | .rolePartner, _ => .role
  | .partner b, _ => ofQuery b
  | _, _ => .free

/-- The phase after an operation with its result. -/
def next (q : Phase) : (o : Op) → o.Res → Phase
  | .lock m, _ => q.lock m
  | .unlock m, _ => q.unlock m
  | .trylock _, taken => if taken then .role else q
  | .condRelease, _ => .role
  | .pthreadKill, killed => if killed then .joining else q
  | .pthreadJoin, _ => .locked
  | .recv, packet => ofQuery (packet.any wantsQuery)
  | _, _ => q

end Phase

/-- The protocol of a thread. -/
def protocol (t : Thread) : Protocol sig Phase where
  ok := Phase.ok t
  next := Phase.next

/-- The phase in which a program ends. -/
def rest : Thread → Next → Phase
  | .binder, .waitAgain _ _ _ => .rolePartner
  | _, _ => .free

/-! ## The programs follow the protocol -/

section

variable {t : Thread} {q : Phase}

/-- The operations of the query are no change of phase. -/
lemma queries_neutral (t : Thread) (q : Phase) : Queries ((protocol t).Neutral q) where
  readFile _ := ⟨trivial, fun _ => rfl⟩
  listDir _ := ⟨trivial, fun _ => rfl⟩
  hashOrder _ := ⟨trivial, fun _ => rfl⟩
  readUsbDataEnabled := ⟨trivial, fun _ => rfl⟩
  abort := ⟨trivial, fun _ => rfl⟩
  access _ _ := ⟨trivial, fun _ => rfl⟩
  readCallback := ⟨trivial, fun _ => rfl⟩
  notify _ _ := ⟨trivial, fun _ => rfl⟩

/-- A query takes `mLock` and releases it. -/
lemma follows_queryVersionHelper {v : List PortStatus} {post : List PortStatus → Phase → Prop}
    (ok : q.mayLock t .mLock) (hq : q.lock .mLock = .locked) (h : ∀ v, post v .free) :
    (queryVersionHelper v).Follows (protocol t) q post := by
  have neutral := queries_neutral t .locked
  refine ⟨ok, fun _ => ?_⟩
  show Prog.Follows _ _ (q.lock .mLock) _
  rw [hq]
  refine (all_getPortStatusHelper neutral v).follows_bind fun r => ?_
  have moisture := keeps_queryMoistureDetectionStatus (v := r.2) neutral.toReads
    (neutral.access _ _) rfl
  refine moisture.all.follows_bind fun r => ?_
  have power := keeps_queryPowerTransferStatus (v := r.2) neutral.toReads (neutral.access _ _) rfl
  refine power.all.follows_bind fun r => ?_
  refine ⟨trivial, fun isSet => ?_⟩
  cases isSet with
  | true => exact ⟨trivial, fun _ => ⟨.inl rfl, fun _ => h _⟩⟩
  | false => exact ⟨.inl rfl, fun _ => h _⟩

/-- A notification takes `mLock` and releases it, inside `mRoleSwitchLock` or not. -/
lemma follows_notify {n : Notification} {post : Unit → Phase → Prop} (ok : q.mayLock t .mLock)
    (hq : q.lock .mLock = .locked ∨ q.lock .mLock = .roleLocked)
    (h : post () ((q.lock .mLock).unlock .mLock)) :
    (notify n).Follows (protocol t) q post := by
  refine ⟨ok, fun _ => ⟨trivial, fun isSet => ?_⟩⟩
  cases isSet with
  | true => exact ⟨trivial, fun _ => ⟨hq, fun _ => h⟩⟩
  | false => exact ⟨hq, fun _ => h⟩

/-- Going back to dual role is no change of phase. -/
lemma neutral_switchToDrp (t : Thread) (portName : String) :
    (switchToDrp portName).All ((protocol t).Neutral .role) :=
  all_switchToDrp (fun _ => ⟨trivial, fun _ => rfl⟩) (fun _ _ => ⟨trivial, fun _ => rfl⟩)
    (fun _ => ⟨trivial, fun _ => rfl⟩) portName

end

/-! ### The binder thread -/

/-- A call that is served without a wait begins and ends with no lock held. -/
abbrev Serves {α : Type} (p : Hal α) : Prop :=
  p.Follows (protocol .binder) .free fun _ q => q = .free

/-- The query is served without a wait. -/
lemma serves_queryVersionHelper (v : List PortStatus) : Serves (queryVersionHelper v) :=
  follows_queryVersionHelper (.inl rfl) rfl fun _ => rfl

/-- Telling the callback is served without a wait. -/
lemma serves_notify (n : Notification) : Serves (notify n) :=
  follows_notify (.inl rfl) (.inl rfl) rfl

/-- Parts that are served without a wait compose. -/
lemma Serves.bind {α β : Type} {p : Hal α} {k : α → Hal β} (hp : Serves p)
    (hk : ∀ a, Serves (k a)) : Serves (p >>= k) :=
  Prog.Follows.bind hp fun a q hq => by
    cases hq
    exact hk a

/-- `enableUsbData` is served without a wait. -/
lemma serves_enableUsbData (portName : String) (enable : Bool) (id : ℤ) :
    Serves (enableUsbData portName enable id) := by
  have pull : (setPullup enable).All ((protocol .binder).Neutral .free) :=
    all_setPullup ⟨trivial, fun _ => rfl⟩ (fun _ => ⟨trivial, fun _ => rfl⟩)
      ⟨trivial, fun _ => rfl⟩
  refine pull.follows_bind fun pulled => ?_
  refine ⟨trivial, fun written => ?_⟩
  have rest : Serves (do
      notify (.enableUsbDataStatus portName enable (result (pulled && written)) id)
      let _ ← queryVersionHelper []) :=
    (serves_notify _).bind fun _ => (serves_queryVersionHelper []).bind fun _ => rfl
  show Serves (if (pulled && written) = true then _ else _)
  split
  · exact ⟨trivial, fun _ => rest⟩
  · exact rest

/-- `limitPowerTransfer` is served without a wait. -/
lemma serves_limitPowerTransfer (portName : String) (limit : Bool) (id : ℤ) :
    Serves (limitPowerTransfer portName limit id) := by
  have rest : Prog.Follows (protocol .binder) (do
      call (.unlock .mLock)
      let _ ← queryVersionHelper []) .locked fun _ q => q = .free :=
    ⟨.inl rfl, fun _ => (serves_queryVersionHelper []).bind fun _ => rfl⟩
  refine ⟨.inl rfl, fun _ => ?_⟩
  have limits : (writeIf limit sinkCurrentLimitPath "0").All ((protocol .binder).Neutral .locked) :=
    all_writeIf ⟨trivial, fun _ => rfl⟩ limit
  refine limits.follows_bind fun current => ?_
  refine ⟨trivial, fun sink => ⟨trivial, fun source => ⟨trivial, fun isSet => ?_⟩⟩⟩
  show Prog.Follows _ (if (isSet && decide (0 ≤ id)) = true then _ else _) _ _
  split
  · exact ⟨trivial, fun _ => rest⟩
  · exact rest

/-- `enableContaminantPresenceDetection` is served without a wait. -/
lemma serves_enableContaminantPresenceDetection (portName : String) (enable : Bool) (id : ℤ) :
    Serves (enableContaminantPresenceDetection portName enable id) := by
  refine ⟨trivial, fun disable => ⟨trivial, fun status => ?_⟩⟩
  have write (needed : Bool) (content : String) :
      (writeIf needed kEnabledPath content).All ((protocol .binder).Neutral .free) :=
    all_writeIf ⟨trivial, fun _ => rfl⟩ needed
  refine (write _ _).follows_bind fun success => ?_
  exact (serves_notify _).bind fun _ => (serves_queryVersionHelper []).bind fun _ => rfl

/-- The callback is cleared and the worker joined under `mLock`. -/
lemma serves_setCallback (isSet : Bool) : Serves (setCallback isSet) := by
  have unlock : Prog.Follows (protocol .binder) (call (.unlock .mLock)) .locked
      fun _ q => q = .free := ⟨.inl rfl, fun _ => rfl⟩
  refine ⟨.inl rfl, fun _ => ⟨trivial, fun wasSet => ⟨trivial, fun _ => ?_⟩⟩⟩
  show Prog.Follows _ (if wasSet ≠ isSet then _ else _) _ _
  split
  · cases isSet with
    | false =>
      refine ⟨⟨rfl, rfl⟩, fun killed => ?_⟩
      cases killed with
      | false => exact unlock
      | true => exact ⟨⟨rfl, rfl⟩, fun _ => unlock⟩
    | true =>
      refine ⟨trivial, fun _ => ⟨trivial, fun _ => ⟨trivial, fun created => ?_⟩⟩⟩
      cases created with
      | false => exact ⟨trivial, fun _ => unlock⟩
      | true => exact unlock
  · exact unlock

/-- Every program of the binder thread ends in the phase that fits what comes next. -/
abbrev Rests (t : Thread) (q : Phase) (p : Hal Next) : Prop :=
  p.Follows (protocol t) q fun l q' => q' = rest t l

/-- A call that is served without a wait leaves its thread free. -/
lemma Serves.rests {p : Hal Unit} (hp : Serves p) : Rests .binder .free (serve p) :=
  Prog.Follows.bind hp fun _ _ hq => hq

/-- The end of a role switch gives back `mRoleSwitchLock`. -/
lemma rests_finishRoleSwitch (portName : String) (role : PortRole) (id : ℤ) (roleSwitch : Bool) :
    Rests .binder .role (finishRoleSwitch portName role id roleSwitch) := by
  have notified : (notify (.roleSwitchStatus portName role (result roleSwitch) id)).Follows
      (protocol .binder) .role fun _ q => q = .role :=
    follows_notify (.inr rfl) (.inr rfl) rfl
  refine notified.bind fun _ q hq => ?_
  cases hq
  exact ⟨rfl, fun _ => rfl⟩

/-- So does the end of a mode switch. -/
lemma rests_finishModeSwitch (portName : String) (role : PortRole) (id : ℤ) (roleSwitch : Bool) :
    Rests .binder .role (finishModeSwitch portName role id roleSwitch) := by
  cases roleSwitch with
  | true => exact rests_finishRoleSwitch portName role id true
  | false =>
    refine (neutral_switchToDrp .binder portName).follows_bind fun _ => ?_
    exact rests_finishRoleSwitch portName role id false

/-- A mode switch ends free or in its wait. -/
lemma rests_switchMode (portName : String) (role : PortRole) (id : ℤ) :
    Rests .binder .role (switchMode portName role id) := by
  have failed := rests_finishModeSwitch portName role id false
  refine ⟨trivial, fun opened => ?_⟩
  cases opened with
  | false => exact failed
  | true =>
    refine ⟨rfl, fun _ => ⟨trivial, fun _ => ⟨trivial, fun written => ⟨trivial, fun _ => ?_⟩⟩⟩⟩
    cases written with
    | true => exact rfl
    | false => exact ⟨.inl rfl, fun _ => failed⟩

/-- A turn of the wait gives up `mPartnerLock` only, and takes it again. -/
lemma rests_waitAgain (portName : String) (role : PortRole) (id : ℤ) :
    Rests .binder .rolePartner (waitAgain portName role id) := by
  refine ⟨rfl, fun _ => ⟨trivial, fun timedOut => ⟨rfl, fun _ => ?_⟩⟩⟩
  cases timedOut with
  | true => exact ⟨.inl rfl, fun _ => rests_finishModeSwitch portName role id false⟩
  | false =>
    refine ⟨trivial, fun up => ?_⟩
    cases up with
    | false => exact rfl
    | true => exact ⟨.inl rfl, fun _ => rests_finishModeSwitch portName role id true⟩

/-- `switchRole` ends free or in its wait. -/
lemma rests_switchRole (portName : String) (role : PortRole) (id : ℤ) :
    Rests .binder .free (switchRole portName role id) := by
  refine ⟨rfl, fun _ => ?_⟩
  show Rests .binder .role (if role.getTag = .mode then _ else _)
  split
  · exact rests_switchMode portName role id
  · have write : (writeRole portName role).All ((protocol .binder).Neutral .role) :=
      all_writeRole (fun _ => ⟨trivial, fun _ => rfl⟩) (fun _ _ => ⟨trivial, fun _ => rfl⟩)
        (fun _ => ⟨trivial, fun _ => rfl⟩) (fun _ => ⟨trivial, fun _ => rfl⟩) portName
    refine write.follows_bind fun roleSwitch => ?_
    exact rests_finishRoleSwitch portName role id roleSwitch

/-- Every call ends free or in a wait. -/
lemma rests_call (call : Call) : Rests .binder .free call.program := by
  cases call with
  | enableUsbData portName enable id => exact (serves_enableUsbData portName enable id).rests
  | enableUsbDataWhileDocked portName id =>
    exact Serves.rests ((serves_notify _).bind fun _ =>
      (serves_queryVersionHelper []).bind fun _ => rfl)
  | resetUsbPort portName id => exact Serves.rests ⟨trivial, fun _ => serves_notify _⟩
  | limitPowerTransfer portName limit id =>
    exact (serves_limitPowerTransfer portName limit id).rests
  | switchRole portName role id => exact rests_switchRole portName role id
  | queryPortStatus id =>
    exact Serves.rests ((serves_queryVersionHelper []).bind fun _ => serves_notify _)
  | enableContaminantPresenceDetection portName enable id =>
    exact (serves_enableContaminantPresenceDetection portName enable id).rests
  | setCallback isSet => exact (serves_setCallback isSet).rests

/-! ### The worker -/

/-- The query of a message takes `mLock`; the role switch lock is only tried. -/
lemma follows_portEvent : portEvent.Follows (protocol .worker) .pending fun _ q => q = .free := by
  have query : (queryVersionHelper []).Follows (protocol .worker) .pending fun _ q => q = .free :=
    follows_queryVersionHelper rfl rfl fun _ => rfl
  refine query.bind fun ports q hq => ?_
  cases hq
  refine ⟨⟨rfl, rfl, rfl⟩, fun taken => ?_⟩
  cases taken with
  | false => exact rfl
  | true =>
    have switch : (switchDisconnected ports).All ((protocol .worker).Neutral .role) :=
      all_switchDisconnected (fun _ => ⟨trivial, fun _ => rfl⟩) (neutral_switchToDrp .worker) ports
    refine switch.follows_bind fun _ => ?_
    exact ⟨rfl, fun _ => rfl⟩

/-- The report of a partner takes its lock and gives it back. -/
lemma follows_partnerAdded (query : Bool) :
    partnerAdded.Follows (protocol .worker) (.ofQuery query) fun _ q => q = .ofQuery query := by
  cases query with
  | true =>
    exact ⟨.inr rfl, fun _ => ⟨trivial, fun _ => ⟨trivial, fun _ => ⟨.inr ⟨_, rfl⟩, fun _ => rfl⟩⟩⟩⟩
  | false =>
    exact ⟨.inl rfl, fun _ => ⟨trivial, fun _ => ⟨trivial, fun _ => ⟨.inr ⟨_, rfl⟩, fun _ => rfl⟩⟩⟩⟩

/-- The loop over the records: it is pending as long as a record to query for lies ahead. -/
lemma follows_handleRecords (cps : List (List Char)) :
    (handleRecords cps).Follows (protocol .worker)
      (.ofQuery (cps.any fun cp => !isPartnerAdd cp && isPortEvent cp)) fun _ q => q = .free := by
  induction cps with
  | nil => exact rfl
  | cons cp cps ih =>
    rw [handleRecords, List.any_cons]
    by_cases add : isPartnerAdd cp = true
    · rw [if_pos add, add, Bool.not_true, Bool.false_and, Bool.false_or]
      refine (follows_partnerAdded _).bind fun _ q hq => ?_
      cases hq
      exact ih
    · rw [if_neg add, Bool.eq_false_iff.mpr add, Bool.not_false, Bool.true_and]
      by_cases port : isPortEvent cp = true
      · rw [if_pos port, port, Bool.true_or]
        exact follows_portEvent
      · rw [if_neg port, Bool.eq_false_iff.mpr port, Bool.false_or]
        exact ih

/-- The handler of a message begins and ends with no lock. -/
lemma follows_ueventEvent :
    ueventEvent.Follows (protocol .worker) .free fun _ q => q = .free := by
  refine ⟨⟨rfl, rfl⟩, fun packet => ?_⟩
  cases packet with
  | none => exact rfl
  | some msg =>
    have records := follows_handleRecords (records msg)
    show Prog.Follows _ (if msg.length ≥ ueventMsgLen then _ else _)
      (Phase.ofQuery (wantsQuery msg)) _
    by_cases long : msg.length ≥ ueventMsgLen
    · rw [if_pos long, wantsQuery, decide_eq_false (Nat.not_lt.mpr long), Bool.false_and]
      exact rfl
    · rw [if_neg long, wantsQuery, decide_eq_true (Nat.not_le.mp long), Bool.true_and]
      exact records

/-- The end of the worker holds no lock. -/
lemma rests_exitWorker : Rests .worker .free exitWorker :=
  ⟨trivial, fun _ => ⟨trivial, fun _ => rfl⟩⟩

/-- The worker's loop ends with no lock. -/
lemma rests_work : Rests .worker .free work := by
  refine ⟨trivial, fun opened => ?_⟩
  cases opened with
  | false => exact ⟨trivial, fun _ => rfl⟩
  | true =>
    refine ⟨trivial, fun created => ?_⟩
    cases created with
    | false => exact rests_exitWorker
    | true =>
      refine ⟨trivial, fun added => ?_⟩
      cases added with
      | false => exact rests_exitWorker
      | true => exact rfl

/-- A turn of the worker ends with no lock. -/
lemma rests_workTurn : Rests .worker .free workTurn := by
  refine ⟨trivial, fun destroy => ?_⟩
  cases destroy with
  | true => exact rests_exitWorker
  | false =>
    refine ⟨trivial, fun _ => ⟨trivial, fun r => ?_⟩⟩
    cases r with
    | interrupted => exact rfl
    | failed => exact rests_exitWorker
    | ready => exact follows_ueventEvent.bind fun _ _ hq => hq

/-- What the threads of the service take up follows their protocols. -/
theorem service_obeys : service.Obeys protocol rest := by
  intro t l x s p s' h
  cases goes_of_go h with
  | serve call => exact rests_call call
  | waitAgain portName role id => exact rests_waitAgain portName role id
  | start created => exact rests_work
  | loop => exact rests_workTurn

end Redfin.Usb
