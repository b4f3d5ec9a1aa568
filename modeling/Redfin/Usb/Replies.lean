import Redfin.Program.History
import Redfin.Program.Schedule
import Redfin.Program.Triples
import Redfin.Usb.Calls

/-!
# Every call is answered once

The HAL returns from a call at once and tells the framework later what has come of it, with the
arguments and the transaction id of the call. Beside the shared state stand the calls to be answered
that were made with a callback set, and what the framework has been told. Whatever the worker tells
it in between, and however long a role switch waits, the replies are those to the calls, one each
and in the order of the calls; only that to the call being served may be missing.
-/

set_option linter.unusedSectionVars false

namespace Redfin.Usb

open Function Program

section

variable [Libbase]

/-- The call that a notification answers; the status of the ports answers none. -/
def Notification.answers : Notification → Option Call
  | .enableUsbDataStatus portName enable _ id => some (.enableUsbData portName enable id)
  | .enableUsbDataWhileDockedStatus portName _ id => some (.enableUsbDataWhileDocked portName id)
  | .resetUsbPortStatus portName _ id => some (.resetUsbPort portName id)
  | .limitPowerTransferStatus portName limit _ id => some (.limitPowerTransfer portName limit id)
  | .contaminantEnabledStatus portName enable _ id =>
    some (.enableContaminantPresenceDetection portName enable id)
  | .roleSwitchStatus portName role _ id => some (.switchRole portName role id)
  | .queryPortStatus _ _ id => some (.queryPortStatus id)
  | .portStatusChange _ _ => none

/-- The call is to be answered; that of a limit only if its id is not negative. -/
def Call.expects : Call → Bool
  | .limitPowerTransfer _ _ id => 0 ≤ id
  | .setCallback _ => false
  | _ => true

/-- The calls to be answered that were made with a callback set, and what the framework was told. -/
structure Exchange where
  calls : List Call := []
  notifications : List Notification := []

/-- The calls that have been answered. -/
def Exchange.answered (h : Exchange) : List Call := h.notifications.filterMap Notification.answers

def Exchange.note (s : Shared) (l : Label sig Thread Turn EnvEvent) (h : Exchange) : Exchange :=
  match l with
  | .go .binder (.serve call) =>
    if s.callback && call.expects then { h with calls := h.calls ++ [call] } else h
  | .act _ (.notify n) _ => { h with notifications := h.notifications ++ [n] }
  | _ => h

/-- The service with its exchange with the framework. -/
def exchanging : Machine sig Thread Next Turn EnvEvent (Shared × Exchange) :=
  service.record Exchange.note

def exchanging.start (udc : Option String) : Config sig Thread Next (Shared × Exchange) :=
  (service.start udc).withHistory {}

/-! ## The account of the binder thread -/

/-- The callback, as only the binder thread changes it, with the calls made and answered. -/
structure Account where
  callback : Bool
  calls : List Call
  answered : List Call

def account (x : Shared × Exchange) : Account := ⟨x.1.callback, x.2.calls, x.2.answered⟩

namespace Account

/-- All calls are answered but for at most one. -/
def Fits (v : Account) : Prop := ∃ owed : Option Call, v.calls = v.answered ++ owed.toList

/-- All calls are answered but for this one, if it is to be. -/
def Owes (v : Account) (call : Call) : Prop :=
  v.calls = v.answered ++ if v.callback && call.expects then [call] else []

variable {v : Account} {call : Call}

/-- Where all calls are answered, none is owed. -/
lemma fits_of_settled (h : v.calls = v.answered) : v.Fits :=
  ⟨none, h.trans (List.append_nil _).symm⟩

/-- Where one call is owed, at most one is. -/
lemma Owes.fits (h : v.Owes call) : v.Fits := by
  unfold Owes at h
  split at h
  · exact ⟨some call, h⟩
  · exact ⟨none, h⟩

/-- A call that is not to be answered owes nothing. -/
lemma Owes.settled (h : v.Owes call) (none : (v.callback && call.expects) = false) :
    v.calls = v.answered := by
  rw [Owes, none] at h
  exact h.trans (List.append_nil _)

end Account

/-- The operation changes the callback or answers a call. -/
def Op.speaks : Op → Bool
  | .writeCallback _ => true
  | .notify n => n.answers.isSome
  | _ => false

/-- What the operations do to the account. -/
def accounting : Effects sig Account where
  safe _ v := v.Fits
  act
    | .readCallback, isSet, v => if isSet = v.callback then some v else none
    | .writeCallback isSet, _, v => some { v with callback := isSet }
    | .notify n, _, v => some { v with answered := v.answered ++ n.answers.toList }
    | _, _, v => some v

/-- Where a program of the binder thread returns. -/
def accountRest : Next → Account → Prop
  | .waitAgain portName role id, v => v.Owes (.switchRole portName role id)
  | _, v => v.calls = v.answered

section

variable {α β : Type} {v : Account} {call : Call} {post : α → Account → Prop}

/-- What leaves the account alone. -/
lemma act_accounting {v' : Account} {o : Op} {r : o.Res} (ho : o.speaks = false)
    (act : accounting.act o r v = some v') : v' = v := by
  cases o with
  | readCallback =>
    obtain ⟨-, rfl⟩ := of_enabled act
    exact rfl
  | writeCallback isSet => cases ho
  | notify n =>
    have none : n.answers = none := Option.not_isSome_iff_eq_none.mp (Bool.eq_false_iff.mp ho)
    cases act
    rw [none]
    exact congrArg (Account.mk _ _) (List.append_nil _)
  | _ =>
    cases act
    exact rfl

/-- A silent operation keeps the account. -/
lemma keeps_of_silent (fits : v.Fits) {o : Op} (ho : o.speaks = false) :
    accounting.Keeps v o :=
  ⟨fits, fun _ _ act => act_accounting ho act⟩

/-- A program that leaves the account alone. -/
abbrev Silent (p : Hal α) : Prop := p.All fun o : Op => o.speaks = false

/-- A silent part may stand before any other. -/
lemma Silent.wp_bind {p : Hal α} {k : α → Hal β} {post : β → Account → Prop} (hp : Silent p)
    (fits : v.Fits) (hk : ∀ a, (k a).Wp accounting v post) : (p >>= k).Wp accounting v post :=
  (hp.mono fun _ ho => keeps_of_silent fits ho).wp_bind hk

/-- A silent operation may stand before any program. -/
lemma wp_silent {o : Op} {k : o.Res → Hal α} (ho : o.speaks = false) (fits : v.Fits)
    (hk : ∀ r, (k r).Wp accounting v post) : (Prog.op o k : Hal α).Wp accounting v post := by
  obtain ⟨safe, keeps⟩ := keeps_of_silent fits ho
  refine ⟨safe, fun r v' act => ?_⟩
  obtain rfl := keeps r v' act
  exact hk r

/-- A notification that answers the call settles the account. -/
lemma wp_notify {n : Notification} {k : Unit → Hal β} {post : β → Account → Prop}
    (owes : v.Owes call) (answers : n.answers = some call) (expects : call.expects = true)
    (hk : ∀ v', v'.calls = v'.answered → (k ()).Wp accounting v' post) :
    (notify n >>= k).Wp accounting v post := by
  have fits := owes.fits
  apply wp_silent rfl fits
  intro _
  refine ⟨fits, fun isSet v' act => ?_⟩
  obtain ⟨rfl, rfl⟩ := of_enabled act
  unfold Account.Owes at owes
  rw [expects, Bool.and_true] at owes
  cases set : v.callback with
  | true =>
    refine ⟨fits, fun _ v' told => ?_⟩
    cases told
    rw [set] at owes
    have settled : v.calls = v.answered ++ n.answers.toList := by
      rw [answers]
      exact owes
    exact wp_silent rfl (Account.fits_of_settled settled) fun _ => hk _ settled
  | false =>
    rw [set] at owes
    have settled : v.calls = v.answered := owes.trans (List.append_nil _)
    exact wp_silent rfl fits fun _ => hk _ settled

/-! ## What each call owes -/

/-- The query is silent. -/
lemma silent_queryVersionHelper (v : List PortStatus) : Silent (queryVersionHelper v) := by
  have queries : Queries fun o : Op => o.speaks = false :=
    ⟨⟨fun _ => rfl, fun _ => rfl, fun _ => rfl, rfl, rfl⟩, fun _ _ => rfl, rfl, fun _ _ => rfl⟩
  exact all_queryVersionHelper queries rfl rfl v

/-- Going back to dual role is silent. -/
lemma silent_switchToDrp (portName : String) : Silent (switchToDrp portName) :=
  all_switchToDrp (fun _ => rfl) (fun _ _ => rfl) (fun _ => rfl) portName

/-- A call that is served without a wait returns with all calls answered. -/
abbrev Settles (p : Hal Unit) (v : Account) : Prop :=
  p.Wp accounting v fun _ v' => v'.calls = v'.answered

/-- Telling the answer settles the call. -/
lemma settles_notify {n : Notification} (owes : v.Owes call) (answers : n.answers = some call)
    (expects : call.expects = true) : Settles (notify n) v := by
  rw [← Prog.bind_ret (notify n)]
  exact wp_notify owes answers expects fun _ settled => settled

/-- The query that ends a call. -/
lemma settles_query (settled : v.calls = v.answered) :
    Settles (do let _ ← queryVersionHelper []) v :=
  (silent_queryVersionHelper []).wp_bind (Account.fits_of_settled settled) fun _ => settled

/-- The end of a call that tells what has come of it and then queries the ports. -/
lemma settles_tell {n : Notification} (owes : v.Owes call) (answers : n.answers = some call)
    (expects : call.expects = true) :
    Settles (do notify n; let _ ← queryVersionHelper []) v :=
  wp_notify owes answers expects fun _ settled => settles_query settled

/-- `enableUsbData` answers its call. -/
lemma settles_enableUsbData {portName : String} {enable : Bool} {id : ℤ}
    (owes : v.Owes (.enableUsbData portName enable id)) :
    Settles (enableUsbData portName enable id) v := by
  have fits := owes.fits
  have pull : Silent (setPullup enable) := all_setPullup rfl (fun _ => rfl) rfl
  apply pull.wp_bind fits
  intro pulled
  apply wp_silent rfl fits
  intro written
  have told : Settles (do
      notify (.enableUsbDataStatus portName enable (result (pulled && written)) id)
      let _ ← queryVersionHelper []) v := settles_tell owes rfl rfl
  show Settles (if (pulled && written) = true then _ else _) v
  split
  · exact wp_silent rfl fits fun _ => told
  · exact told

/-- The callback is read only after the nodes have been written. -/
lemma settles_limitPowerTransfer {portName : String} {limit : Bool} {id : ℤ}
    (owes : v.Owes (.limitPowerTransfer portName limit id)) :
    Settles (limitPowerTransfer portName limit id) v := by
  have fits := owes.fits
  have current : Silent (writeIf limit sinkCurrentLimitPath "0") :=
    all_writeIf (P := fun o : Op => o.speaks = false) rfl limit
  apply wp_silent rfl fits
  intro _
  apply current.wp_bind fits
  intro limited
  apply wp_silent rfl fits
  intro sunk
  apply wp_silent rfl fits
  intro sourced
  refine ⟨fits, fun isSet v' act => ?_⟩
  obtain ⟨rfl, rfl⟩ := of_enabled act
  have rest {v : Account} (settled : v.calls = v.answered) : Settles (do
      call (.unlock .mLock)
      let _ ← queryVersionHelper []) v :=
    wp_silent rfl (Account.fits_of_settled settled) fun _ => settles_query settled
  show Settles (if (v.callback && decide (0 ≤ id)) = true then _ else _) v
  split
  · rename_i told
    refine ⟨fits, fun _ v' act => ?_⟩
    cases act
    apply rest
    exact owes.trans (congrArg _ (if_pos told))
  · rename_i silent
    exact rest (owes.settled (Bool.eq_false_iff.mpr silent))

/-- `enableContaminantPresenceDetection` answers its call. -/
lemma settles_enableContaminantPresenceDetection {portName : String} {enable : Bool} {id : ℤ}
    (owes : v.Owes (.enableContaminantPresenceDetection portName enable id)) :
    Settles (enableContaminantPresenceDetection portName enable id) v := by
  have fits := owes.fits
  apply wp_silent rfl fits
  intro disable
  apply wp_silent rfl fits
  intro status
  have write (needed : Bool) (content : String) : Silent (writeIf needed kEnabledPath content) :=
    all_writeIf (P := fun o : Op => o.speaks = false) rfl needed
  apply (write _ _).wp_bind fits
  intro success
  exact settles_tell owes rfl rfl

/-- The callback changes with nothing owed. -/
lemma settles_setCallback {isSet : Bool} (owes : v.Owes (.setCallback isSet)) :
    Settles (setCallback isSet) v := by
  have settled := owes.settled (Bool.and_false _)
  have unlock {v : Account} (settled : v.calls = v.answered) :
      Settles (call (.unlock .mLock)) v :=
    wp_silent rfl (Account.fits_of_settled settled) fun _ => settled
  have fits := owes.fits
  apply wp_silent rfl fits
  intro _
  apply wp_silent rfl fits
  intro wasSet
  refine ⟨fits, fun _ v' act => ?_⟩
  cases act
  have now : Account.Fits { v with callback := isSet } := fits
  show Settles (if wasSet ≠ isSet then _ else _) { v with callback := isSet }
  split
  · cases isSet with
    | false =>
      apply wp_silent rfl now
      intro killed
      cases killed with
      | false => exact unlock settled
      | true => exact wp_silent rfl now fun _ => unlock settled
    | true =>
      apply wp_silent rfl now
      intro _
      apply wp_silent rfl now
      intro _
      apply wp_silent rfl now
      intro created
      cases created with
      | true => exact unlock settled
      | false =>
        refine ⟨now, fun _ v' act => ?_⟩
        cases act
        exact unlock settled
  · exact unlock settled

/-! ### Role switches -/

/-- The program of a call or of a wait returns as the account says. -/
abbrev Accounts (p : Hal Next) (v : Account) : Prop := p.Wp accounting v accountRest

/-- A call that is settled when it is served returns as the account says. -/
lemma Settles.accounts {p : Hal Unit} (hp : Settles p v) : Accounts (serve p) v :=
  Prog.Wp.bind hp fun _ _ settled => settled

section

variable {portName : String} {role : PortRole} {id : ℤ}

/-- The end of a role switch answers the call. -/
lemma accounts_finishRoleSwitch (owes : v.Owes (.switchRole portName role id)) (roleSwitch : Bool) :
    Accounts (finishRoleSwitch portName role id roleSwitch) v := by
  apply wp_notify owes rfl rfl
  intro v' settled
  exact wp_silent rfl (Account.fits_of_settled settled) fun _ => settled

/-- The end of a mode switch answers the call. -/
lemma accounts_finishModeSwitch (owes : v.Owes (.switchRole portName role id)) (roleSwitch : Bool) :
    Accounts (finishModeSwitch portName role id roleSwitch) v := by
  cases roleSwitch with
  | true => exact accounts_finishRoleSwitch owes true
  | false =>
    apply (silent_switchToDrp portName).wp_bind owes.fits
    exact fun _ => accounts_finishRoleSwitch owes false

/-- A wait that goes on still owes its answer. -/
lemma accounts_waitAgain (owes : v.Owes (.switchRole portName role id)) :
    Accounts (waitAgain portName role id) v := by
  have fits := owes.fits
  apply wp_silent rfl fits
  intro _
  apply wp_silent rfl fits
  intro timedOut
  apply wp_silent rfl fits
  intro _
  cases timedOut with
  | true => exact wp_silent rfl fits fun _ => accounts_finishModeSwitch owes false
  | false =>
    apply wp_silent rfl fits
    intro up
    cases up with
    | false => exact owes
    | true => exact wp_silent rfl fits fun _ => accounts_finishModeSwitch owes true

/-- A mode switch answers the call, or still owes it in the wait. -/
lemma accounts_switchMode (owes : v.Owes (.switchRole portName role id)) :
    Accounts (switchMode portName role id) v := by
  have fits := owes.fits
  apply wp_silent rfl fits
  intro opened
  cases opened with
  | false => exact accounts_finishModeSwitch owes false
  | true =>
    apply wp_silent rfl fits
    intro _
    apply wp_silent rfl fits
    intro _
    apply wp_silent rfl fits
    intro written
    apply wp_silent rfl fits
    intro _
    cases written with
    | true => exact owes
    | false => exact wp_silent rfl fits fun _ => accounts_finishModeSwitch owes false

/-- `switchRole` answers the call, or still owes it in the wait. -/
lemma accounts_switchRole (owes : v.Owes (.switchRole portName role id)) :
    Accounts (switchRole portName role id) v := by
  apply wp_silent rfl owes.fits
  intro _
  show Accounts (if role.getTag = .mode then _ else _) v
  split
  · exact accounts_switchMode owes
  · have write : Silent (writeRole portName role) :=
      all_writeRole (fun _ => rfl) (fun _ _ => rfl) (fun _ => rfl) (fun _ => rfl) portName
    apply write.wp_bind owes.fits
    exact fun roleSwitch => accounts_finishRoleSwitch owes roleSwitch

end

/-- So does every call. -/
lemma accounts_call (owes : v.Owes call) : Accounts call.program v := by
  cases call with
  | enableUsbData portName enable id => exact (settles_enableUsbData owes).accounts
  | enableUsbDataWhileDocked portName id =>
    have told : Settles (enableUsbDataWhileDocked portName id) v := settles_tell owes rfl rfl
    exact told.accounts
  | resetUsbPort portName id =>
    have told : Settles (resetUsbPort portName id) v := by
      apply wp_silent rfl owes.fits
      exact fun success => settles_notify owes rfl rfl
    exact told.accounts
  | limitPowerTransfer portName limit id => exact (settles_limitPowerTransfer owes).accounts
  | switchRole portName role id => exact accounts_switchRole owes
  | queryPortStatus id =>
    have told : Settles (queryPortStatus id) v := by
      apply (silent_queryVersionHelper []).wp_bind owes.fits
      exact fun _ => settles_notify owes rfl rfl
    exact told.accounts
  | enableContaminantPresenceDetection portName enable id =>
    exact (settles_enableContaminantPresenceDetection owes).accounts
  | setCallback isSet => exact (settles_setCallback owes).accounts

end

/-! ## Every run -/

/-- The worker neither changes the callback nor answers a call. -/
abbrev Op.AllowedTo (t : Thread) (o : Op) : Prop := t = .worker → o.speaks = false

/-- The records of one message are silent. -/
lemma silent_handleRecords (cps : List (List Char)) : Silent (handleRecords cps) := by
  have switch (ports : List PortStatus) : Silent (switchDisconnected ports) :=
    all_switchDisconnected (fun _ => rfl) silent_switchToDrp ports
  have added : Silent partnerAdded :=
    ⟨rfl, fun _ => ⟨rfl, fun _ => ⟨rfl, fun _ => ⟨rfl, fun _ => trivial⟩⟩⟩⟩
  exact all_handleRecords added (all_portEvent (silent_queryVersionHelper []) rfl switch rfl) cps

abbrev silence : Protocol sig Unit := .always fun o : Op => o.speaks = false

/-- What a thread takes up performs only what it is allowed. -/
lemma allowed_go {t : Thread} {l : Next} {x : Turn} {s s' : Shared} {p : Hal Next}
    (h : go t l x s = some (p, s')) : p.All (Op.AllowedTo t) := by
  have any (p : Hal Next) : p.All (Op.AllowedTo .binder) := by
    induction p with
    | ret l => exact trivial
    | op o k ih => exact ⟨fun worker => absurd worker (by decide), ih⟩
  have polls (o : Op) (ho : o.runsWorker = true) : silence.Neutral () o := by
    refine ⟨?_, fun _ => rfl⟩
    cases o with
    | writeCallback isSet | notify n => cases ho
    | _ => exact rfl
  have worker {p : Hal Next} (hp : Silent p) : p.All (Op.AllowedTo .worker) :=
    hp.mono fun _ ho _ => ho
  cases goes_of_go h with
  | serve call => exact any _
  | waitAgain portName role id => exact any _
  | start created =>
    have begins : work.Follows silence () fun _ _ => True := follows_work polls trivial trivial
    exact worker begins.all
  | loop =>
    have handle (cps : List (List Char)) :
        (handleRecords cps).Follows silence () fun _ q => q = () :=
      ((silent_handleRecords cps).mono fun _ ho => ⟨ho, fun _ => rfl⟩).follows fun _ => rfl
    have turns : workTurn.Follows silence () fun _ _ => True :=
      follows_workTurn polls handle trivial trivial
    exact worker turns.all

/-- An operation changes the account as it says. -/
lemma account_act {t : Thread} {o : Op} {r : o.Res} {x x' : Shared × Exchange}
    (h : exchanging.act t o r x = some x') :
    accounting.act o r (account x) = some (account x') := by
  obtain ⟨s, act, rfl⟩ := Option.map_eq_some_iff.mp h
  have act : Usb.act t o r x.1 = some s := act
  cases o with
  | readCallback =>
    obtain ⟨rfl, rfl⟩ := of_enabled act
    exact if_pos rfl
  | writeCallback isSet =>
    cases act
    exact rfl
  | notify n =>
    cases act
    have told : (x.2.notifications ++ [n]).filterMap Notification.answers =
        x.2.answered ++ n.answers.toList := by
      rw [List.filterMap_append, List.filterMap_cons]
      cases n.answers <;> exact rfl
    exact congrArg some (congrArg (Account.mk _ _) told.symm)
  | writePartnerUp up =>
    cases act
    exact rfl
  | _ =>
    have same := ((frame_act act).flags rfl).callback
    exact congrArg some (congrArg (Account.mk · _ _) same.symm)

/-- The account belongs to the binder thread in every run. -/
lemma owns_account : (exchanging.only Op.AllowedTo).Owns (fun _ _ => True) .binder account
    accounting accountRest where
  act _ h := account_act (Machine.act_only h).2
  other {u o r x x'} hu h := by
    obtain ⟨allowed, act⟩ := Machine.act_only h
    cases u with
    | binder => exact absurd rfl hu
    | worker => exact act_accounting (allowed rfl) (account_act act)
  go {l turn x p x'} _ h settled := by
    obtain ⟨taken, noted⟩ := Machine.go_record h
    obtain ⟨s', h'⟩ := x'
    cases goes_of_go taken with
    | serve call =>
      have noted : h' = if x.1.callback && call.expects then
          { x.2 with calls := x.2.calls ++ [call] } else x.2 := noted
      have settled : x.2.calls = x.2.answered := settled
      apply accounts_call
      show h'.calls = h'.answered ++ if x.1.callback && call.expects then [call] else []
      rw [noted]
      split
      · exact congrArg (· ++ [call]) settled
      · exact settled.trans (List.append_nil _).symm
    | waitAgain portName role id =>
      obtain rfl : h' = x.2 := noted
      exact accounts_waitAgain settled
  goOther {u l turn x p x'} hu h := by
    obtain ⟨taken, noted⟩ := Machine.go_record h
    obtain ⟨s', h'⟩ := x'
    cases goes_of_go taken with
    | serve call => exact absurd rfl hu
    | waitAgain portName role id => exact absurd rfl hu
    | start created => exact congrArg (fun h : Exchange => account (x.1, h)) noted
    | loop => exact congrArg (fun h : Exchange => account (x.1, h)) noted
  env {e x x'} h := by
    obtain ⟨s, env, rfl⟩ := Option.map_eq_some_iff.mp h
    have same := (sameFlags_env env).callback
    exact congrArg (Account.mk · _ _) same

/-- The replies that the framework has been sent are those to the calls that it has made with a
callback set, one each and in their order, but for at most one that is being served. -/
theorem calls_answered {udc : Option String} {c : Config sig Thread Next (Shared × Exchange)}
    (run : exchanging.Reach (exchanging.start udc) c) :
    (∃ owed : Option Call, c.shared.2.calls = c.shared.2.answered ++ owed.toList) ∧
      (c.prog .binder = .ret .ready → c.shared.2.calls = c.shared.2.answered) := by
  have takes (t : Thread) (l : Next) (turn : Turn) (x : Shared × Exchange) (p : Hal Next)
      (x' : Shared × Exchange) (h : exchanging.go t l turn x = some (p, x')) :
      p.All (Op.AllowedTo t) := allowed_go (Machine.go_record h).1
  have idle (t : Thread) : ((exchanging.start udc).prog t).All (Op.AllowedTo t) := by
    cases t <;> exact trivial
  have settled : ((exchanging.start udc).prog .binder).Wp accounting
      (account (exchanging.start udc).shared) accountRest := rfl
  have wp := (run.only takes idle).1.wp owns_account settled
  constructor
  · cases e : c.prog .binder with
    | op o k =>
      rw [e] at wp
      exact wp.1
    | ret l =>
      rw [e] at wp
      cases l with
      | waitAgain portName role id => exact Account.Owes.fits wp
      | _ => exact Account.fits_of_settled wp
  · intro ready
    rw [ready] at wp
    exact wp

/-- A schedule: a callback is set, and a port is reset. -/
def resetSchedule : List (Label sig Thread Turn EnvEvent) :=
  [.go .binder (.serve (.setCallback true)), .act .binder (.lock .mLock) (),
    .act .binder .readCallback false, .act .binder (.writeCallback true) (),
    .act .binder (.writeDestroyThread false) (), .act .binder .signal (),
    .act .binder .pthreadCreate true, .act .binder (.unlock .mLock) (),
    .go .binder (.serve (.resetUsbPort "port0" 7)),
    .act .binder (.writeFile pullupPath "none") false, .act .binder (.lock .mLock) (),
    .act .binder .readCallback true,
    .act .binder (.notify (.resetUsbPortStatus "port0" .error 7)) (),
    .act .binder (.unlock .mLock) ()]

end

open Libbase.Documented in
/-- A call is made and answered. -/
theorem calls_answered_reset : ∃ c, exchanging.Reach (exchanging.start none) c ∧
    c.shared.2.answered = [.resetUsbPort "port0" 7] ∧ c.shared.2.calls = c.shared.2.answered := by
  have h : (exchanging.play (fun _ _ => True) resetSchedule (exchanging.start none)).map
      (fun c => ((c.prog .binder).value?, c.shared.2.answered)) =
        some (some .ready, [.resetUsbPort "port0" 7]) := rfl
  obtain ⟨c, run, hc⟩ := exchanging.exists_run h
  obtain ⟨ready, answered⟩ := Prod.mk.inj hc
  exact ⟨c, run, answered, (calls_answered run).2 (Prog.eq_ret_of_value? ready)⟩

end Redfin.Usb
