import Redfin.Usb.LockUse

/-!
# What the locks of the USB HAL guard

`mLock` guards the callback, and `mPartnerLock` guards `mPartnerUp`. The framework is told something
only by a thread that has found the callback set since it took `mLock`, and `switchMode` is woken
up only by one that has set `mPartnerUp`. The nodes that limit the power transfer are written with
`mLock` held, so no query sees one of them written and the others not yet.
-/

set_option linter.unusedSectionVars false

namespace Redfin.Usb

open Function Program

section

variable [Libbase]

/-- The nodes of `limitPowerTransfer`. -/
def powerLimitPaths : List String := [sinkCurrentLimitPath, sinkLimitEnablePath,
  sourceLimitEnablePath]

/-- A lock guards a flag, if `cell` says what the operations do to it. -/
lemma guards_guardedAccess {m : Mutex} {cell : (o : Op) → o.Res → Access Bool}
    {view : Shared → Bool}
    (does : ∀ {t o r s s'} (u : Option Thread), act t o r s = some s' →
      (cell o r).Does t (u, view s) (u, view s'))
    (flags : ∀ {s s'}, SameFlags s s' → view s' = view s) :
    service.Guards (fun s => (s.holder m, view s)) (guardedAccess m cell) where
  act {t o r s s'} h := by
    apply does_guardedAccess h (fun u => does u h)
    intro use
    apply flags
    apply (frame_act h).flags
    cases o with
    | writePartnerUp up | writeCallback isSet => exact absurd rfl use
    | _ => exact rfl
  go h := Prod.ext (congrFun (sameLocks_go h).holder m) (flags (sameFlags_go h))
  env h := Prod.ext (congrFun (sameLocks_env h).holder m) (flags (sameFlags_env h))

/-! ## The callback -/

/-- What an operation does to the callback. -/
def callbackCell : (o : Op) → o.Res → Access Bool
  | .readCallback, isSet => .read isSet
  | .writeCallback isSet, _ => .write isSet
  | _, _ => .quiet

/-- What a thread has to have of `mLock` and to know of the callback for an operation. -/
def callbackNeeds : Op → Grip Bool → Prop
  | .notify _, q => q = .seen true
  | .writeFile path _, q => path ∈ powerLimitPaths → q ≠ .away
  | _, _ => True

abbrev callbackGrip : Protocol sig (Grip Bool) :=
  grip (guardedAccess .mLock callbackCell) callbackNeeds

/-- The callback is only touched as its lock allows. -/
lemma guards_callback :
    service.Guards (fun s => (s.holder .mLock, s.callback)) (guardedAccess .mLock callbackCell) := by
  apply guards_guardedAccess
  · intro t o r s s' u h
    cases o with
    | readCallback =>
      obtain ⟨rfl, rfl⟩ := of_enabled h
      exact .read
    | writeCallback isSet =>
      cases h
      exact .write
    | writePartnerUp up =>
      cases h
      exact .quiet
    | _ =>
      rw [((frame_act h).flags rfl).callback]
      exact .quiet
  · exact fun same => same.callback

section

variable {q : Grip Bool}

/-- An operation that neither accesses the callback nor needs anything. -/
lemma neutral_callback {o : Op} (access : ∀ r, guardedAccess .mLock callbackCell o r = .quiet)
    (need : callbackNeeds o q) : callbackGrip.Neutral q o := by
  refine ⟨⟨need, fun r => ?_⟩, fun r => ?_⟩
  · rw [access r]
    exact trivial
  · show (guardedAccess .mLock callbackCell o r).next q = q
    rw [access r]
    exact rfl

/-- A program that takes `mLock` with no part of it held, and leaves it so. -/
abbrev Calm {α : Type} (p : Hal α) : Prop := p.Follows callbackGrip .away fun _ q => q = .away

/-- Calm programs compose. -/
lemma Calm.bind {α β : Type} {p : Hal α} {k : α → Hal β} (hp : Calm p) (hk : ∀ a, Calm (k a)) :
    Calm (p >>= k) :=
  Prog.Follows.bind hp fun a q hq => by
    cases hq
    exact hk a

/-- Telling the callback takes the lock itself and gives it back. -/
lemma calm_notify (n : Notification) : Calm (notify n) := by
  refine ⟨⟨trivial, fun _ => rfl⟩, fun _ => ⟨⟨trivial, fun _ => Grip.held_ne⟩, fun isSet => ?_⟩⟩
  cases isSet with
  | true =>
    exact ⟨⟨rfl, fun _ => trivial⟩, fun _ => ⟨⟨trivial, fun _ => Grip.seen_ne _⟩, fun _ => rfl⟩⟩
  | false => exact ⟨⟨trivial, fun _ => Grip.seen_ne _⟩, fun _ => rfl⟩

/-- What a query reads is neutral. -/
lemma reads_callback (q : Grip Bool) : Reads (callbackGrip.Neutral q) where
  readFile _ := neutral_callback (fun _ => rfl) trivial
  listDir _ := neutral_callback (fun _ => rfl) trivial
  hashOrder _ := neutral_callback (fun _ => rfl) trivial
  readUsbDataEnabled := neutral_callback (fun _ => rfl) trivial
  abort := neutral_callback (fun r => Empty.elim r) trivial

/-- The query takes the lock around all that it reads and tells. -/
lemma calm_queryVersionHelper (v : List PortStatus) : Calm (queryVersionHelper v) := by
  have reads := reads_callback .held
  have access (i n : ℕ) : callbackGrip.Neutral .held (.access i n) :=
    neutral_callback (fun _ => rfl) trivial
  refine ⟨⟨trivial, fun _ => rfl⟩, fun _ => ?_⟩
  show Prog.Follows callbackGrip _ .held _
  apply (all_getPorts reads access v).follows_bind
  intro r
  apply (keeps_queryMoistureDetectionStatus reads (access 0 _) rfl).all.follows_bind
  intro r
  apply (keeps_queryPowerTransferStatus reads (access 0 _) rfl).all.follows_bind
  intro r
  refine ⟨⟨trivial, fun _ => Grip.held_ne⟩, fun isSet => ?_⟩
  cases isSet with
  | true =>
    exact ⟨⟨rfl, fun _ => trivial⟩,
      fun _ => ⟨⟨trivial, fun _ => Grip.seen_ne true⟩, fun _ => rfl⟩⟩
  | false => exact ⟨⟨trivial, fun _ => Grip.seen_ne false⟩, fun _ => rfl⟩

/-- A write to another node has nothing to do with the callback. -/
lemma neutral_write {path : String} (h : path ∉ powerLimitPaths) (content : String) :
    callbackGrip.Neutral q (.writeFile path content) :=
  neutral_callback (fun _ => rfl) fun mem => absurd mem h

/-! ### The calls -/

/-- `enableUsbData` is calm. -/
lemma calm_enableUsbData (portName : String) (enable : Bool) (id : ℤ) :
    Calm (enableUsbData portName enable id) := by
  have other : pullupPath ∉ powerLimitPaths := by decide
  have pull : (setPullup enable).All (callbackGrip.Neutral .away) :=
    all_setPullup (neutral_callback (fun _ => rfl) trivial) (fun _ => neutral_write other _)
      (neutral_write other _)
  apply pull.follows_bind
  intro pulled
  have data : usbDataPath ∉ powerLimitPaths := by decide
  refine ⟨(neutral_write data _).1, fun written => ?_⟩
  have rest : Calm (do
      notify (.enableUsbDataStatus portName enable (result (pulled && written)) id)
      let _ ← queryVersionHelper []) :=
    (calm_notify _).bind fun _ => (calm_queryVersionHelper []).bind fun _ => rfl
  show Calm (if (pulled && written) = true then _ else _)
  split
  · exact ⟨⟨trivial, fun _ => trivial⟩, fun _ => rest⟩
  · exact rest

/-- The nodes are written under the lock, and the callback is read after them. -/
lemma calm_limitPowerTransfer (portName : String) (limit : Bool) (id : ℤ) :
    Calm (limitPowerTransfer portName limit id) := by
  have rest (isSet : Bool) : Prog.Follows callbackGrip (do
      call (.unlock .mLock)
      let _ ← queryVersionHelper []) (.seen isSet) fun _ q => q = .away :=
    ⟨⟨trivial, fun _ => Grip.seen_ne isSet⟩, fun _ => (calm_queryVersionHelper []).bind fun _ => rfl⟩
  have write (path content : String) : callbackGrip.Neutral .held (.writeFile path content) :=
    neutral_callback (fun _ => rfl) fun _ => Grip.held_ne
  refine ⟨⟨trivial, fun _ => rfl⟩, fun _ => ?_⟩
  show Prog.Follows callbackGrip _ .held _
  apply (all_writeIf (write _ _) limit).follows_bind
  intro current
  refine ⟨(write _ _).1, fun sink => ⟨(write _ _).1, fun source => ?_⟩⟩
  refine ⟨⟨trivial, fun _ => Grip.held_ne⟩, fun isSet => ?_⟩
  show Prog.Follows _ (if (isSet && decide (0 ≤ id)) = true then _ else _) _ _
  split
  · rename_i told
    obtain ⟨rfl, -⟩ := (Bool.and_eq_true ..).mp told
    exact ⟨⟨rfl, fun _ => trivial⟩, fun _ => rest true⟩
  · exact rest isSet

/-- `enableContaminantPresenceDetection` is calm. -/
lemma calm_enableContaminantPresenceDetection (portName : String) (enable : Bool) (id : ℤ) :
    Calm (enableContaminantPresenceDetection portName enable id) := by
  have other : kEnabledPath ∉ powerLimitPaths := by decide
  refine ⟨⟨trivial, fun _ => trivial⟩, fun disable => ⟨⟨trivial, fun _ => trivial⟩, fun status => ?_⟩⟩
  apply (all_writeIf (neutral_write other _) _).follows_bind
  intro success
  exact (calm_notify _).bind fun _ => (calm_queryVersionHelper []).bind fun _ => rfl

/-- `setCallback` takes the lock around what it does to the callback. -/
lemma calm_setCallback (isSet : Bool) : Calm (setCallback isSet) := by
  have unlock (b : Bool) : Prog.Follows callbackGrip (call (.unlock .mLock)) (.seen b)
      fun _ q => q = .away := ⟨⟨trivial, fun _ => Grip.seen_ne b⟩, fun _ => rfl⟩
  refine ⟨⟨trivial, fun _ => rfl⟩, fun _ => ⟨⟨trivial, fun _ => Grip.held_ne⟩, fun wasSet => ?_⟩⟩
  refine ⟨⟨trivial, fun _ => Grip.seen_ne wasSet⟩, fun _ => ?_⟩
  show Prog.Follows callbackGrip (if wasSet ≠ isSet then _ else _) (.seen isSet) _
  split
  · cases isSet with
    | false =>
      refine ⟨⟨trivial, fun _ => trivial⟩, fun killed => ?_⟩
      cases killed with
      | false => exact unlock false
      | true => exact ⟨⟨trivial, fun _ => trivial⟩, fun _ => unlock false⟩
    | true =>
      refine ⟨⟨trivial, fun _ => trivial⟩, fun _ => ⟨⟨trivial, fun _ => trivial⟩, fun _ => ?_⟩⟩
      refine ⟨⟨trivial, fun _ => trivial⟩, fun created => ?_⟩
      cases created with
      | false => exact ⟨⟨trivial, fun _ => Grip.seen_ne true⟩, fun _ => unlock false⟩
      | true => exact unlock true
  · exact unlock isSet

/-- Going back to dual role has nothing to do with the callback. -/
lemma neutral_switchToDrp_callback (portName : String) :
    (switchToDrp portName).All (callbackGrip.Neutral q) :=
  all_switchToDrp (fun _ => neutral_callback (fun _ => rfl) trivial)
    (fun _ _ => neutral_callback (fun _ => rfl) trivial)
    (fun _ => neutral_callback (fun _ => rfl) trivial) portName

/-- The end of a mode switch is calm. -/
lemma calm_finishModeSwitch (portName : String) (role : PortRole) (id : ℤ) (roleSwitch : Bool) :
    Calm (finishModeSwitch portName role id roleSwitch) := by
  have finish : Calm (finishRoleSwitch portName role id roleSwitch) :=
    (calm_notify _).bind fun _ => ⟨⟨trivial, fun _ => trivial⟩, fun _ => rfl⟩
  cases roleSwitch with
  | true => exact finish
  | false => exact (neutral_switchToDrp_callback portName).follows_bind fun _ => finish

/-- The wait for the partner is calm. -/
lemma calm_waitAgain (portName : String) (role : PortRole) (id : ℤ) :
    Calm (waitAgain portName role id) := by
  refine ⟨⟨trivial, fun _ => trivial⟩, fun _ => ⟨⟨trivial, fun _ => trivial⟩, fun timedOut => ?_⟩⟩
  refine ⟨⟨trivial, fun _ => trivial⟩, fun _ => ?_⟩
  cases timedOut with
  | true => exact ⟨⟨trivial, fun _ => trivial⟩, fun _ => calm_finishModeSwitch portName role id false⟩
  | false =>
    refine ⟨⟨trivial, fun _ => trivial⟩, fun up => ?_⟩
    cases up with
    | false => exact rfl
    | true => exact ⟨⟨trivial, fun _ => trivial⟩, fun _ => calm_finishModeSwitch portName role id true⟩

/-- `switchRole` is calm. -/
lemma calm_switchRole (portName : String) (role : PortRole) (id : ℤ) :
    Calm (switchRole portName role id) := by
  have quiet {o : Op} (access : ∀ r, guardedAccess .mLock callbackCell o r = .quiet)
      (need : callbackNeeds o .away) : callbackGrip.Neutral .away o := neutral_callback access need
  refine ⟨⟨trivial, fun _ => trivial⟩, fun _ => ?_⟩
  show Calm (if role.getTag = .mode then _ else _)
  split
  · have failed := calm_finishModeSwitch portName role id false
    refine ⟨⟨trivial, fun _ => trivial⟩, fun opened => ?_⟩
    cases opened with
    | false => exact failed
    | true =>
      refine ⟨⟨trivial, fun _ => trivial⟩, fun _ => ⟨⟨trivial, fun _ => trivial⟩, fun _ => ?_⟩⟩
      refine ⟨⟨trivial, fun _ => trivial⟩, fun written => ⟨⟨trivial, fun _ => trivial⟩, fun _ => ?_⟩⟩
      cases written with
      | true => exact rfl
      | false => exact ⟨⟨trivial, fun _ => trivial⟩, fun _ => failed⟩
  · have write : (writeRole portName role).All (callbackGrip.Neutral .away) :=
      all_writeRole (fun _ => quiet (fun _ => rfl) trivial) (fun _ _ => quiet (fun _ => rfl) trivial)
        (fun _ => quiet (fun _ => rfl) trivial) (fun _ => quiet (fun _ => rfl) trivial) portName
    apply write.follows_bind
    intro roleSwitch
    exact (calm_notify _).bind fun _ => ⟨⟨trivial, fun _ => trivial⟩, fun _ => rfl⟩

/-- Every call is calm. -/
lemma calm_call (call : Call) : Calm call.program := by
  have serves {p : Hal Unit} (hp : Calm p) : Calm (serve p) := hp.bind fun _ => rfl
  cases call with
  | enableUsbData portName enable id => exact serves (calm_enableUsbData portName enable id)
  | enableUsbDataWhileDocked portName id =>
    exact serves ((calm_notify _).bind fun _ => (calm_queryVersionHelper []).bind fun _ => rfl)
  | resetUsbPort portName id =>
    have other : pullupPath ∉ powerLimitPaths := by decide
    exact serves ⟨(neutral_write other _).1, fun _ => calm_notify _⟩
  | limitPowerTransfer portName limit id =>
    exact serves (calm_limitPowerTransfer portName limit id)
  | switchRole portName role id => exact calm_switchRole portName role id
  | queryPortStatus id =>
    exact serves ((calm_queryVersionHelper []).bind fun _ => calm_notify _)
  | enableContaminantPresenceDetection portName enable id =>
    exact serves (calm_enableContaminantPresenceDetection portName enable id)
  | setCallback isSet => exact serves (calm_setCallback isSet)

/-! ### The worker -/

/-- The records of one message are calm. -/
lemma calm_handleRecords (cps : List (List Char)) : Calm (handleRecords cps) := by
  induction cps with
  | nil => exact rfl
  | cons cp cps ih =>
    rw [handleRecords]
    split
    · have added : Calm partnerAdded :=
        ⟨⟨trivial, fun _ => trivial⟩, fun _ => ⟨⟨trivial, fun _ => trivial⟩, fun _ =>
          ⟨⟨trivial, fun _ => trivial⟩, fun _ => ⟨⟨trivial, fun _ => trivial⟩, fun _ => rfl⟩⟩⟩⟩
      exact added.bind fun _ => ih
    · split
      · apply (calm_queryVersionHelper []).bind
        intro ports
        refine ⟨⟨trivial, fun taken => ?_⟩, fun taken => ?_⟩
        · cases taken <;> exact trivial
        · cases taken with
          | false => exact rfl
          | true =>
            have switch : (switchDisconnected ports).All (callbackGrip.Neutral .away) :=
              all_switchDisconnected (fun _ => neutral_callback (fun _ => rfl) trivial)
                neutral_switchToDrp_callback ports
            apply switch.follows_bind
            exact fun _ => ⟨⟨trivial, fun _ => trivial⟩, fun _ => rfl⟩
      · exact ih

/-- What runs the worker's loop has nothing to do with the callback. -/
lemma neutral_callback_polls {o : Op} (ho : o.runsWorker = true) : callbackGrip.Neutral .away o := by
  cases o with
  | readDestroyThread | openSocket | epollCreate | epollCtl | epollEnter | epollReturn | recv | close
    | pthreadExit => exact neutral_callback (fun _ => rfl) trivial
  | _ => cases ho

/-- Both threads keep to the lock of the callback in every run. -/
lemma service_calm : service.Obeys (fun _ => callbackGrip) fun _ _ => .away := by
  intro t l x s p s' h
  cases goes_of_go h with
  | serve call => exact calm_call call
  | waitAgain portName role id => exact calm_waitAgain portName role id
  | start created => exact follows_work (fun _ => neutral_callback_polls) rfl rfl
  | loop => exact follows_workTurn (fun _ => neutral_callback_polls) calm_handleRecords rfl rfl

end

/-! ## The partner -/

/-- What an operation does to `mPartnerUp`. -/
def partnerCell : (o : Op) → o.Res → Access Bool
  | .readPartnerUp, up => .read up
  | .writePartnerUp up, _ => .write up
  | _, _ => .quiet

/-- What a thread has to have of `mPartnerLock` and to know of `mPartnerUp` for an operation. -/
def partnerNeeds : Op → Grip Bool → Prop
  | .condSignal, q => q = .seen true
  | .condRelease, q => q = .seen false
  | _, _ => True

abbrev partnerGrip : Protocol sig (Grip Bool) :=
  grip (guardedAccess .mPartnerLock partnerCell) partnerNeeds

/-- A thread waits for the partner with the lock held that it releases to wait. -/
def partnerRest : Next → Grip Bool
  | .waitAgain _ _ _ => .seen false
  | _ => .away

/-- `mPartnerUp` is only touched as its lock allows. -/
lemma guards_partner :
    service.Guards (fun s => (s.holder .mPartnerLock, s.partnerUp))
      (guardedAccess .mPartnerLock partnerCell) := by
  apply guards_guardedAccess
  · intro t o r s s' u h
    cases o with
    | readPartnerUp =>
      obtain ⟨rfl, rfl⟩ := of_enabled h
      exact .read
    | writePartnerUp up =>
      cases h
      exact .write
    | writeCallback isSet =>
      cases h
      exact .quiet
    | _ =>
      rw [((frame_act h).flags rfl).partnerUp]
      exact .quiet
  · exact fun same => same.partnerUp

/-- The operation has to do with the partner. -/
def Op.partners : Op → Bool
  | .lock m | .unlock m | .trylock m => m = .mPartnerLock
  | .condRelease | .condSignal | .readPartnerUp | .writePartnerUp _ => true
  | _ => false

/-- What has nothing to do with the partner leaves the grip alone. -/
lemma neutral_partner {o : Op} (h : o.partners = false) (q : Grip Bool) :
    partnerGrip.Neutral q o := by
  have access (r : o.Res) : guardedAccess .mPartnerLock partnerCell o r = .quiet := by
    cases o with
    | lock m | unlock m =>
      cases m with
      | mPartnerLock => cases h
      | _ => exact rfl
    | trylock m =>
      cases m with
      | mPartnerLock => cases h
      | _ => cases r <;> exact rfl
    | condRelease | condSignal | readPartnerUp | writePartnerUp up => cases h
    | _ => exact rfl
  have need : partnerNeeds o q := by
    cases o with
    | condRelease | condSignal => cases h
    | _ => exact trivial
  refine ⟨⟨need, fun r => ?_⟩, fun r => ?_⟩
  · rw [access r]
    exact trivial
  · show (guardedAccess .mPartnerLock partnerCell o r).next q = q
    rw [access r]
    exact rfl

/-- A program that leaves the partner alone. -/
abbrev Unpartnered {α : Type} (p : Hal α) : Prop := p.All fun o : Op => o.partners = false

/-- A part that leaves the partner alone may stand before any other. -/
lemma Unpartnered.follows_bind {α β : Type} {p : Hal α} {k : α → Hal β} {q : Grip Bool}
    {post : β → Grip Bool → Prop} (hp : Unpartnered p)
    (hk : ∀ a, (k a).Follows partnerGrip q post) : (p >>= k).Follows partnerGrip q post :=
  (hp.mono fun _ ho => neutral_partner ho q).follows_bind hk

/-- The query leaves the partner alone. -/
lemma unpartnered_queryVersionHelper (v : List PortStatus) : Unpartnered (queryVersionHelper v) := by
  have queries : Queries fun o : Op => o.partners = false :=
    ⟨⟨fun _ => rfl, fun _ => rfl, fun _ => rfl, rfl, rfl⟩, fun _ _ => rfl, rfl, fun _ _ => rfl⟩
  exact all_queryVersionHelper queries rfl rfl v

/-- Telling the callback leaves the partner alone. -/
lemma unpartnered_notify (n : Notification) : Unpartnered (notify n) := all_notify rfl rfl rfl rfl

/-- Going back to dual role leaves the partner alone. -/
lemma unpartnered_switchToDrp (portName : String) : Unpartnered (switchToDrp portName) :=
  all_switchToDrp (fun _ => rfl) (fun _ _ => rfl) (fun _ => rfl) portName

/-! ### The calls -/

/-- A program that begins and ends without the partner's lock, or ends in a wait with it. -/
abbrev Awaits (q : Grip Bool) (p : Hal Next) : Prop :=
  p.Follows partnerGrip q fun l q' => q' = partnerRest l

/-- A call that leaves the partner alone begins and ends without its lock. -/
lemma Unpartnered.awaits {p : Hal Unit} (hp : Unpartnered p) : Awaits .away (serve p) :=
  hp.follows_bind fun _ => rfl

/-- The end of a role switch leaves the partner alone. -/
lemma awaits_finishRoleSwitch (portName : String) (role : PortRole) (id : ℤ) (roleSwitch : Bool) :
    Awaits .away (finishRoleSwitch portName role id roleSwitch) :=
  (unpartnered_notify _).follows_bind fun _ => ⟨⟨trivial, fun _ => trivial⟩, fun _ => rfl⟩

/-- The end of a mode switch comes after the partner's lock is given back. -/
lemma awaits_finishModeSwitch (portName : String) (role : PortRole) (id : ℤ) (roleSwitch : Bool) :
    Awaits .away (finishModeSwitch portName role id roleSwitch) := by
  have finish := awaits_finishRoleSwitch portName role id
  cases roleSwitch with
  | true => exact finish true
  | false => exact (unpartnered_switchToDrp portName).follows_bind fun _ => finish false

/-- A wait begins with `mPartnerUp` clear, and another one only if it is found so. -/
lemma awaits_waitAgain (portName : String) (role : PortRole) (id : ℤ) :
    Awaits (.seen false) (waitAgain portName role id) := by
  have finish := awaits_finishModeSwitch portName role id
  refine ⟨⟨rfl, fun _ => Grip.seen_ne false⟩,
    fun _ => ⟨⟨trivial, fun _ => trivial⟩, fun timedOut => ?_⟩⟩
  refine ⟨⟨trivial, fun _ => rfl⟩, fun _ => ?_⟩
  cases timedOut with
  | true => exact ⟨⟨trivial, fun _ => Grip.held_ne⟩, fun _ => finish false⟩
  | false =>
    refine ⟨⟨trivial, fun _ => Grip.held_ne⟩, fun up => ?_⟩
    cases up with
    | false => exact rfl
    | true => exact ⟨⟨trivial, fun _ => Grip.seen_ne true⟩, fun _ => finish true⟩

/-- `switchRole` ends without the partner's lock, or in the wait with it. -/
lemma awaits_switchRole (portName : String) (role : PortRole) (id : ℤ) :
    Awaits .away (switchRole portName role id) := by
  refine ⟨⟨trivial, fun _ => trivial⟩, fun _ => ?_⟩
  show Awaits .away (if role.getTag = .mode then _ else _)
  split
  · have failed := awaits_finishModeSwitch portName role id false
    refine ⟨⟨trivial, fun _ => trivial⟩, fun opened => ?_⟩
    cases opened with
    | false => exact failed
    | true =>
      refine ⟨⟨trivial, fun _ => rfl⟩, fun _ => ⟨⟨trivial, fun _ => Grip.held_ne⟩, fun _ => ?_⟩⟩
      refine ⟨⟨trivial, fun _ => trivial⟩, fun written => ⟨⟨trivial, fun _ => trivial⟩, fun _ => ?_⟩⟩
      cases written with
      | true => exact rfl
      | false => exact ⟨⟨trivial, fun _ => Grip.seen_ne false⟩, fun _ => failed⟩
  · have write : Unpartnered (writeRole portName role) :=
      all_writeRole (fun _ => rfl) (fun _ _ => rfl) (fun _ => rfl) (fun _ => rfl) portName
    exact write.follows_bind fun roleSwitch => awaits_finishRoleSwitch portName role id roleSwitch

/-- So does every call. -/
lemma awaits_call (call : Call) : Awaits .away call.program := by
  have tell := unpartnered_notify
  have query := unpartnered_queryVersionHelper []
  cases call with
  | enableUsbData portName enable id =>
    have pull : Unpartnered (setPullup enable) := all_setPullup rfl (fun _ => rfl) rfl
    exact Unpartnered.awaits (all_enableUsbData pull (fun _ => rfl) rfl (fun _ => tell _) query)
  | enableUsbDataWhileDocked portName id =>
    exact Unpartnered.awaits ((tell _).bind fun _ => query.bind fun _ => trivial)
  | resetUsbPort portName id => exact Unpartnered.awaits ⟨rfl, fun _ => tell _⟩
  | limitPowerTransfer portName limit id =>
    exact Unpartnered.awaits (all_limitPowerTransfer rfl rfl (fun _ => rfl) (fun _ => rfl)
      (fun _ => rfl) rfl (fun _ => rfl) query)
  | switchRole portName role id => exact awaits_switchRole portName role id
  | queryPortStatus id => exact Unpartnered.awaits (query.bind fun _ => tell _)
  | enableContaminantPresenceDetection portName enable id =>
    exact Unpartnered.awaits (all_enableContaminantPresenceDetection (fun _ => rfl) (fun _ => rfl)
      (fun _ => tell _) query)
  | setCallback isSet =>
    exact Unpartnered.awaits (all_setCallback rfl rfl rfl (fun _ => rfl) rfl rfl rfl rfl rfl)

/-! ### The worker -/

/-- The records of one message take the partner's lock and give it back. -/
lemma awaits_handleRecords (cps : List (List Char)) :
    (handleRecords cps).Follows partnerGrip .away fun _ q => q = .away := by
  induction cps with
  | nil => exact rfl
  | cons cp cps ih =>
    rw [handleRecords]
    split
    · have added : partnerAdded.Follows partnerGrip .away fun _ q => q = .away :=
        ⟨⟨trivial, fun _ => rfl⟩, fun _ => ⟨⟨trivial, fun _ => Grip.held_ne⟩, fun _ =>
          ⟨⟨rfl, fun _ => trivial⟩, fun _ =>
            ⟨⟨trivial, fun _ => Grip.seen_ne true⟩, fun _ => rfl⟩⟩⟩⟩
      apply added.bind
      rintro _ _ rfl
      exact ih
    · split
      · have switch (ports : List PortStatus) : Unpartnered (switchDisconnected ports) :=
          all_switchDisconnected (fun _ => rfl) unpartnered_switchToDrp ports
        have event : Unpartnered portEvent :=
          all_portEvent (unpartnered_queryVersionHelper []) rfl switch rfl
        exact (event.mono fun _ ho => neutral_partner ho .away).follows fun _ => rfl
      · exact ih

/-- Both threads keep to the lock of the partner in every run. -/
lemma service_awaits : service.Obeys (fun _ => partnerGrip) fun _ => partnerRest := by
  have polls (o : Op) (ho : o.runsWorker = true) : partnerGrip.Neutral .away o := by
    apply neutral_partner
    cases o with
    | lock m | unlock m | trylock m | condRelease | condSignal | readPartnerUp | writePartnerUp up =>
      cases ho
    | _ => exact rfl
  intro t l x s p s' h
  cases goes_of_go h with
  | serve call => exact awaits_call call
  | waitAgain portName role id => exact awaits_waitAgain portName role id
  | start created => exact follows_work polls rfl rfl
  | loop => exact follows_workTurn polls awaits_handleRecords rfl rfl

/-! ## Every run -/

/-- Where an operation comes that a lock guards, the thread holds the lock; where it tells, signals
or waits, the callback and `mPartnerUp` are as that supposes. -/
def Guarded (s : Shared) (t : Thread) : Op → Prop
  | .notify _ => s.holder .mLock = some t ∧ s.callback = true
  | .readCallback => s.holder .mLock = some t
  | .writeCallback _ => s.holder .mLock = some t
  | .writeFile path _ => path ∈ powerLimitPaths → s.holder .mLock = some t
  | .condSignal => s.holder .mPartnerLock = some t ∧ s.partnerUp = true
  | .condRelease => s.holder .mPartnerLock = some t ∧ s.partnerUp = false
  | .readPartnerUp => s.holder .mPartnerLock = some t
  | .writePartnerUp _ => s.holder .mPartnerLock = some t
  | _ => True

/-- In every state the service reaches, the next operation of each thread is guarded. -/
theorem guarded {udc : Option String} {c : Config sig Thread Next Shared}
    (run : service.Reach (service.start udc) c) {t : Thread} {o : Op}
    (ht : (c.prog t).head? = some o) : Guarded c.shared t o := by
  have start : Gripped ((none, false) : Option Thread × Bool) fun _ => .away :=
    ⟨fun _ => iff_of_false (fun h => h rfl) (Option.some_ne_none _).symm, fun _ _ h => by cases h⟩
  have calm : Machine.Tracks (fun _ => callbackGrip) (fun _ _ => .away) (service.start udc)
      fun _ => .away := fun t => by cases t <;> exact rfl
  have waits : Machine.Tracks (fun _ => partnerGrip) (fun _ => partnerRest) (service.start udc)
      fun _ => .away := fun t => by cases t <;> exact rfl
  obtain ⟨g, need, allowed, holds, knows⟩ :=
    run.grip guards_callback service_calm start calm ht
  obtain ⟨g', need', allowed', holds', knows'⟩ :=
    run.grip guards_partner service_awaits start waits ht
  cases o with
  | notify n =>
    obtain rfl : g = .seen true := need
    exact ⟨holds (Grip.seen_ne true), knows true rfl⟩
  | readCallback => exact holds (allowed false)
  | writeCallback isSet => exact holds (allowed ())
  | writeFile path content => exact fun mem => holds (need mem)
  | condSignal =>
    obtain rfl : g' = .seen true := need'
    exact ⟨holds' (Grip.seen_ne true), knows' true rfl⟩
  | condRelease =>
    obtain rfl : g' = .seen false := need'
    exact ⟨holds' (Grip.seen_ne false), knows' false rfl⟩
  | readPartnerUp => exact holds' (allowed' false)
  | writePartnerUp up => exact holds' (allowed' ())
  | _ => exact trivial

/-- A schedule: a callback is set, and a call comes to tell the framework what has come of it. -/
def tellSchedule : List (Label sig Thread Turn EnvEvent) :=
  [.go .binder (.serve (.setCallback true)), .act .binder (.lock .mLock) (),
    .act .binder .readCallback false, .act .binder (.writeCallback true) (),
    .act .binder (.writeDestroyThread false) (), .act .binder .signal (),
    .act .binder .pthreadCreate true, .act .binder (.unlock .mLock) (),
    .go .binder (.serve (.enableUsbDataWhileDocked "port0" 1)), .act .binder (.lock .mLock) (),
    .act .binder .readCallback true]

end

open Libbase.Documented in
/-- A result is about to be told, with `mLock` in the binder thread's hands. -/
theorem guarded_told : ∃ c n, service.Reach (service.start none) c ∧
    (c.prog .binder).head? = some (.notify n) ∧ Guarded c.shared .binder (.notify n) := by
  have h : (service.play (fun _ _ => True) tellSchedule (service.start none)).map
      (fun c => (c.prog .binder).head?) =
        some (some (.notify (.enableUsbDataWhileDockedStatus "port0" .notSupported 1))) := rfl
  obtain ⟨c, run, next⟩ := service.exists_run h
  exact ⟨c, _, run, next, guarded run next⟩

end Redfin.Usb
