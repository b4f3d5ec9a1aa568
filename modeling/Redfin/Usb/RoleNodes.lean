import Redfin.Program.History
import Redfin.Usb.LockUse

/-!
# The role nodes and the reported result

`mRoleSwitchLock` guards the role nodes of the ports. What a role switch has done last to a node is
therefore still the last that was done to any of them when it tells the result, although the worker
switches disconnected ports back to dual role at any time. A success says that the role was the last
text that was put into a node, the one of this port and kind; a mode switch that has failed has
tried to put the port back to dual role, or could not open its node to do so. What is put is only
accepted by `fputs`: no function of the HAL looks at the result of `fclose`, which stores it.
-/

set_option linter.unusedSectionVars false

namespace Redfin.Usb

open Function Program

section

variable [Libbase]

/-- What was done last to a role node: whether it could be opened, which text was put into the file
with which result of `fputs`, and whether the file has been closed since, stored or not. -/
structure Touch where
  path : String
  opened : Bool
  put : Option (String × Bool)
  closed : Bool
deriving DecidableEq, Repr

/-- The file is closed. -/
def Touch.close (touch : Touch) : Touch := { touch with closed := true }

/-- What an operation does to the role nodes. -/
def touchCell : (o : Op) → o.Res → Access (Option Touch)
  | .fopen path, opened => .write (some ⟨path, opened, none, false⟩)
  | .fputs path content, ok => .write (some ⟨path, true, some (content, ok), false⟩)
  | .fclose _, _ => .change (Option.map Touch.close)
  | _, _ => .quiet

/-- The service, with what was done last to the role nodes. -/
def touching : Machine sig Thread Next Turn EnvEvent (Shared × Option Touch) :=
  service.record fun _ l last =>
    match l with
    | .act _ (.fopen path) opened => some ⟨path, opened, none, false⟩
    | .act _ (.fputs path content) ok => some ⟨path, true, some (content, ok), false⟩
    | .act _ (.fclose _) _ => last.map Touch.close
    | _ => last

def touching.start (udc : Option String) : Config sig Thread Next (Shared × Option Touch) :=
  (service.start udc).withHistory none

/-- A success is reported of a role that was put into the node and accepted; a failure to switch the
mode, of a port into whose node "dual" was put, accepted or not, or whose node could not be opened
for that. -/
def Agrees (portName : String) (role : PortRole) (status : Status) (last : Option Touch) : Prop :=
  (status = .success → last = some ⟨appendRoleNodeHelper portName role.getTag, true,
    some (convertRoletoString role, true), true⟩) ∧
  (status = .error → role.getTag = .mode →
    last = some ⟨appendRoleNodeHelper portName .mode, false, none, false⟩ ∨
      ∃ ok, last = some ⟨appendRoleNodeHelper portName .mode, true, some ("dual", ok), true⟩)

/-- What a thread has to know of the role nodes to tell a result. -/
def touchNeeds : Op → Grip (Option Touch) → Prop
  | .notify (.roleSwitchStatus portName role status _), q =>
    ∃ last, q = .seen last ∧ Agrees portName role status last
  | _, _ => True

abbrev touchGrip : Protocol sig (Grip (Option Touch)) :=
  grip (guardedAccess .mRoleSwitchLock touchCell) touchNeeds

/-- A wait for the partner begins after the new port type was put. -/
def touchRest : Next → Grip (Option Touch)
  | .waitAgain portName role _ =>
    .seen (some ⟨appendRoleNodeHelper portName role.getTag, true,
      some (convertRoletoString role, true), true⟩)
  | _ => .away

/-- The role nodes are only touched as `mRoleSwitchLock` allows. -/
lemma guards_touching :
    touching.Guards (fun x => (x.1.holder .mRoleSwitchLock, x.2))
      (guardedAccess .mRoleSwitchLock touchCell) where
  act {t o r x x'} h := by
    obtain ⟨s, act, rfl⟩ := Option.map_eq_some_iff.mp h
    apply does_guardedAccess (show Usb.act t o r x.1 = some s from act)
    · intro u
      cases o with
      | fopen path => exact .write
      | fputs path content => exact .write
      | fclose path => exact .change
      | _ => exact .quiet
    · intro use
      cases o with
      | fopen path => exact absurd rfl use
      | fputs path content => exact absurd rfl use
      | fclose path => exact absurd rfl use
      | _ => exact rfl
  go {t l turn x p x'} h := by
    obtain ⟨taken, noted⟩ := Machine.go_record h
    exact Prod.ext (congrFun (sameLocks_go taken).holder .mRoleSwitchLock) noted
  env {e x x'} h := by
    obtain ⟨s, env, rfl⟩ := Option.map_eq_some_iff.mp h
    exact Prod.ext (congrFun (sameLocks_env env).holder .mRoleSwitchLock) rfl

/-! ## What leaves the nodes alone -/

/-- The operation has to do with the role nodes or their lock. -/
def Op.roles : Op → Bool
  | .lock m | .unlock m | .trylock m => m = .mRoleSwitchLock
  | .fopen _ | .fputs _ _ | .fclose _ => true
  | .notify (.roleSwitchStatus _ _ _ _) => true
  | _ => false

variable {q : Grip (Option Touch)} {portName : String} {role : PortRole} {id : ℤ}

/-- What has nothing to do with the role nodes leaves the grip alone. -/
lemma neutral_touch {o : Op} (h : o.roles = false) (q : Grip (Option Touch)) :
    touchGrip.Neutral q o := by
  have access (r : o.Res) : guardedAccess .mRoleSwitchLock touchCell o r = .quiet := by
    cases o with
    | lock m | unlock m =>
      cases m with
      | mRoleSwitchLock => cases h
      | _ => exact rfl
    | trylock m =>
      cases m with
      | mRoleSwitchLock => cases h
      | _ => cases r <;> exact rfl
    | fopen path | fputs path content | fclose path => cases h
    | _ => exact rfl
  have need : touchNeeds o q := by
    cases o with
    | notify n =>
      cases n with
      | roleSwitchStatus portName role status id => cases h
      | _ => exact trivial
    | _ => exact trivial
  refine ⟨⟨need, fun r => ?_⟩, fun r => ?_⟩
  · rw [access r]
    exact trivial
  · show (guardedAccess .mRoleSwitchLock touchCell o r).next q = q
    rw [access r]
    exact rfl

/-- A program that leaves the role nodes alone. -/
abbrev Untouching {α : Type} (p : Hal α) : Prop := p.All fun o : Op => o.roles = false

/-- A part that leaves the role nodes alone may stand before any other. -/
lemma Untouching.follows_bind {α β : Type} {p : Hal α} {k : α → Hal β}
    {post : β → Grip (Option Touch) → Prop} (hp : Untouching p)
    (hk : ∀ a, (k a).Follows touchGrip q post) : (p >>= k).Follows touchGrip q post :=
  (hp.mono fun _ ho => neutral_touch ho q).follows_bind hk

/-- The query leaves the role nodes alone. -/
lemma untouching_queryVersionHelper (v : List PortStatus) : Untouching (queryVersionHelper v) := by
  have queries : Queries fun o : Op => o.roles = false :=
    ⟨⟨fun _ => rfl, fun _ => rfl, fun _ => rfl, rfl, rfl⟩, fun _ _ => rfl, rfl, fun _ _ => rfl⟩
  exact all_queryVersionHelper queries rfl rfl v

/-- Telling anything but a role leaves the role nodes alone. -/
lemma untouching_notify {n : Notification} (hn : (Op.notify n).roles = false) :
    Untouching (notify n) := all_notify rfl rfl hn rfl

/-! ## Role switches -/

/-- The last that was done to a role node was to put the port back to dual role, or to fail to open
its node. -/
def Reverted (portName : String) (last : Option Touch) : Prop :=
  last = some ⟨appendRoleNodeHelper portName .mode, false, none, false⟩ ∨
    ∃ ok, last = some ⟨appendRoleNodeHelper portName .mode, true, some ("dual", ok), true⟩

/-- Going back to dual role leaves the node so. -/
lemma follows_switchToDrp (portName : String) (hq : q ≠ .away) :
    (switchToDrp portName).Follows touchGrip q fun _ q' =>
      ∃ last, q' = .seen last ∧ Reverted portName last := by
  refine ⟨⟨trivial, fun _ => hq⟩, fun opened => ?_⟩
  cases opened with
  | false => exact ⟨_, rfl, .inl rfl⟩
  | true =>
    refine ⟨⟨trivial, fun _ => Grip.seen_ne _⟩, fun ok => ?_⟩
    refine ⟨⟨trivial, fun _ => Grip.seen_ne _⟩, fun _ => ?_⟩
    exact ⟨_, rfl, .inr ⟨ok, rfl⟩⟩

/-- A program that begins with the role nodes in the grip `q` and returns as `touchRest` says. -/
abbrev Touches (q : Grip (Option Touch)) (p : Hal Next) : Prop :=
  p.Follows touchGrip q fun l q' => q' = touchRest l

/-- The end of a role switch tells the result that agrees with the node. -/
lemma touches_finishRoleSwitch {last : Option Touch} {roleSwitch : Bool}
    (agrees : Agrees portName role (result roleSwitch) last) :
    Touches (.seen last) (finishRoleSwitch portName role id roleSwitch) := by
  have finish : Touches (.seen last) (do call (.unlock .mRoleSwitchLock); return .ready) :=
    ⟨⟨trivial, fun _ => Grip.seen_ne last⟩, fun _ => rfl⟩
  apply Prog.follows_neutral (neutral_touch rfl _)
  intro _
  apply Prog.follows_neutral (neutral_touch rfl _)
  intro isSet
  have unlock := neutral_touch (o := .unlock .mLock) rfl (.seen last)
  cases isSet with
  | false => exact Prog.follows_neutral unlock fun _ => finish
  | true =>
    refine ⟨⟨⟨last, rfl, agrees⟩, fun _ => trivial⟩, fun _ => ?_⟩
    exact Prog.follows_neutral unlock fun _ => finish

/-- A mode switch that has failed puts the port back to dual role. -/
lemma touches_failed (hq : q ≠ .away) :
    Touches q (finishModeSwitch portName role id false) := by
  apply (follows_switchToDrp portName hq).bind
  rintro _ _ ⟨last, rfl, reverted⟩
  apply touches_finishRoleSwitch
  exact ⟨fun success => absurd success (by decide), fun _ _ => reverted⟩

/-- A mode switch tells a result that agrees with the node, or waits. -/
lemma touches_switchMode (hq : q ≠ .away) :
    Touches q (switchMode portName role id) := by
  refine ⟨⟨trivial, fun _ => hq⟩, fun opened => ?_⟩
  cases opened with
  | false => exact touches_failed (Grip.seen_ne _)
  | true =>
    apply Prog.follows_neutral (neutral_touch rfl _)
    intro _
    apply Prog.follows_neutral (neutral_touch rfl _)
    intro _
    refine ⟨⟨trivial, fun _ => Grip.seen_ne _⟩, fun written => ?_⟩
    refine ⟨⟨trivial, fun _ => Grip.seen_ne _⟩, fun _ => ?_⟩
    cases written with
    | true => exact rfl
    | false =>
      apply Prog.follows_neutral (neutral_touch rfl _)
      exact fun _ => touches_failed (Grip.seen_ne _)

/-- The role that was put before the wait is still the last that was put when the wait is over. -/
lemma touches_waitAgain :
    Touches (touchRest (.waitAgain portName role id)) (waitAgain portName role id) := by
  have agrees : Agrees portName role (result true)
      (some ⟨appendRoleNodeHelper portName role.getTag, true,
        some (convertRoletoString role, true), true⟩) :=
    ⟨fun _ => rfl, fun error => by cases error⟩
  apply Prog.follows_neutral (neutral_touch rfl _)
  intro _
  apply Prog.follows_neutral (neutral_touch rfl _)
  intro timedOut
  apply Prog.follows_neutral (neutral_touch rfl _)
  intro _
  cases timedOut with
  | true =>
    apply Prog.follows_neutral (neutral_touch rfl _)
    exact fun _ => touches_failed (Grip.seen_ne _)
  | false =>
    apply Prog.follows_neutral (neutral_touch rfl _)
    intro up
    cases up with
    | false => exact rfl
    | true =>
      apply Prog.follows_neutral (neutral_touch rfl _)
      exact fun _ => touches_finishRoleSwitch agrees

/-- A role that is written and read back stands in its node. -/
lemma follows_writeRole (hq : q ≠ .away) :
    (writeRole portName role).Follows touchGrip q fun ok q' =>
      ∃ last, q' = .seen last ∧ (ok = true → last = some ⟨appendRoleNodeHelper portName role.getTag,
        true, some (convertRoletoString role, true), true⟩) := by
  refine ⟨⟨trivial, fun _ => hq⟩, fun opened => ?_⟩
  cases opened with
  | false => exact ⟨_, rfl, fun ok => by cases ok⟩
  | true =>
    refine ⟨⟨trivial, fun _ => Grip.seen_ne _⟩, fun ok => ?_⟩
    refine ⟨⟨trivial, fun _ => Grip.seen_ne _⟩, fun _ => ?_⟩
    cases ok with
    | false => exact ⟨_, rfl, fun ok => by cases ok⟩
    | true =>
      apply Prog.follows_neutral (neutral_touch rfl _)
      intro written
      cases written with
      | none => exact ⟨_, rfl, fun ok => by cases ok⟩
      | some written => exact ⟨_, rfl, fun _ => rfl⟩

/-- `switchRole` tells a result that agrees with the node, or waits. -/
lemma touches_switchRole : Touches .away (switchRole portName role id) := by
  refine ⟨⟨trivial, fun _ => rfl⟩, fun _ => ?_⟩
  show Touches .held (if role.getTag = .mode then _ else _)
  split
  · exact touches_switchMode Grip.held_ne
  · rename_i hm
    apply (follows_writeRole Grip.held_ne).bind
    rintro ok _ ⟨last, rfl, put⟩
    apply touches_finishRoleSwitch
    refine ⟨fun success => put ?_, fun _ mode => absurd mode hm⟩
    cases ok with
    | true => exact rfl
    | false => cases success

/-! ## The other calls and the worker -/

/-- A call that leaves the role nodes alone begins and ends without them. -/
lemma Untouching.touches {p : Hal Unit} (hp : Untouching p) : Touches .away (serve p) :=
  hp.follows_bind fun _ => rfl

/-- Every call is one or the other. -/
lemma touches_call (call : Call) : Touches .away call.program := by
  have query := untouching_queryVersionHelper []
  cases call with
  | enableUsbData portName enable id =>
    have pull : Untouching (setPullup enable) := all_setPullup rfl (fun _ => rfl) rfl
    exact Untouching.touches
      (all_enableUsbData pull (fun _ => rfl) rfl (fun _ => untouching_notify rfl) query)
  | enableUsbDataWhileDocked portName id =>
    exact Untouching.touches ((untouching_notify rfl).bind fun _ => query.bind fun _ => trivial)
  | resetUsbPort portName id => exact Untouching.touches ⟨rfl, fun _ => untouching_notify rfl⟩
  | limitPowerTransfer portName limit id =>
    exact Untouching.touches (all_limitPowerTransfer rfl rfl (fun _ => rfl) (fun _ => rfl)
      (fun _ => rfl) rfl (fun _ => rfl) query)
  | switchRole portName role id => exact touches_switchRole
  | queryPortStatus id => exact Untouching.touches (query.bind fun _ => untouching_notify rfl)
  | enableContaminantPresenceDetection portName enable id =>
    exact Untouching.touches (all_enableContaminantPresenceDetection (fun _ => rfl) (fun _ => rfl)
      (fun _ => untouching_notify rfl) query)
  | setCallback isSet =>
    exact Untouching.touches (all_setCallback rfl rfl rfl (fun _ => rfl) rfl rfl rfl rfl rfl)

/-- The worker puts ports back to dual role with the lock held. -/
lemma follows_switchDisconnected (ports : List PortStatus) (hq : q ≠ .away) :
    (switchDisconnected ports).Follows touchGrip q fun _ q' => q' ≠ .away := by
  induction ports generalizing q with
  | nil => exact hq
  | cons port ports ih =>
    apply Prog.follows_neutral (neutral_touch rfl _)
    intro present
    cases present with
    | true => exact ih hq
    | false =>
      apply (follows_switchToDrp port.portName hq).bind
      rintro _ _ ⟨last, rfl, -⟩
      exact ih (Grip.seen_ne last)

/-- A port event takes `mRoleSwitchLock` and gives it back. -/
lemma follows_portEvent_touch : portEvent.Follows touchGrip .away fun _ q => q = .away := by
  apply (untouching_queryVersionHelper []).follows_bind
  intro ports
  refine ⟨⟨trivial, fun taken => ?_⟩, fun taken => ?_⟩
  · cases taken with
    | true => exact rfl
    | false => exact trivial
  · cases taken with
    | false => exact rfl
    | true =>
      have held : (switchDisconnected ports).Follows touchGrip .held fun _ q => q ≠ .away :=
        follows_switchDisconnected ports Grip.held_ne
      apply held.bind
      intro _ q hq
      exact ⟨⟨trivial, fun _ => hq⟩, fun _ => rfl⟩

/-- The records of one message take `mRoleSwitchLock` and give it back. -/
lemma follows_handleRecords_touch (cps : List (List Char)) :
    (handleRecords cps).Follows touchGrip .away fun _ q => q = .away := by
  induction cps with
  | nil => exact rfl
  | cons cp cps ih =>
    rw [handleRecords]
    split
    · have added : Untouching partnerAdded :=
        ⟨rfl, fun _ => ⟨rfl, fun _ => ⟨rfl, fun _ => ⟨rfl, fun _ => trivial⟩⟩⟩⟩
      exact added.follows_bind fun _ => ih
    · split
      · exact follows_portEvent_touch
      · exact ih

/-- Both threads keep to the lock of the role nodes in every run. -/
lemma service_touches : service.Obeys (fun _ => touchGrip) fun _ => touchRest := by
  have polls (o : Op) (ho : o.runsWorker = true) : touchGrip.Neutral .away o := by
    apply neutral_touch
    cases o with
    | lock m | unlock m | trylock m | fopen path | fputs path content | fclose path | notify n =>
      cases ho
    | _ => exact rfl
  intro t l x s p s' h
  cases goes_of_go h with
  | serve call => exact touches_call call
  | waitAgain portName role id => exact touches_waitAgain
  | start created => exact follows_work polls rfl rfl
  | loop => exact follows_workTurn polls follows_handleRecords_touch rfl rfl

/-- Where the result of a role switch is about to be told, the thread holds `mRoleSwitchLock` and
the result agrees with what was done last to the role nodes. -/
theorem role_switch_agrees {udc : Option String}
    {c : Config sig Thread Next (Shared × Option Touch)}
    (run : touching.Reach (touching.start udc) c) {t : Thread} {portName : String} {role : PortRole}
    {status : Status} {id : ℤ}
    (ht : (c.prog t).head? = some (.notify (.roleSwitchStatus portName role status id))) :
    c.shared.1.holder .mRoleSwitchLock = some t ∧ Agrees portName role status c.shared.2 := by
  have start : Gripped ((none, none) : Option Thread × Option Touch) fun _ => .away :=
    ⟨fun _ => iff_of_false (fun h => h rfl) (Option.some_ne_none _).symm, fun _ _ h => by cases h⟩
  have idle : Machine.Tracks (fun _ => touchGrip) (fun _ => touchRest) (touching.start udc)
      fun _ => .away := fun t => by cases t <;> exact rfl
  obtain ⟨g, ⟨last, rfl, agrees⟩, -, holds, knows⟩ :=
    run.grip guards_touching service_touches.record start idle ht
  have known : c.shared.2 = last := knows last rfl
  exact ⟨holds (Grip.seen_ne last), known ▸ agrees⟩

/-- A schedule: a callback is set, and a port is made the host, up to the report. -/
def hostSchedule : List (Label sig Thread Turn EnvEvent) :=
  [.go .binder (.serve (.setCallback true)), .act .binder (.lock .mLock) (),
    .act .binder .readCallback false, .act .binder (.writeCallback true) (),
    .act .binder (.writeDestroyThread false) (), .act .binder .signal (),
    .act .binder .pthreadCreate true, .act .binder (.unlock .mLock) (),
    .go .binder (.serve (.switchRole "port0" (.dataRole .host) 1)),
    .act .binder (.lock .mRoleSwitchLock) (),
    .act .binder (.fopen (appendRoleNodeHelper "port0" .dataRole)) true,
    .act .binder (.fputs (appendRoleNodeHelper "port0" .dataRole) "host") true,
    .act .binder (.fclose (appendRoleNodeHelper "port0" .dataRole)) true,
    .act .binder (.readFile (appendRoleNodeHelper "port0" .dataRole)) (some "[host] device"),
    .act .binder (.lock .mLock) (), .act .binder .readCallback true]

end

open Libbase.Documented in
/-- The data role is switched to host, and SUCCESS is about to be told. -/
theorem role_switch_agrees_host : ∃ c, touching.Reach (touching.start none) c ∧
    (c.prog .binder).head? =
      some (.notify (.roleSwitchStatus "port0" (.dataRole .host) .success 1)) ∧
    Agrees "port0" (.dataRole .host) .success c.shared.2 := by
  have h : (touching.play (fun _ _ => True) hostSchedule (touching.start none)).map
      (fun c => (c.prog .binder).head?) =
        some (some (.notify (.roleSwitchStatus "port0" (.dataRole .host) .success 1))) := rfl
  obtain ⟨c, run, next⟩ := touching.exists_run h
  exact ⟨c, run, next, (role_switch_agrees run next).2⟩

end Redfin.Usb
