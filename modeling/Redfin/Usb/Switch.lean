import Redfin.Usb.Calls

/-!
# The stages of a role switch

A second protocol beside that of the locks: where the binder thread is in `switchRole`, up to the
result it has to tell, and where the worker is in its loop and with the locks it shares with the
switch. What each stage permits is listed once (`BinderOk`, `WorkerOk`); the proofs about the runs
of the service go by cases on it.
-/

set_option linter.unusedSectionVars false

namespace Redfin.Usb

open Program

variable [Libbase]

/-- Where a thread is. From `switching` on the binder thread holds `mRoleSwitchLock`; `node` is the
node it has opened last, and the decision is whether the mode was switched, once that is known.
From `locked` to `written` and in `relocked` and `up` it holds `mPartnerLock` as well. In `told`
there is a result no more to be told. -/
inductive Stage where
  | idle
  | switching (node : String) (decision : Option Bool)
  | locked (node : String)
  | cleared (node : String)
  | put (node : String)
  | failed (node : String)
  | written (node : String)
  | waiting (node : String)
  | woken (node : String) (timedOut : Bool)
  | relocked (node : String) (timedOut : Bool)
  | up (node : String)
  | announcing (node : String) (decision : Option Bool)
  | told
  /-- The worker has found `destroyThread` false and is about to wait. -/
  | tested
  | polling
  /-- The worker holds `mPartnerLock`. -/
  | partner
  /-- The worker holds `mRoleSwitchLock`. -/
  | role
deriving DecidableEq

/-- What the binder thread performs outside `switchRole`. -/
def Op.ordinary : Op → Bool
  | .lock m | .unlock m => m = .mLock
  | .trylock _ | .fopen _ | .fputs _ _ | .fclose _ => false
  | .condRelease | .condWake | .writePartnerUp _ | .readPartnerUp => false
  | .notify (.roleSwitchStatus _ _ _ _) => false
  | .writeDestroyThread destroy => !destroy
  | .readDestroyThread | .epollEnter | .epollReturn | .recv => false
  | _ => true

/-- What the worker performs with neither of the two locks. -/
def Op.quiet : Op → Bool
  | .writeFile _ _ | .writeCallback _ | .writeDestroyThread _ => false
  | o => o.ordinary

/-- An access to a file that is open, or a read. -/
def Op.usesFile : Op → Bool
  | .fputs _ _ | .fclose _ | .readFile _ => true
  | _ => false

/-- What the worker performs with `mRoleSwitchLock`. -/
def Op.switchesBack : Op → Bool
  | .opendir _ | .fopen _ | .fclose _ => true
  | .fputs _ content => content = "dual"
  | _ => false

/-- The result of a switch that may be told in a stage: no success of a mode switch without the
decision, and after it the decision for the port whose node was written. -/
def Stage.Announces (node : String) (portName : String) (role : PortRole) (status : Status) :
    Option Bool → Prop
  | none => ¬(role.getTag = .mode ∧ status = .success)
  | some roleSwitch => status = result roleSwitch ∧ appendRoleNodeHelper portName .mode = node

/-- What the binder thread performs in a stage. -/
inductive BinderOk : Stage → Op → Prop where
  | idle {o} : o.ordinary = true → BinderOk .idle o
  | enter : BinderOk .idle (.lock .mRoleSwitchLock)
  | fopen {node decision path} :
    (∀ roleSwitch, decision = some roleSwitch → roleSwitch = false ∧ path = node) →
    BinderOk (.switching node decision) (.fopen path)
  | file {node decision o} :
    o.usesFile = true →
    decision ≠ some true →
    BinderOk (.switching node decision) o
  | lockPartner {node} : BinderOk (.switching node none) (.lock .mPartnerLock)
  | clear {node} : BinderOk (.locked node) (.writePartnerUp false)
  | fputs {node text} : BinderOk (.cleared node) (.fputs node text)
  | close {node} : BinderOk (.put node) (.fclose node)
  | closeFailed {node} : BinderOk (.failed node) (.fclose node)
  | unlockFailed {node} : BinderOk (.failed node) (.unlock .mPartnerLock)
  | release {node} : BinderOk (.written node) .condRelease
  | wake {node} : BinderOk (.waiting node) .condWake
  | relock {node timedOut} : BinderOk (.woken node timedOut) (.lock .mPartnerLock)
  | unlockExpired {node} : BinderOk (.relocked node true) (.unlock .mPartnerLock)
  | read {node} : BinderOk (.relocked node false) .readPartnerUp
  | unlockUp {node} : BinderOk (.up node) (.unlock .mPartnerLock)
  | lock {node decision} : BinderOk (.switching node decision) (.lock .mLock)
  | readCallback {node decision} : BinderOk (.switching node decision) .readCallback
  | notify {node decision portName role status id} :
    Stage.Announces node portName role status decision →
    BinderOk (.announcing node decision) (.notify (.roleSwitchStatus portName role status id))
  | unlock : BinderOk .told (.unlock .mLock)
  | leave : BinderOk .told (.unlock .mRoleSwitchLock)

/-- What the worker performs in a stage. -/
inductive WorkerOk : Stage → Op → Prop where
  | quiet {o} : o.quiet = true → WorkerOk .idle o
  | recv : WorkerOk .idle .recv
  | test : WorkerOk .idle .readDestroyThread
  | epollEnter : WorkerOk .tested .epollEnter
  | epollReturn : WorkerOk .polling .epollReturn
  | lock : WorkerOk .idle (.lock .mPartnerLock)
  | up : WorkerOk .partner (.writePartnerUp true)
  | signal : WorkerOk .partner .condSignal
  | unlock : WorkerOk .partner (.unlock .mPartnerLock)
  | trylock : WorkerOk .idle (.trylock .mRoleSwitchLock)
  | role {o} : o.switchesBack = true → WorkerOk .role o
  | leave : WorkerOk .role (.unlock .mRoleSwitchLock)

namespace Stage

def lockPartner : Stage → Stage
  | .switching node _ => .locked node
  | .woken node timedOut => .relocked node timedOut
  | .idle => .partner
  | q => q

def unlockPartner : Stage → Stage
  | .failed node => .switching node (some false)
  | .relocked node _ => .switching node (some false)
  | .up node => .switching node (some true)
  | .partner => .idle
  | q => q

def lock (q : Stage) : Mutex → Stage
  | .mLock => q
  | .mRoleSwitchLock => .switching "" none
  | .mPartnerLock => q.lockPartner

def unlock (q : Stage) : Mutex → Stage
  | .mLock => q
  | .mRoleSwitchLock => .idle
  | .mPartnerLock => q.unlockPartner

def fopen : Stage → String → Stage
  | .switching _ decision, path => .switching path decision
  | q, _ => q

def fputs : Stage → Bool → Stage
  | .cleared node, ok => if ok then .put node else .failed node
  | q, _ => q

def fclose : Stage → Stage
  | .put node => .written node
  | q => q

def writePartnerUp : Stage → Stage
  | .locked node => .cleared node
  | q => q

def readPartnerUp : Stage → Bool → Stage
  | .relocked node _, isUp => if isUp then .up node else .written node
  | q, _ => q

def condRelease : Stage → Stage
  | .written node => .waiting node
  | q => q

def condWake : Stage → Bool → Stage
  | .waiting node, timedOut => .woken node timedOut
  | q, _ => q

def readCallback : Stage → Bool → Stage
  | .switching node decision, isSet => if isSet then .announcing node decision else .told
  | q, _ => q

def notify : Stage → Stage
  | .announcing _ _ => .told
  | q => q

/-- The stage after an operation with its result. -/
def next (q : Stage) : (o : Op) → o.Res → Stage
  | .lock m, _ => q.lock m
  | .unlock m, _ => q.unlock m
  | .trylock _, taken => if taken then .role else q
  | .fopen path, _ => q.fopen path
  | .fputs _ _, ok => q.fputs ok
  | .fclose _, _ => q.fclose
  | .writePartnerUp _, _ => q.writePartnerUp
  | .readPartnerUp, isUp => q.readPartnerUp isUp
  | .condRelease, _ => q.condRelease
  | .condWake, timedOut => q.condWake timedOut
  | .readCallback, isSet => q.readCallback isSet
  | .notify _, _ => q.notify
  | .readDestroyThread, destroy => if destroy then q else .tested
  | .epollEnter, _ => .polling
  | .epollReturn, _ => .idle
  | _, _ => q

end Stage

/-- The protocol of a thread's stages. -/
def stages : Thread → Protocol sig Stage
  | .binder => ⟨BinderOk, Stage.next⟩
  | .worker => ⟨WorkerOk, Stage.next⟩

/-- The stage in which a program ends. -/
def stageRest : Thread → Next → Stage
  | .binder, .waitAgain portName _ _ => .written (appendRoleNodeHelper portName .mode)
  | _, _ => .idle

/-! ## The calls without a wait -/

/-- What the worker performs with neither lock is outside `switchRole`. -/
lemma Op.ordinary_of_quiet {o : Op} (h : o.quiet = true) : o.ordinary = true := by
  cases o with
  | writeFile path content => cases h
  | writeCallback isSet => cases h
  | writeDestroyThread destroy => cases h
  | _ => exact h

/-- An ordinary operation leaves a thread idle. -/
lemma next_of_ordinary {o : Op} (h : o.ordinary = true) (r : o.Res) :
    Stage.idle.next o r = .idle := by
  cases o with
  | lock m =>
    obtain rfl : m = .mLock := of_decide_eq_true h
    rfl
  | unlock m =>
    obtain rfl : m = .mLock := of_decide_eq_true h
    rfl
  | trylock m => cases h
  | readDestroyThread => cases h
  | epollEnter => cases h
  | _ => rfl

/-- An operation outside `switchRole` is no change of stage. -/
lemma neutral_ordinary {o : Op} (h : o.ordinary = true) : (stages .binder).Neutral .idle o :=
  ⟨.idle h, next_of_ordinary h⟩

/-- What the worker performs with neither lock is no change of stage. -/
lemma neutral_quiet {o : Op} (h : o.quiet = true) : (stages .worker).Neutral .idle o :=
  ⟨.quiet h, next_of_ordinary (Op.ordinary_of_quiet h)⟩

/-- Every operation is one of those outside `switchRole`. -/
abbrev Ordinary {α : Type} (p : Hal α) : Prop := p.All fun o : Op => o.ordinary = true

/-- The operations of the query are quiet. -/
lemma queries_quiet : Queries fun o => o.quiet = true where
  readFile _ := rfl
  listDir _ := rfl
  hashOrder _ := rfl
  readUsbDataEnabled := rfl
  abort := rfl
  access _ _ := rfl
  readCallback := rfl
  notify _ _ := rfl

/-- The query is quiet. -/
lemma quiet_query (v : List PortStatus) :
    (queryVersionHelper v).All fun o : Op => o.quiet = true :=
  all_queryVersionHelper queries_quiet rfl rfl v

/-- The query is outside `switchRole`. -/
lemma ordinary_queryVersionHelper (v : List PortStatus) : Ordinary (queryVersionHelper v) :=
  (quiet_query v).mono fun _ => Op.ordinary_of_quiet

/-! ## The role switch -/

/-- Every program of a thread ends in the stage that fits what comes next. -/
abbrev StageRests (t : Thread) (q : Stage) (p : Hal Next) : Prop :=
  p.Follows (stages t) q fun l q' => q' = stageRest t l

/-- The result is told with `mRoleSwitchLock` held, unless there is no callback. -/
lemma stageRests_finishRoleSwitch {node portName : String} {role : PortRole} {id : ℤ}
    {roleSwitch : Bool} {decision : Option Bool}
    (h : Stage.Announces node portName role (result roleSwitch) decision) :
    StageRests .binder (.switching node decision)
      (finishRoleSwitch portName role id roleSwitch) := by
  refine ⟨.lock, fun _ => ⟨.readCallback, fun isSet => ?_⟩⟩
  cases isSet with
  | true => exact ⟨.notify h, fun _ => ⟨.unlock, fun _ => ⟨.leave, fun _ => rfl⟩⟩⟩
  | false => exact ⟨.unlock, fun _ => ⟨.leave, fun _ => rfl⟩⟩

/-- A switch that has failed, with or without a wait. -/
lemma stageRests_failed {node portName : String} (role : PortRole) (id : ℤ)
    {decision : Option Bool}
    (h : ∀ roleSwitch, decision = some roleSwitch →
      roleSwitch = false ∧ appendRoleNodeHelper portName .mode = node) :
    StageRests .binder (.switching node decision) (finishModeSwitch portName role id false) := by
  have told : Stage.Announces (appendRoleNodeHelper portName .mode) portName role .error
      decision := by
    cases decision with
    | none => exact fun x => Status.noConfusion x.2
    | some roleSwitch =>
      obtain ⟨rfl, -⟩ := h roleSwitch rfl
      exact ⟨rfl, rfl⟩
  have finish : StageRests .binder (.switching (appendRoleNodeHelper portName .mode) decision)
      (finishRoleSwitch portName role id false) := stageRests_finishRoleSwitch told
  have failed : decision ≠ some true := fun e => Bool.noConfusion (h true e).1
  refine ⟨.fopen h, fun opened => ?_⟩
  cases opened with
  | true => exact ⟨.file rfl failed, fun _ => ⟨.file rfl failed, fun _ => finish⟩⟩
  | false => exact finish

/-- After the decision the switch ends. -/
lemma stageRests_decided {portName : String} (role : PortRole) (id : ℤ) (roleSwitch : Bool) :
    StageRests .binder (.switching (appendRoleNodeHelper portName .mode) (some roleSwitch))
      (finishModeSwitch portName role id roleSwitch) := by
  cases roleSwitch with
  | true => exact stageRests_finishRoleSwitch ⟨rfl, rfl⟩
  | false =>
    refine stageRests_failed role id fun _ e => ?_
    cases e
    exact ⟨rfl, rfl⟩

/-- A mode switch ends idle or in its wait. -/
lemma stageRests_switchMode (node : String) {portName : String} {role : PortRole} (id : ℤ)
    (mode : role.getTag = .mode) :
    StageRests .binder (.switching node none) (switchMode portName role id) := by
  rw [switchMode, mode]
  refine ⟨.fopen nofun, fun opened => ?_⟩
  cases opened with
  | false => exact stageRests_failed role id nofun
  | true =>
    refine ⟨.lockPartner, fun _ => ⟨.clear, fun _ => ⟨.fputs, fun written => ?_⟩⟩⟩
    cases written with
    | true => exact ⟨.close, fun _ => rfl⟩
    | false =>
      exact ⟨.closeFailed, fun _ => ⟨.unlockFailed, fun _ => stageRests_decided role id false⟩⟩

/-- After a wake-up the switch ends, or waits again. -/
lemma stageRests_waitAgain (portName : String) (role : PortRole) (id : ℤ) :
    StageRests .binder (.written (appendRoleNodeHelper portName .mode))
      (waitAgain portName role id) := by
  refine ⟨.release, fun _ => ⟨.wake, fun timedOut => ⟨.relock, fun _ => ?_⟩⟩⟩
  cases timedOut with
  | true => exact ⟨.unlockExpired, fun _ => stageRests_decided role id false⟩
  | false =>
    refine ⟨.read, fun up => ?_⟩
    cases up with
    | false => exact rfl
    | true => exact ⟨.unlockUp, fun _ => stageRests_decided role id true⟩

/-- Writing a role and reading it back leaves the switch undecided. -/
lemma stages_writeRole (node portName : String) (role : PortRole) :
    (writeRole portName role).Follows (stages .binder) (.switching node none)
      fun _ q => ∃ node, q = .switching node none := by
  refine ⟨.fopen nofun, fun opened => ?_⟩
  cases opened with
  | false => exact ⟨_, rfl⟩
  | true =>
    refine ⟨.file rfl nofun, fun ok => ⟨.file rfl nofun, fun _ => ?_⟩⟩
    cases ok with
    | false => exact ⟨_, rfl⟩
    | true =>
      refine ⟨.file rfl nofun, fun written => ?_⟩
      cases written with
      | none => exact ⟨_, rfl⟩
      | some written => exact ⟨_, rfl⟩

/-- `switchRole` ends idle or in its wait. -/
lemma stageRests_switchRole (portName : String) (role : PortRole) (id : ℤ) :
    StageRests .binder .idle (switchRole portName role id) := by
  refine ⟨.enter, fun _ => ?_⟩
  show StageRests .binder (.switching "" none) (if role.getTag = .mode then _ else _)
  split
  · rename_i mode
    exact stageRests_switchMode "" id mode
  · rename_i other
    refine (stages_writeRole "" portName role).bind fun roleSwitch q hq => ?_
    obtain ⟨node, rfl⟩ := hq
    exact stageRests_finishRoleSwitch fun x => other x.1

/-- A call outside `switchRole` ends idle. -/
lemma stageRests_serve {p : Hal Unit} (h : Ordinary p) : StageRests .binder .idle (serve p) :=
  (h.mono fun _ => neutral_ordinary).follows_bind fun _ => rfl

/-- Every call but `switchRole` is ordinary. -/
lemma ordinary_call (call : Call) :
    (∃ portName role id, call = .switchRole portName role id) ∨
      ∃ p, call.program = serve p ∧ Ordinary p := by
  have query := ordinary_queryVersionHelper []
  have tell (n : Notification) (hn : (Op.notify n).ordinary = true) : Ordinary (notify n) :=
    all_notify rfl rfl hn rfl
  cases call with
  | enableUsbData portName enable id =>
    exact .inr ⟨_, rfl, all_enableUsbData (all_setPullup rfl (fun _ => rfl) rfl) (fun _ => rfl)
      rfl (fun _ => tell _ rfl) query⟩
  | enableUsbDataWhileDocked portName id =>
    exact .inr ⟨_, rfl, (tell _ rfl).bind fun _ => query.bind fun _ => trivial⟩
  | resetUsbPort portName id => exact .inr ⟨_, rfl, rfl, fun _ => tell _ rfl⟩
  | limitPowerTransfer portName limit id =>
    exact .inr ⟨_, rfl, all_limitPowerTransfer rfl rfl (fun _ => rfl) (fun _ => rfl)
      (fun _ => rfl) rfl (fun _ => rfl) query⟩
  | switchRole portName role id => exact .inl ⟨portName, role, id, rfl⟩
  | queryPortStatus id => exact .inr ⟨_, rfl, query.bind fun _ => tell _ rfl⟩
  | enableContaminantPresenceDetection portName enable id =>
    exact .inr ⟨_, rfl, all_enableContaminantPresenceDetection (fun _ => rfl) (fun _ => rfl)
      (fun _ => tell _ rfl) query⟩
  | setCallback isSet =>
    exact .inr ⟨_, rfl, all_setCallback rfl rfl rfl (fun _ => rfl) rfl rfl rfl rfl rfl⟩

/-- Every call leaves the binder thread idle, or where it waits for the partner. -/
lemma stageRests_call (call : Call) : StageRests .binder .idle call.program := by
  rcases ordinary_call call with ⟨portName, role, id, rfl⟩ | ⟨p, e, ordinary⟩
  · exact stageRests_switchRole portName role id
  · rw [e]
    exact stageRests_serve ordinary

/-! ## The worker -/

/-- Going back to dual role stays within the time of `mRoleSwitchLock`. -/
lemma stages_switchToDrp (portName : String) :
    (switchToDrp portName).All ((stages .worker).Neutral .role) :=
  all_switchToDrp (fun _ => ⟨.role rfl, fun _ => rfl⟩) (fun _ _ => ⟨.role rfl, fun _ => rfl⟩)
    (fun _ => ⟨.role rfl, fun _ => rfl⟩) portName

/-- Nodes are written under `mRoleSwitchLock` only. -/
lemma stages_portEvent : portEvent.Follows (stages .worker) .idle fun _ q => q = .idle := by
  refine ((quiet_query []).mono fun _ => neutral_quiet).follows_bind fun ports => ?_
  refine ⟨.trylock, fun taken => ?_⟩
  cases taken with
  | false => exact rfl
  | true =>
    have switch : (switchDisconnected ports).All ((stages .worker).Neutral .role) :=
      all_switchDisconnected (fun _ => ⟨.role rfl, fun _ => rfl⟩) stages_switchToDrp ports
    exact switch.follows_bind fun _ => ⟨.leave, fun _ => rfl⟩

/-- The records of one message begin and end idle. -/
lemma stages_handleRecords (cps : List (List Char)) :
    (handleRecords cps).Follows (stages .worker) .idle fun _ q => q = .idle := by
  induction cps with
  | nil => exact rfl
  | cons cp cps ih =>
    rw [handleRecords]
    split
    · exact ⟨.lock, fun _ => ⟨.up, fun _ => ⟨.signal, fun _ => ⟨.unlock, fun _ => ih⟩⟩⟩⟩
    · split
      · exact stages_portEvent
      · exact ih

/-- The handler of a message begins and ends idle. -/
lemma stages_ueventEvent :
    ueventEvent.Follows (stages .worker) .idle fun _ q => q = .idle := by
  refine ⟨.recv, fun packet => ?_⟩
  cases packet with
  | none => exact rfl
  | some msg =>
    show Prog.Follows _ (if msg.length ≥ ueventMsgLen then _ else _) _ _
    split
    · exact rfl
    · exact stages_handleRecords (records msg)

/-- The end of the worker is idle. -/
lemma stageRests_exitWorker : StageRests .worker .idle exitWorker :=
  ⟨.quiet rfl, fun _ => ⟨.quiet rfl, fun _ => rfl⟩⟩

/-- The worker's loop ends idle. -/
lemma stageRests_work : StageRests .worker .idle work := by
  refine ⟨.quiet rfl, fun opened => ?_⟩
  cases opened with
  | false => exact ⟨.quiet rfl, fun _ => rfl⟩
  | true =>
    refine ⟨.quiet rfl, fun created => ?_⟩
    cases created with
    | false => exact stageRests_exitWorker
    | true =>
      refine ⟨.quiet rfl, fun added => ?_⟩
      cases added with
      | false => exact stageRests_exitWorker
      | true => exact rfl

/-- A turn of the worker ends idle. -/
lemma stageRests_workTurn : StageRests .worker .idle workTurn := by
  refine ⟨.test, fun destroy => ?_⟩
  cases destroy with
  | true => exact stageRests_exitWorker
  | false =>
    refine ⟨.epollEnter, fun _ => ⟨.epollReturn, fun r => ?_⟩⟩
    cases r with
    | interrupted => exact rfl
    | failed => exact stageRests_exitWorker
    | ready => exact stages_ueventEvent.bind fun _ _ hq => hq

/-- What the threads of the service take up goes through the stages. -/
theorem service_obeys_stages : service.Obeys stages stageRest := by
  intro t l x s p s' h
  cases goes_of_go h with
  | serve call => exact stageRests_call call
  | waitAgain portName role id => exact stageRests_waitAgain portName role id
  | start created => exact stageRests_work
  | loop => exact stageRests_workTurn

end Redfin.Usb
