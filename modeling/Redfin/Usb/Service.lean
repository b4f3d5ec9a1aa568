import Redfin.Program.Threads
import Redfin.Usb.Worker

/-!
# The USB service

The USB HAL serves its calls one after the other on one binder thread, and has at most one worker
thread beside it. The environment queues packets on the uevent socket and delivers the signal; the
gadget HAL, another process, may write the UDC node at any time.

What is assumed of the threads library: `pthread_kill` fails only for a thread that has ended, and
may succeed for that too as long as it has not been joined; `pthread_join` returns when the thread
has ended; `pthread_cond_timedwait` may return at any time and for any reason. An `epoll_wait` that
is interrupted has seen the signal. An access outside a vector is taken to do nothing.

The last fields of `Shared` are history that no step depends on.
-/

set_option linter.unusedSectionVars false

namespace Redfin.Usb

open Function Program

variable [Libbase]

inductive Thread where
  | binder
  | worker
deriving DecidableEq, Repr

/-- A call of the framework. -/
inductive Call where
  | enableUsbData (portName : String) (enable : Bool) (id : ℤ)
  | enableUsbDataWhileDocked (portName : String) (id : ℤ)
  | resetUsbPort (portName : String) (id : ℤ)
  | limitPowerTransfer (portName : String) (limit : Bool) (id : ℤ)
  | switchRole (portName : String) (role : PortRole) (id : ℤ)
  | queryPortStatus (id : ℤ)
  | enableContaminantPresenceDetection (portName : String) (enable : Bool) (id : ℤ)
  | setCallback (isSet : Bool)
deriving DecidableEq, Repr

/-- Serve a call that has no wait in it. -/
def serve (p : Hal Unit) : Hal Next := do
  p
  return .ready

def Call.program : Call → Hal Next
  | .enableUsbData portName enable id => serve (Usb.enableUsbData portName enable id)
  | .enableUsbDataWhileDocked portName id => serve (Usb.enableUsbDataWhileDocked portName id)
  | .resetUsbPort portName id => serve (Usb.resetUsbPort portName id)
  | .limitPowerTransfer portName limit id => serve (Usb.limitPowerTransfer portName limit id)
  | .switchRole portName role id => Usb.switchRole portName role id
  | .queryPortStatus id => serve (Usb.queryPortStatus id)
  | .enableContaminantPresenceDetection portName enable id =>
    serve (Usb.enableContaminantPresenceDetection portName enable id)
  | .setCallback isSet => serve (Usb.setCallback isSet)

/-- What a thread takes up next. -/
inductive Turn where
  | serve (call : Call)
  | waitAgain
  | start
  | loop
deriving DecidableEq, Repr

/-- `enableUsbData(false)` reports a success. -/
def Notification.disables : Notification → Bool
  | .enableUsbDataStatus _ false .success _ => true
  | _ => false

/-- `enableUsbData(true)` -/
def Call.enables : Call → Bool
  | .enableUsbData _ true _ => true
  | _ => false

/-- The handling of the message comes to a record that makes the worker query the ports. -/
def wantsQuery (msg : List Char) : Bool :=
  decide (msg.length < ueventMsgLen) &&
    (records msg).any fun cp => !isPartnerAdd cp && isPortEvent cp

/-- The state the threads share. The worker is `created` until it begins and `alive` until it
ends; `signal` is a `SIGUSR1` on its way to it, `inEpoll` tells that it is in `epoll_wait`,
`interrupted` that the signal was delivered there. A packet that the receiving call rejects is
none. Of the history, `joining` tells that the binder thread is between its `pthread_kill` and the
return of `pthread_join`, `pendingQuery` that the worker has received a message to query for and
has not yet taken `mLock`, `dataDisabled` that `enableUsbData(false)` has reported a success and no
`enableUsbData(true)` has begun since. -/
structure Shared where
  holder : Mutex → Option Thread := fun _ => none
  callback : Bool := false
  usbDataEnabled : Bool := true
  partnerUp : Bool := false
  destroyThread : Bool := false
  created : Bool := false
  alive : Bool := false
  signal : Bool := false
  inEpoll : Bool := false
  interrupted : Bool := false
  packets : List (Option (List Char)) := []
  udc : Option String := none
  joining : Bool := false
  pendingQuery : Bool := false
  dataDisabled : Bool := false

namespace Shared

/-- The thread takes the lock. -/
def acquire (s : Shared) (t : Thread) (m : Mutex) : Shared :=
  { s with
    holder := update s.holder m (some t)
    pendingQuery := s.pendingQuery && decide (¬(t = .worker ∧ m = .mLock)) }

def release (s : Shared) (m : Mutex) : Shared := { s with holder := update s.holder m none }

/-- There is a worker thread. -/
def running (s : Shared) : Bool := s.created || s.alive

/-- The node reads as the name of the controller, or as nothing. -/
def reads (s : Shared) (path : String) (content : Option String) : Bool :=
  path ≠ pullupPath || content.all fun text => trim text = s.udc.getD ""

/-- A write of a node, which binds or unbinds the controller if it is the UDC node. -/
def write (s : Shared) (path content : String) (ok : Bool) : Shared :=
  { s with
    udc :=
      if ok = true ∧ path = pullupPath then (if content = "none" then none else some content)
      else s.udc }

end Shared

/-- The effect of an operation of the thread `t`. -/
def act (t : Thread) : (o : Op) → o.Res → Shared → Option Shared
  | .lock m, _, s => if s.holder m = none then some (s.acquire t m) else none
  | .unlock m, _, s => some (s.release m)
  | .trylock m, taken, s =>
    if taken = decide (s.holder m = none) then some (if taken then s.acquire t m else s) else none
  | .condRelease, _, s => some (s.release .mPartnerLock)
  | .readFile path, content, s => if s.reads path content then some s else none
  | .writeFile path content, ok, s => some (s.write path content ok)
  | .readCallback, isSet, s => if isSet = s.callback then some s else none
  | .writeCallback isSet, _, s => some { s with callback := isSet }
  | .readUsbDataEnabled, enabled, s => if enabled = s.usbDataEnabled then some s else none
  | .writeUsbDataEnabled enabled, _, s => some { s with usbDataEnabled := enabled }
  | .readPartnerUp, up, s => if up = s.partnerUp then some s else none
  | .writePartnerUp up, _, s => some { s with partnerUp := up }
  | .readDestroyThread, destroy, s => if destroy = s.destroyThread then some s else none
  | .writeDestroyThread destroy, _, s => some { s with destroyThread := destroy }
  | .notify n, _, s => some { s with dataDisabled := s.dataDisabled || n.disables }
  | .pthreadKill, ok, s =>
    if ok then some { s with signal := s.running, joining := true }
    else if s.running then none else some s
  | .pthreadJoin, _, s => if s.running then none else some { s with joining := false }
  | .pthreadCreate, ok, s => some { s with created := s.created || ok }
  | .pthreadExit, _, s => some { s with alive := false, signal := false }
  | .epollEnter, _, s => some { s with inEpoll := true, interrupted := false }
  | .epollReturn, r, s =>
    if (r = .ready → s.packets ≠ []) ∧ (r = .interrupted → s.interrupted) then
      some { s with inEpoll := false, interrupted := false }
    else none
  | .recv, packet, s =>
    if packet = s.packets.headD none then
      some { s with
        packets := s.packets.tail
        pendingQuery := packet.any wantsQuery }
    else none
  | .abort, r, _ => nomatch r
  | _, _, s => some s

/-! ## What an operation does -/

/-- The operations that take or release a lock, end or join a thread, or receive a message. -/
def Op.syncs : Op → Bool
  | .lock _ | .unlock _ | .trylock _ | .condRelease | .pthreadKill | .pthreadJoin | .recv => true
  | _ => false

/-- The operation may bind a controller: it writes something else than `none` to the UDC node. -/
def Op.pullsUp : Op → Prop
  | .writeFile path content => path = pullupPath ∧ content ≠ "none"
  | .fputs path _ => path = pullupPath
  | _ => False

/-- The operation reports the success of `enableUsbData(false)`. -/
def Op.disables : Op → Bool
  | .notify n => n.disables
  | _ => false

/-- A step leaves alone who holds which lock, the join and the pending query. -/
structure SameLocks (s s' : Shared) : Prop where
  holder : s'.holder = s.holder
  joining : s'.joining = s.joining
  pending : s'.pendingQuery = s.pendingQuery

/-- What an operation may do to the locks, the UDC node and the history of disabled data. -/
structure Effect (o : Op) (s s' : Shared) : Prop where
  locks : o.syncs = false → SameLocks s s'
  udc : ¬o.pullsUp → s.udc = none → s'.udc = none
  dataDisabled : s'.dataDisabled = (s.dataDisabled || o.disables)

/-- An operation may leave the state as it is. -/
lemma Effect.refl {o : Op} (h : o.disables = false) (s : Shared) : Effect o s s where
  locks _ := ⟨rfl, rfl, rfl⟩
  udc _ hu := hu
  dataDisabled := by rw [h, Bool.or_false]

/-- Taking a lock has no other effect. -/
lemma effect_acquire {o : Op} {t : Thread} {m : Mutex} (ho : o.syncs = true)
    (h : o.disables = false) (s : Shared) : Effect o s (s.acquire t m) where
  locks hs := by rw [ho] at hs; cases hs
  udc _ hu := hu
  dataDisabled := by rw [h, Bool.or_false]; rfl

/-- Writing a node has no effect but on the nodes. -/
lemma effect_write (path content : String) (ok : Bool) (s : Shared) :
    Effect (.writeFile path content) s (s.write path content ok) where
  locks _ := ⟨rfl, rfl, rfl⟩
  udc h hu := by
    show (if ok = true ∧ path = pullupPath then _ else _) = none
    split
    · rename_i hp
      have none : content = "none" := by
        by_contra hc
        exact h ⟨hp.2, hc⟩
      rw [if_pos none]
    · exact hu
  dataDisabled := (Bool.or_false _).symm

/-- What one operation does, once for all proofs. -/
lemma effect_act {t : Thread} {o : Op} {r : o.Res} {s s' : Shared} (h : act t o r s = some s') :
    Effect o s s' := by
  cases o with
  | lock m =>
    obtain ⟨-, rfl⟩ := of_enabled h
    exact effect_acquire rfl rfl s
  | trylock m =>
    obtain ⟨-, rfl⟩ := of_enabled h
    cases r with
    | true => exact effect_acquire rfl rfl s
    | false => exact .refl rfl s
  | writeFile path content =>
    cases h
    exact effect_write path content r s
  | notify n =>
    cases h
    exact ⟨fun _ => ⟨rfl, rfl, rfl⟩, fun _ hu => hu, rfl⟩
  | pthreadKill =>
    cases r with
    | true =>
      cases h
      exact ⟨nofun, fun _ hu => hu, (Bool.or_false _).symm⟩
    | false =>
      obtain ⟨-, rfl⟩ := of_blocked h
      exact .refl rfl s
  | pthreadJoin =>
    obtain ⟨-, rfl⟩ := of_blocked h
    exact ⟨nofun, fun _ hu => hu, (Bool.or_false _).symm⟩
  | recv =>
    obtain ⟨-, rfl⟩ := of_enabled h
    exact ⟨nofun, fun _ hu => hu, (Bool.or_false _).symm⟩
  | unlock m | condRelease =>
    cases h
    exact ⟨nofun, fun _ hu => hu, (Bool.or_false _).symm⟩
  | abort => exact nomatch r
  | readFile path | readCallback | readUsbDataEnabled | readPartnerUp | readDestroyThread =>
    obtain ⟨-, rfl⟩ := of_enabled h
    exact .refl rfl s
  | epollReturn =>
    obtain ⟨-, rfl⟩ := of_enabled h
    exact ⟨fun _ => ⟨rfl, rfl, rfl⟩, fun _ hu => hu, (Bool.or_false _).symm⟩
  | _ =>
    cases h
    exact ⟨fun _ => ⟨rfl, rfl, rfl⟩, fun _ hu => hu, (Bool.or_false _).symm⟩

/-- The operation is one of the worker's wait, or sets `destroyThread`. -/
def Op.polls : Op → Bool
  | .recv | .epollEnter | .epollReturn => true
  | .writeDestroyThread destroy => destroy
  | _ => false

/-- The operation sets or clears `mPartnerUp` or the callback. -/
def Op.assigns : Op → Bool
  | .writePartnerUp _ | .writeCallback _ => true
  | _ => false

/-- A step leaves the wait of the worker alone, and does not set `destroyThread`. -/
structure SamePoll (s s' : Shared) : Prop where
  packets : s'.packets = s.packets
  inEpoll : s'.inEpoll = s.inEpoll
  interrupted : s'.interrupted = s.interrupted
  destroyThread : s'.destroyThread = true → s.destroyThread = true

/-- A step leaves `mPartnerUp` and the callback alone. -/
structure SameFlags (s s' : Shared) : Prop where
  partnerUp : s'.partnerUp = s.partnerUp
  callback : s'.callback = s.callback

/-- What an operation leaves alone, by what it is. -/
structure Frame (o : Op) (s s' : Shared) : Prop where
  poll : o.polls = false → SamePoll s s'
  flags : o.assigns = false → SameFlags s s'

/-- Doing nothing leaves everything alone. -/
lemma Frame.refl {o : Op} (s : Shared) : Frame o s s where
  poll _ := ⟨rfl, rfl, rfl, fun h => h⟩
  flags _ := ⟨rfl, rfl⟩

/-- What an operation leaves alone. -/
lemma frame_act {t : Thread} {o : Op} {r : o.Res} {s s' : Shared} (h : act t o r s = some s') :
    Frame o s s' := by
  cases o with
  | lock m =>
    obtain ⟨-, rfl⟩ := of_enabled h
    exact ⟨fun _ => ⟨rfl, rfl, rfl, fun h => h⟩, fun _ => ⟨rfl, rfl⟩⟩
  | readFile path | readCallback | readUsbDataEnabled | readPartnerUp | readDestroyThread =>
    obtain ⟨-, rfl⟩ := of_enabled h
    exact .refl s
  | trylock m =>
    obtain ⟨-, rfl⟩ := of_enabled h
    cases r with
    | true => exact ⟨fun _ => ⟨rfl, rfl, rfl, fun h => h⟩, fun _ => ⟨rfl, rfl⟩⟩
    | false => exact .refl s
  | pthreadKill =>
    cases r with
    | true =>
      cases h
      exact ⟨fun _ => ⟨rfl, rfl, rfl, fun h => h⟩, fun _ => ⟨rfl, rfl⟩⟩
    | false =>
      obtain ⟨-, rfl⟩ := of_blocked h
      exact .refl s
  | pthreadJoin =>
    obtain ⟨-, rfl⟩ := of_blocked h
    exact ⟨fun _ => ⟨rfl, rfl, rfl, fun h => h⟩, fun _ => ⟨rfl, rfl⟩⟩
  | writeDestroyThread destroy =>
    cases h
    refine ⟨fun ho => ⟨rfl, rfl, rfl, fun hd => ?_⟩, fun _ => ⟨rfl, rfl⟩⟩
    cases ho.symm.trans hd
  | epollReturn =>
    obtain ⟨-, rfl⟩ := of_enabled h
    exact ⟨nofun, fun _ => ⟨rfl, rfl⟩⟩
  | recv =>
    obtain ⟨-, rfl⟩ := of_enabled h
    exact ⟨nofun, fun _ => ⟨rfl, rfl⟩⟩
  | epollEnter =>
    cases h
    exact ⟨nofun, fun _ => ⟨rfl, rfl⟩⟩
  | writePartnerUp up | writeCallback isSet =>
    cases h
    exact ⟨fun _ => ⟨rfl, rfl, rfl, fun h => h⟩, nofun⟩
  | abort => exact nomatch r
  | _ =>
    cases h
    exact ⟨fun _ => ⟨rfl, rfl, rfl, fun h => h⟩, fun _ => ⟨rfl, rfl⟩⟩

/-! ## The service -/

/-- What happens outside the threads of the HAL. -/
inductive EnvEvent where
  | uevent (packet : Option (List Char))
  | deliverSignal
  | pullup (udc : Option String)
deriving DecidableEq, Repr

def env (s : Shared) : EnvEvent → Option Shared
  | .uevent packet => some { s with packets := s.packets ++ [packet] }
  | .deliverSignal =>
    if s.signal ∧ s.alive then
      some { s with signal := false, destroyThread := true, interrupted := s.inEpoll }
    else none
  | .pullup udc => some { s with udc }

def go : Thread → Next → Turn → Shared → Option (Hal Next × Shared)
  | .binder, .ready, .serve call, s =>
    some (call.program, { s with dataDisabled := s.dataDisabled && !call.enables })
  | .binder, .waitAgain portName role id, .waitAgain, s => some (waitAgain portName role id, s)
  | .worker, .gone, .start, s =>
    if s.created then some (work, { s with created := false, alive := true }) else none
  | .worker, .loop, .loop, s => some (workTurn, s)
  | _, _, _, _ => none

/-- What a thread may take up: the binder thread a call or its wait, the worker its loop. -/
inductive Goes (s : Shared) : Thread → Next → Turn → Hal Next → Shared → Prop where
  | serve (call : Call) :
    Goes s .binder .ready (.serve call) call.program
      { s with dataDisabled := s.dataDisabled && !call.enables }
  | waitAgain (portName : String) (role : PortRole) (id : ℤ) :
    Goes s .binder (.waitAgain portName role id) .waitAgain (Usb.waitAgain portName role id) s
  | start :
    s.created = true →
    Goes s .worker .gone .start work { s with created := false, alive := true }
  | loop : Goes s .worker .loop .loop workTurn s

/-- Whatever a thread goes on to is one of the cases of `Goes`. -/
lemma goes_of_go {t : Thread} {l : Next} {x : Turn} {s s' : Shared} {p : Hal Next}
    (h : go t l x s = some (p, s')) : Goes s t l x p s' := by
  cases t with
  | binder =>
    cases l with
    | ready =>
      cases x with
      | serve call =>
        cases h
        exact .serve call
      | _ => cases h
    | waitAgain portName role id =>
      cases x with
      | waitAgain =>
        cases h
        exact .waitAgain portName role id
      | _ => cases h
    | loop => cases h
    | gone => cases h
  | worker =>
    cases l with
    | gone =>
      cases x with
      | start =>
        obtain ⟨created, e⟩ := Option.ite_none_right_eq_some.mp h
        cases e
        exact .start created
      | _ => cases h
    | loop =>
      cases x with
      | loop =>
        cases h
        exact .loop
      | _ => cases h
    | ready => cases h
    | waitAgain portName role id => cases h

/-- Going on to the next program leaves `mPartnerUp` and the callback alone. -/
lemma sameFlags_go {t : Thread} {l : Next} {x : Turn} {s s' : Shared} {p : Hal Next}
    (h : go t l x s = some (p, s')) : SameFlags s s' := by
  cases goes_of_go h with
  | serve call => exact ⟨rfl, rfl⟩
  | waitAgain portName role id => exact ⟨rfl, rfl⟩
  | start created => exact ⟨rfl, rfl⟩
  | loop => exact ⟨rfl, rfl⟩

/-- So does the kernel. -/
lemma sameFlags_env {s s' : Shared} {e : EnvEvent} (h : env s e = some s') : SameFlags s s' := by
  cases e with
  | uevent packet =>
    cases h
    exact ⟨rfl, rfl⟩
  | deliverSignal =>
    obtain ⟨-, rfl⟩ := of_enabled h
    exact ⟨rfl, rfl⟩
  | pullup udc =>
    cases h
    exact ⟨rfl, rfl⟩

/-- The threads of the USB service. -/
def service : Machine sig Thread Next Turn EnvEvent Shared where
  act := act
  go := go
  env e s := env s e

/-- The service at its start: no call is served and there is no worker. -/
def service.start (udc : Option String) : Config sig Thread Next Shared where
  shared := { udc }
  prog
    | .binder => .ret .ready
    | .worker => .ret .gone

end Redfin.Usb
