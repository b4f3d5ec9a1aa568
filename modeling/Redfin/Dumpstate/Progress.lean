import Redfin.Dumpstate.Restored
import Redfin.Program.Schedule
import Redfin.Program.Triples

/-!
# A request is not held up

The binder thread waits for the thread for the modem, which it has created at most once
(`owns_spawned`). As long as a request is not answered, one of the two can go on
(`request_progresses`).
-/

namespace Redfin.Dumpstate.Service

open Function Program Bytes

/-! ## One thread is created at most -/

/-- Not an operation on a thread. -/
def Op.Local : Op → Prop
  | .pthreadCreate _ => False
  | .pthreadJoin => False
  | .pthreadExit => False
  | _ => True

/-- A section of the report touches nothing that the threads share. -/
lemma local_dump (fd : ℤ) (s : Section) : (s.dump fd).All Op.Local := by
  cases s with
  | command title args => exact ⟨trivial, fun _ => trivial⟩
  | file title path => exact ⟨trivial, fun _ => trivial⟩

/-- A list of sections touches nothing that the threads share. -/
lemma local_dumpSections (fd : ℤ) (sections : List Section) :
    (dumpSections fd sections).All Op.Local := by
  induction sections with
  | nil => exact trivial
  | cons s sections ih => exact (local_dump fd s).bind fun _ => ih

/-- The dump of the touch panel touches nothing that the threads share. -/
lemma local_dumpTouch (fd : ℤ) : (dumpTouch fd).All Op.Local := by
  refine ⟨trivial, fun readable => ?_⟩
  cases readable with
  | false => exact trivial
  | true =>
    apply (local_dump fd _).bind
    intro _
    apply (local_dump fd _).bind
    intro _
    apply (local_dumpSections fd _).bind
    intro _
    exact (local_dump fd _).bind fun _ => local_dump fd _

/-- Dumping a file that may be missing touches nothing that the threads share. -/
lemma local_dumpIfReadable (fd : ℤ) (title : String) (path : Path) :
    (dumpIfReadable fd title path).All Op.Local := by
  refine ⟨trivial, fun readable => ?_⟩
  cases readable with
  | false => exact trivial
  | true => exact ⟨trivial, fun _ => trivial⟩

/-- The dump without the modem touches nothing that the threads share. -/
lemma local_dumpAll (fd : ℤ) : (dumpAll fd).All Op.Local := by
  apply (local_dumpSections fd firstSections).bind
  intro _
  apply (local_dumpTouch fd).bind
  intro _
  apply (local_dumpSections fd displaySections).bind
  intro _
  apply (local_dumpSections fd f2fsSections).bind
  intro _
  apply (local_dumpSections fd ufsSections).bind
  intro _
  apply ((local_dumpIfReadable fd _ _).bind fun _ => local_dumpIfReadable fd _ _).bind
  intro _
  apply (local_dumpSections fd powerSections).bind
  refine fun _ => ⟨trivial, fun user => ?_⟩
  cases user with
  | false => exact (local_dumpSections fd _).bind fun _ => local_dumpSections fd _
  | true => exact local_dumpSections fd _

/-- The thread for the modem has been created. -/
def spawned (s : Shared) : Bool := s.modem ≠ .absent

/-- A thread is created only if there has been none, and joined only if there has been one. -/
def once : Effects sig Bool where
  safe
    | .pthreadCreate _, created => created = false
    | .pthreadJoin, created => created = true
    | _, _ => True
  act
    | .pthreadCreate _, ok, created => some (created || ok)
    | .pthreadExit, _, _ => some true
    | _, _, created => some created

/-- A local operation neither starts nor joins the thread. -/
lemma keeps_of_local {o : Op} (h : o.Local) (created : Bool) : once.Keeps created o := by
  cases o with
  | pthreadCreate fdModem => exact h.elim
  | pthreadJoin => exact h.elim
  | pthreadExit => exact h.elim
  | _ => exact ⟨trivial, fun _ _ e => (Option.some.inj e).symm⟩

/-- Where the binder thread may serve another call, it has created none. -/
def restsOnce (l : Next) (created : Bool) : Prop := l = .ready → created = false

/-- A handle that can be joined has been made by a start. -/
lemma wp_startModemThread (rest : List ℤ) :
    (startModemThread rest).Wp once false fun handle created =>
      handle = true → created = true := by
  refine ⟨trivial, fun enabled created e => ?_⟩
  cases e
  show Prog.Wp once (if enabled = true then _ else _) false _
  split
  · cases rest with
    | nil => exact Bool.noConfusion
    | cons fdModem rest =>
      refine ⟨rfl, fun handle created e => ?_⟩
      cases e
      exact id
  · exact Bool.noConfusion

/-- `dumpstateBoard` starts the thread at most once and joins only what it has started. -/
lemma wp_dumpBoard (fd : ℤ) (rest : List ℤ) :
    (dumpBoard fd rest).Wp once false fun _ _ => True := by
  refine ⟨trivial, fun _ created e => ?_⟩
  cases e
  apply (wp_startModemThread rest).bind
  intro handle created h
  have all := (local_dumpAll fd).mono fun o h => keeps_of_local h created
  apply all.wp_bind
  intro _
  cases handle with
  | false => exact trivial
  | true => exact ⟨h rfl, fun _ _ _ => trivial⟩

/-- The request of the later interface keeps the same rule. -/
lemma wp_dumpstateBoard_1_1 (handle : Handle) (mode : DumpstateMode) :
    (dumpstateBoard_1_1 handle mode).Wp once false fun _ _ => True := by
  refine ⟨trivial, fun _ created e => ?_⟩
  cases e
  rcases handle with _ | _ | ⟨fd, rest⟩
  · exact trivial
  · exact trivial
  · show Prog.Wp once (if fd < 0 then _ else _) _ _
    split
    · exact trivial
    · split
      · exact trivial
      · split
        · exact trivial
        · exact (wp_dumpBoard fd rest).bind fun _ _ _ => trivial

/-- Every call of the service keeps the same rule. -/
lemma wp_program (c : Call) : c.program.Wp once false restsOnce := by
  cases c with
  | dumpstateBoard handle =>
    have board : (dumpstateBoard handle).Wp once false fun _ _ => True :=
      (wp_dumpstateBoard_1_1 handle .default).bind fun _ _ _ => trivial
    exact board.bind fun _ _ _ e => Next.noConfusion e
  | dumpstateBoard_1_1 handle mode =>
    exact (wp_dumpstateBoard_1_1 handle mode).bind fun _ _ _ e => Next.noConfusion e
  | setVerboseLoggingEnabled enable =>
    refine ⟨trivial, fun _ created e => ?_⟩
    cases e
    exact fun _ => rfl
  | getVerboseLoggingEnabled =>
    refine ⟨trivial, fun _ created e => ?_⟩
    cases e
    exact fun _ => rfl

/-- The rule over whole runs: the board thread owns the start of the modem thread. -/
theorem owns_spawned (io : Io) (dev : Device) :
    (service io dev).Owns (fun _ _ => True) .board spawned once restsOnce where
  act {o r s s'} _ st := by
    have after := modem_after st
    cases o with
    | pthreadCreate fdModem =>
      cases r with
      | false => simp [once, spawned, after, Modem.after]
      | true => simp [once, spawned, after, Modem.after]
    | pthreadExit => simp [once, spawned, after, Modem.after]
    | _ => simp [once, spawned, after, Modem.after]
  other {t o r s s'} ne st := by
    cases t with
    | board => exact absurd rfl ne
    | modem =>
      obtain ⟨running, st⟩ := Option.ite_none_right_eq_some.mp st
      have after : s'.modem = s.modem.after o r :=
        modem_after (s := { s with files := s.files.act io dev o r }) st
      cases o with
      | pthreadCreate fdModem =>
        cases r with
        | false => simp [spawned, after, Modem.after]
        | true => simp [spawned, after, Modem.after, running]
      | pthreadExit => simp [spawned, after, Modem.after, running]
      | _ => simp [spawned, after, Modem.after]
  go _ st h := by
    cases goes_of_go st with
    | serve c =>
      rw [h rfl]
      exact wp_program c
  goOther ne st := by
    cases goes_of_go st with
    | serve c => exact absurd rfl ne
    | start fdModem created => simp [spawned, created]
  env st := by
    cases st
    rfl

/-! ## The thread for the modem -/

/-- The end of the thread for the modem. -/
def modemExit (fdModem : ℤ) : Hal Next := do
  call .pthreadExit
  return .finished fdModem

/-- The thread for the modem waits to be started, or is on its way to its end. -/
inductive Working : Modem → Hal Next → Prop where
  | absent : Working .absent (.ret .absent)
  | created (fdModem : ℤ) : Working (.created fdModem) (.ret .absent)
  | running (p : Hal Unit) (fdModem : ℤ) : Working .running (p >>= fun _ => modemExit fdModem)
  | ended (p : Hal Next) : Working .ended p

/-- An operation of the binder thread. -/
lemma Working.act_board {m : Modem} {p : Hal Next} (h : Working m p) {o : Op} (r : o.Res)
    (safe : once.safe o (m ≠ .absent : Bool)) : Working (m.after o r) p := by
  cases o with
  | pthreadCreate fdModem =>
    cases r with
    | false => exact h
    | true =>
      have absent : m = .absent := by
        simpa using (show decide (m ≠ .absent) = false from safe)
      subst absent
      cases h
      exact .created fdModem
  | pthreadExit => exact .ended p
  | _ => exact h

/-- An operation of the thread itself. -/
lemma Working.act_modem {o : Op} {k : sig.Res o → Hal Next} (r : sig.Res o)
    (h : Working .running (.op o k)) (never : ∀ fdModem, o ≠ .pthreadCreate fdModem) :
    Working (Modem.running.after o r) (k r) := by
  generalize e : (Prog.op o k : Hal Next) = p at h
  cases h with
  | running p fdModem =>
    cases p with
    | ret a =>
      cases e
      exact .ended _
    | op o' k' =>
      cases e
      cases o with
      | pthreadCreate fdModem => exact absurd rfl (never fdModem)
      | pthreadExit => exact .ended _
      | _ => exact .running (k' r) fdModem

/-- A program that is only created has not begun its work. -/
lemma Working.starts {fdModem : ℤ} {p : Hal Next} (h : Working (.created fdModem) p) :
    p = .ret .absent := by
  cases h
  rfl

/-- The thread runs until it has exited. -/
lemma Working.runs {p : Hal Next} (h : Working .running p) :
    ∃ (o : Op) (k : sig.Res o → Hal Next), p = .op o k := by
  cases h with
  | running p fdModem =>
    cases p with
    | ret a => exact ⟨.pthreadExit, _, rfl⟩
    | op o k => exact ⟨o, _, rfl⟩

/-- What the threads hold in a state of a run. -/
lemma held {io : Io} {dev : Device} {props : String → List UInt8} {left : Leftovers}
    {c : Config sig Thread Next Shared} (run : (service io dev).Reach (service.start props left) c) :
    ∃ q, Restoring c.shared q ∧
      Machine.Tracks (fun t => (mark t).protocol) (fun _ _ => ∅) c q := by
  have start : Machine.Tracks (fun t => (mark t).protocol) (fun _ _ => ∅)
      (service.start props left) fun _ => ∅ :=
    fun _ => rfl
  exact Machine.Run.invariant (service_balanced io dev) (fun _ _ _ _ _ h _ st => h.step st)
    ⟨fun _ => .inl rfl, fun _ => rfl⟩ start run

/-- What is left of the binder thread's program. -/
lemma spawns {io : Io} {dev : Device} {props : String → List UInt8} {left : Leftovers}
    {c : Config sig Thread Next Shared} (run : (service io dev).Reach (service.start props left) c) :
    (c.prog .board).Wp once (spawned c.shared) restsOnce := by
  apply run.wp (owns_spawned io dev)
  exact fun _ => rfl

/-- In every state of a run the thread for the modem waits or works. -/
lemma working {io : Io} {dev : Device} {props : String → List UInt8} {left : Leftovers}
    {c : Config sig Thread Next Shared} (run : (service io dev).Reach (service.start props left) c) :
    Working c.shared.modem (c.prog .modem) := by
  induction run with
  | refl => exact .absent
  | @tail c c' l run _ st ih =>
    cases l with
    | act t o r =>
      obtain ⟨k, s, e, hs, rfl⟩ := Machine.step_act st
      cases t with
      | board =>
        have safe := spawns run
        have after : s.modem = c.shared.modem.after o r := modem_after hs
        rw [e] at safe
        simpa [after] using ih.act_board r safe.1
      | modem =>
        obtain ⟨running, hs⟩ := Option.ite_none_right_eq_some.mp hs
        have after : s.modem = c.shared.modem.after o r :=
          modem_after (s := { c.shared with files := c.shared.files.act io dev o r }) hs
        obtain ⟨q, _, tracks⟩ := held run
        have never (fdModem : ℤ) : o ≠ .pthreadCreate fdModem := by
          rintro rfl
          exact tracks.ok e true
        rw [e, running] at ih
        simpa [after, running] using ih.act_modem r never
    | go t x =>
      obtain ⟨l, p, s, e, hs, rfl⟩ := Machine.step_go st
      cases goes_of_go hs with
      | serve call => simpa using ih
      | start fdModem _ => simpa using .running (dumpModemThread fdModem) fdModem
    | env x =>
      obtain ⟨s, hs, rfl⟩ := Machine.step_env st
      cases hs
      exact ih

/-! ## Progress -/

/-- As long as the binder thread serves a call, it can go on, or the thread for the modem can. -/
theorem request_progresses {io : Io} {dev : Device} {props : String → List UInt8}
    {left : Leftovers} {c : Config sig Thread Next Shared}
    (run : (service io dev).Reach (service.start props left) c)
    (serving : ∀ l, c.prog .board ≠ .ret l) :
    (∃ t o r c', (service io dev).step c (.act t o r) = some c') ∨
      ∃ c', (service io dev).step c (.go .modem .start) = some c' := by
  have step {t : Thread} {o : Op} {k : sig.Res o → Hal Next} {r : sig.Res o} {s : Shared}
      (e : c.prog t = .op o k) (h : (service io dev).act t o r c.shared = some s) :
      ∃ t o r c', (service io dev).step c (.act t o r) = some c' :=
    ⟨t, o, r, _, Machine.step_of_act e h⟩
  cases e : c.prog .board with
  | ret l => exact absurd e (serving l)
  | op o k =>
    by_cases joins : o = .pthreadJoin
    · subst joins
      have created := spawns run
      rw [e] at created
      have works := working run
      cases modem : c.shared.modem with
      | absent =>
        have none : spawned c.shared = false := by
          simp [spawned, modem]
        exact Bool.noConfusion (none.symm.trans created.1)
      | created fdModem =>
        rw [modem] at works
        have starts : (service io dev).go .modem .absent .start c.shared =
            some (modemMain fdModem, { c.shared with modem := .running }) := by
          simp [service, go, modem]
        exact .inr ⟨_, Machine.step_of_go works.starts starts⟩
      | running =>
        rw [modem] at works
        obtain ⟨o, k', e'⟩ := works.runs
        obtain ⟨q, _, tracks⟩ := held run
        have never : o ≠ .pthreadJoin := by
          rintro rfl
          exact tracks.ok e' ()
        let files := c.shared.files.act io dev o (answer dev c.shared.props o)
        obtain ⟨s, h⟩ := act_answer dev never { c.shared with files }
        exact .inl (step e' ((if_pos modem).trans h))
      | ended => exact .inl (step e (r := ()) (if_pos modem))
    · obtain ⟨s, h⟩ := act_answer dev joins c.shared
      exact .inl (step e h)

/-- The binder thread waits for a thread that has not started yet. -/
theorem request_progresses_waiting :
    ∃ c : Config sig Thread Next Shared,
      (c.prog .board).head? = some .pthreadJoin ∧ c.shared.modem = .created 4 ∧
        ((∃ t o r c', (service .bytewise debugBuild).step c (.act t o r) = some c') ∨
          ∃ c', (service .bytewise debugBuild).step c (.go .modem .start) = some c') := by
  have follows : ((service .bytewise debugBuild).follow
      (fun _ _ => True) (fun o s => answer debugBuild s.props o)
      [.go .board (.serve (.dumpstateBoard_1_1 (some [3, 4]) .default)), .act .board 108]
      (service.start loggingProps .clean)).map
      (fun c => ((c.prog .board).head?, c.shared.modem)) =
      some (some .pthreadJoin, .created 4) := by
    decide +kernel
  obtain ⟨c, run, e⟩ := Machine.exists_follow follows
  obtain ⟨joins, created⟩ := Prod.mk.inj e
  refine ⟨c, joins, created, request_progresses run ?_⟩
  intro l rests
  rw [rests] at joins
  cases joins

end Redfin.Dumpstate.Service
