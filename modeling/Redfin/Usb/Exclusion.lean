import Redfin.Usb.Deadlock
import Redfin.Usb.Noted

/-!
# A role switch is left alone

While `switchRole` runs, up to the telling of its result, the worker writes no node: it would need
`mRoleSwitchLock`. And while `switchMode` waits for the partner, the worker can take every lock it
asks for: of the three the binder thread then holds `mRoleSwitchLock` only, which the worker tries.
-/

set_option linter.unusedSectionVars false

namespace Redfin.Usb

open Function Program

section

variable [Libbase]

/-- The operation opens, writes or closes a node for writing. -/
def Op.writesNode : Op → Bool
  | .fopen _ | .fputs _ _ | .fclose _ | .writeFile _ _ => true
  | _ => false

/-- The worker writes a node only with `mRoleSwitchLock`. -/
lemma WorkerOk.hasRole {q : Stage} {o : Op} (ok : WorkerOk q o) (ho : o.writesNode = true) :
    q.hasRole = true := by
  cases ok with
  | quiet h =>
    cases o with
    | fopen path => cases h
    | fputs path content => cases h
    | fclose path => cases h
    | writeFile path content => cases h
    | _ => cases ho
  | role => exact rfl
  | leave => exact rfl
  | _ => cases ho

/-- A switch is within the time of `mRoleSwitchLock`. -/
lemma hasRole_of_inSwitch {q : Stage} (h : q.inSwitch = true) : q.hasRole = true := by
  cases q with
  | idle | tested | polling | partner => cases h
  | _ => exact rfl

/-- The wake-up comes in the wait. -/
lemma BinderOk.waiting {q : Stage} (ok : BinderOk q .condWake) : ∃ node, q = .waiting node := by
  cases ok with
  | idle h => cases h
  | file h => cases h
  | wake => exact ⟨_, rfl⟩

/-- In every run, the worker writes nothing from the moment `switchRole` has `mRoleSwitchLock` to
the moment its result is told, and is not blocked while `switchMode` waits. -/
theorem switch_undisturbed {udc : Option String} {c : Config sig Thread Next (Shared × History)}
    (run : observed.Reach (observed.start udc) c) :
    (c.shared.2.switching = true →
      ∀ o, (c.prog .worker).head? = some o → o.writesNode = false) ∧
    ((c.prog .binder).head? = some .condWake →
      ∀ m, (c.prog .worker).head? = some (.lock m) → c.shared.1.holder m = none) := by
  obtain ⟨q, inv, noted, tr⟩ := observed_invariant (I := fun x q => Noted (q .binder) x.2)
    noted_start (fun _ _ _ _ _ _ inv n _ st => noted_step inv n st) run
  constructor
  · intro switching o ho
    refine Bool.eq_false_iff.mpr fun writes => ?_
    have binder := hasRole_of_inSwitch (noted.switching switching)
    have worker := WorkerOk.hasRole (tr.ok ho).2 writes
    exact nomatch inv.role_unique binder worker
  · intro wait m hm
    obtain ⟨node, waiting⟩ := BinderOk.waiting (tr.ok wait).2
    have role : (q .binder).1 = .role := by
      have fits := inv.fits .binder
      rw [waiting] at fits
      exact fits
    obtain ⟨empty, -, other⟩ := mayLock_worker (tr.ok hm).1
    cases holder : c.shared.1.holder m with
    | none => rfl
    | some t =>
      have held : m ∈ (q t).1.held := (inv.locks.holds m t).mp holder
      cases t with
      | binder =>
        rw [role] at held
        exact absurd (Finset.mem_singleton.mp held) other
      | worker =>
        rw [empty] at held
        exact absurd held (Finset.notMem_empty m)

/-- A schedule: `switchMode` writes the port type of the node and waits for the partner. -/
def waitSchedule (portName : String) : List Step :=
  let node := appendRoleNodeHelper portName .mode
  [.go .binder (.serve (.switchRole portName (.mode .dfp) 1)),
    .act .binder (.lock .mRoleSwitchLock) (), .act .binder (.fopen node) true,
    .act .binder (.lock .mPartnerLock) (), .act .binder (.writePartnerUp false) (),
    .act .binder (.fputs node "source") true, .act .binder (.fclose node) true,
    .go .binder .waitAgain, .act .binder .condRelease ()]

/-- A schedule: a message is sent and received by the worker. -/
def messageSchedule (msg : String) : List Step :=
  [.env (.uevent (some msg.toList)), .act .worker .epollReturn .ready,
    .act .worker .recv (some msg.toList)]

end

open Libbase.Documented in
/-- A switch waits for its partner, and the worker is about to take the free partner lock. -/
theorem switch_undisturbed_waiting :
    ∃ c, observed.Reach (observed.start none) c ∧ c.shared.2.switching = true ∧
      (c.prog .binder).head? = some .condWake ∧
      (c.prog .worker).head? = some (.lock .mPartnerLock) ∧
      c.shared.1.holder .mPartnerLock = none := by
  have h : (observed.play (fun _ _ => True) (watchSchedule ++ waitSchedule "port0" ++
      messageSchedule "add@/class/typec/port0/port0-partner\x00") (observed.start none)).map
      (fun c => (c.shared.2.switching, (c.prog .binder).head?, (c.prog .worker).head?)) =
        some (true, some .condWake, some (.lock .mPartnerLock)) := by decide +kernel
  obtain ⟨c, run, hc⟩ := observed.exists_run h
  simp only [Prod.mk.injEq] at hc
  obtain ⟨switching, wait, lock⟩ := hc
  exact ⟨c, run, switching, wait, lock, (switch_undisturbed run).2 wait _ lock⟩

end Redfin.Usb
