import Redfin.Usb.Exclusion

/-!
# A recorded partner

`switchMode` decides by the return code of its wait first and looks at `mPartnerUp` only if the wait
has not timed out. A partner that the worker records between the expiry of the wait and the moment
the binder thread has `mPartnerLock` again is lost: the port is switched back. Where no wait times
out with the partner already recorded, none is lost (`partner_not_lost`): with the mutex back the
binder thread finds the partner, decides that the mode was switched, and tells it.
-/

set_option linter.unusedSectionVars false

namespace Redfin.Usb

open Function Program

section

variable [Libbase]

/-- The condition on the steps of a run: when the binder thread has `mPartnerLock` back after a wait
that has timed out, `mPartnerUp` is not set. -/
def NoLateExpiry (x : Shared × History) : Step → Prop
  | .act .binder (.lock .mPartnerLock) _ => x.2.expired = true → x.1.partnerUp = false
  | _ => True

instance (x : Shared × History) (l : Step) : Decidable (NoLateExpiry x l) := by
  unfold NoLateExpiry
  split <;> infer_instance

/-- With a recorded partner, what the stage says of `mPartnerUp` and the decision. -/
def Stage.Keeps : Stage → Bool → Prop
  | .waiting _, isUp => isUp = true
  | .woken _ _, isUp => isUp = true
  | .relocked _ timedOut, isUp => isUp = true ∧ timedOut = false
  | .up _, _ => True
  | .switching _ decision, _ => decision = some true
  | .announcing _ decision, _ => decision = some true
  | .told, _ => True
  | _, _ => False

/-- A partner recorded in the window is kept. -/
lemma Stage.Keeps.of_window {b : Stage} (window : b.inWindow = true)
    (apart : b.hasPartner = false) : b.Keeps true := by
  cases b with
  | waiting node => exact rfl
  | woken node timedOut => exact rfl
  | written node | relocked node timedOut | up node => cases apart
  | _ => cases window

/-- A recorded partner is kept up to the decision and through it. -/
structure RecordInv (x : Shared × History) (b : Stage) : Prop where
  keeps : x.2.recorded = true → b.Keeps x.1.partnerUp
  lost : x.2.lost = false

section

variable {b : Stage} {o : Op} {s s' : Shared} {h : History}

/-- What is kept stays kept when `mPartnerUp` is set. -/
lemma Stage.Keeps.up {up : Bool} (k : b.Keeps up) : b.Keeps true := by
  cases b with
  | relocked node timedOut => exact ⟨rfl, k.2⟩
  | waiting | woken => exact rfl
  | _ => exact k

/-- What an operation of the binder thread preserves; the guard is needed where it takes
`mPartnerLock` again. -/
lemma recordInv_binder {r : o.Res} (ok : BinderOk b o) (n : Noted b h)
    (holds : s.holder .mPartnerLock = some .binder ↔ b.hasPartner = true)
    (g : NoLateExpiry (s, h) (.act .binder o r)) (st : act .binder o r s = some s')
    (inv : RecordInv (s, h) b) : RecordInv (s', h.noteBinder s o r) (b.next o r) := by
  obtain ⟨keeps, lost⟩ := inv
  have flags := (frame_act st).flags
  cases ok with
  | idle ho =>
    obtain ⟨isSet, e⟩ := noteBinder_ordinary (r := r) (s := s) (h := h) ho
    rw [e]
    refine ⟨fun hr => ?_, lost⟩
    cases (n.recorded rfl).symm.trans hr
  | enter => exact ⟨fun hr => (keeps hr).elim, lost⟩
  | @fopen _ decision path undecided =>
    have fresh : h.recorded = false := by
      refine Bool.eq_false_iff.mpr fun hr => ?_
      obtain ⟨failed, -⟩ := undecided true (keeps hr)
      cases failed
    refine ⟨fun hr => ?_, ?_⟩
    · cases fresh.symm.trans hr
    · show (h.lost || h.recorded) = false
      rw [fresh, Bool.or_false]
      exact lost
  | file ho =>
    rw [next_of_usesFile ho, noteBinder_usesFile ho n.put (free_of_hasPartner holds rfl)]
    exact ⟨keeps, lost⟩
  | lockPartner => exact ⟨fun hr => (nomatch keeps hr), lost⟩
  | clear => exact ⟨fun hr => (keeps hr).elim, lost⟩
  | fputs => exact ⟨fun hr => (keeps hr).elim, lost⟩
  | close =>
    obtain ⟨recorded, same, -⟩ := h.write_frame s
    exact ⟨fun hr => (keeps (recorded.symm.trans hr)).elim, same.trans lost⟩
  | closeFailed =>
    have same : h.noteBinder s (.fclose _) r = h := History.write_of_not_put n.put s
    rw [same]
    exact ⟨fun hr => (keeps hr).elim, lost⟩
  | unlockFailed => exact ⟨fun hr => (keeps hr).elim, lost⟩
  | release => exact ⟨fun hr => (keeps hr).elim, lost⟩
  | wake => exact ⟨fun hr => (flags rfl).partnerUp ▸ keeps hr, lost⟩
  | @relock node timedOut =>
    refine ⟨fun hr => ?_, lost⟩
    have up : s.partnerUp = true := keeps hr
    refine ⟨(flags rfl).partnerUp.trans up, ?_⟩
    -- a wait that has timed out would find the partner recorded
    cases timedOut with
    | false => rfl
    | true => exact up.symm.trans (g (n.expired true rfl))
  | unlockExpired => exact ⟨fun hr => (nomatch (keeps hr).2), lost⟩
  | read =>
    obtain ⟨isUp, rfl⟩ := of_enabled st
    cases r with
    | true => exact ⟨fun _ => trivial, lost⟩
    | false =>
      -- the recorded partner is still up
      refine ⟨fun hr => ?_, lost⟩
      have up : s.partnerUp = true := (keeps hr).1
      cases isUp.trans up
  | unlockUp => exact ⟨fun _ => rfl, lost⟩
  | lock => exact ⟨keeps, lost⟩
  | readCallback =>
    cases r with
    | true => exact ⟨keeps, lost⟩
    | false => exact ⟨fun _ => trivial, lost⟩
  | @notify _ decision portName role status id announces =>
    refine ⟨fun _ => trivial, ?_⟩
    show (h.lost || h.recorded && decide (status = .error)) = false
    rw [lost, Bool.false_or]
    refine Bool.eq_false_iff.mpr fun e => ?_
    obtain ⟨hr, failed⟩ := Bool.and_eq_true_iff.mp e
    obtain rfl : decision = some true := keeps hr
    cases announces.1.symm.trans (of_decide_eq_true failed)
  | unlock => exact ⟨fun _ => trivial, lost⟩
  | leave => exact ⟨nofun, lost⟩

/-- The worker records a partner only where the binder thread has given up `mPartnerLock`. -/
lemma recordInv_worker {w : Stage} {r : o.Res} (ok : WorkerOk w o) (n : Noted b h)
    (apart : w.hasPartner = true → b.hasPartner = false) (st : act .worker o r s = some s')
    (inv : RecordInv (s, h) b) : RecordInv (s', h.noteWorker o r) b := by
  obtain ⟨keeps, lost⟩ := inv
  rcases ok.assigns with ⟨rfl, rfl⟩ | ho
  · cases st
    refine ⟨fun hr => ?_, lost⟩
    rcases (Bool.or_eq_true _ _).mp hr with hr | window
    · exact (keeps hr).up
    · exact .of_window (n.window ▸ window) (apart rfl)
  · obtain ⟨todo, fresh, stale, tested, e⟩ := noteWorker_of_not_assigns (h := h) (r := r) ho
    rw [e]
    exact ⟨fun hr => ((frame_act st).flags ho).partnerUp ▸ keeps hr, lost⟩

/-- Every step but a late expiry keeps the invariant. -/
lemma recordInv_step {q q' : Thread → Phase × Stage} {l : Step} (sinv : StageInv s q)
    (n : Noted (q .binder).2 h) (inv : RecordInv (s, h) (q .binder).2)
    (g : NoLateExpiry (s, h) l) (st : service.PStep both bothRest s q l s' q') :
    RecordInv (s', h.note s l) (q' .binder).2 := by
  cases st with
  | @act t o r s' ok st =>
    cases t with
    | binder => exact recordInv_binder ok.2 n (sinv.partner_holder .binder) g st inv
    | worker => exact recordInv_worker ok.2 n sinv.apart st inv
  | go _ st =>
    have same : SameFlags s s' := sameFlags_go st
    exact ⟨fun hr => same.partnerUp ▸ inv.keeps hr, inv.lost⟩
  | env st =>
    have same : SameFlags s s' := sameFlags_env st
    exact ⟨fun hr => same.partnerUp ▸ inv.keeps hr, inv.lost⟩

end

/-! ## What the binder thread goes on to -/

/-- The operation neither opens nor fills a file, and tells of no role switch that has failed. -/
def Op.settled : Op → Prop
  | .fopen _ | .fputs _ _ => False
  | .notify (.roleSwitchStatus _ _ status _) => status = .success
  | _ => True

/-- The results of a wait that has not timed out and finds the partner. -/
def Woken : (o : Op) → o.Res → Prop
  | .condWake, timedOut => timedOut = false
  | .readPartnerUp, isUp => isUp = true
  | _, _ => True

/-- What is left of a role switch ends it, with the partner found: it comes to the release of
`mRoleSwitchLock`, puts nothing into a node before that and tells of no failure. -/
abbrev Succeeds (p : Hal Next) : Prop :=
  p.Reaches Op.settled Woken fun o : Op => o = .unlock .mRoleSwitchLock

/-- The stages on the way of a switch that finds its partner. -/
def Stage.finds : Stage → Prop
  | .waiting _ | .up _ | .told => True
  | .woken _ timedOut | .relocked _ timedOut => timedOut = false
  | .switching _ decision | .announcing _ decision => decision = some true
  | _ => False

/-- A recorded partner is found, unless the wait has timed out and the mutex is not back yet. -/
lemma Stage.Keeps.finds {b : Stage} {up : Bool} (k : b.Keeps up)
    (back : ∀ node timedOut, b = .woken node timedOut → timedOut = false) : b.finds := by
  cases b with
  | waiting | up | told => exact trivial
  | woken node timedOut => exact back node timedOut rfl
  | relocked => exact k.2
  | switching | announcing => exact k
  | _ => exact k.elim

/-- The way is kept to, up to the end of the switch. -/
lemma Stage.finds.step {q : Stage} {o : Op} (h : q.finds) (ok : BinderOk q o) :
    o = .unlock .mRoleSwitchLock ∨ o.settled ∧ ∀ r, Woken o r → (q.next o r).finds := by
  cases ok with
  | idle | enter | clear | fputs | close | closeFailed | unlockFailed | release => exact h.elim
  | fopen undecided => exact Bool.noConfusion (undecided true h).1
  | file _ failed => exact absurd h failed
  | lockPartner => cases h
  | wake => exact .inr ⟨trivial, fun _ expected => expected⟩
  | relock => exact .inr ⟨trivial, fun _ _ => h⟩
  | unlockExpired => cases h
  | read =>
    refine .inr ⟨trivial, fun isUp expected => ?_⟩
    obtain rfl : isUp = true := expected
    exact trivial
  | unlockUp => exact .inr ⟨trivial, fun _ _ => rfl⟩
  | lock => exact .inr ⟨trivial, fun _ _ => h⟩
  | readCallback =>
    refine .inr ⟨trivial, fun isSet _ => ?_⟩
    cases isSet with
    | true => exact h
    | false => exact trivial
  | notify announces =>
    obtain rfl := h
    exact .inr ⟨announces.1, fun _ _ => trivial⟩
  | unlock => exact .inr ⟨trivial, fun _ _ => trivial⟩
  | leave => exact .inl rfl

/-- A binder thread on that way ends the switch so. -/
lemma Stage.finds.succeeds {q : Phase × Stage} {p : Hal Next} (h : q.2.finds)
    (follows : p.Follows (both .binder) q fun l q' => q' = bothRest .binder l) : Succeeds p := by
  refine follows.reaches (D := fun q => q.2.finds) (fun q o hq ok => hq.step ok.2) ?_ h
  rintro l q rfl found
  cases l with
  | waitAgain portName role id => exact found
  | _ => exact found

/-- After a wait the binder thread takes `mPartnerLock` back. -/
lemma head_of_woken {c : Config sig Thread Next (Shared × History)} {q : Thread → Phase × Stage}
    (fits : Fitting c q) {node : String} {timedOut : Bool}
    (woken : (q .binder).2 = .woken node timedOut) :
    (c.prog .binder).head? = some (.lock .mPartnerLock) := by
  have follows := fits .binder
  cases e : c.prog .binder with
  | ret l =>
    rw [e] at follows
    have rests : q .binder = bothRest .binder l := follows
    rw [rests] at woken
    cases l <;> cases woken
  | op o k =>
    have ok : BinderOk (q .binder).2 o := (fits.ok (congrArg Prog.head? e)).2
    rw [woken] at ok
    cases ok
    exact rfl

/-- Where `mPartnerUp` is read, it is decided by it: if it is set, `switchMode` returns true. -/
def ReadsDecision : (o : Op) → (o.Res → Hal Next) → Prop
  | .readPartnerUp, k => ∃ portName role id, k true = do
      call (.unlock .mPartnerLock)
      finishModeSwitch portName role id true
  | _, _ => True

/-- Every other operation reads no decision. -/
lemma readsDecision_of_ne (o : Op) (k : o.Res → Hal Next) (h : o ≠ .readPartnerUp) :
    ReadsDecision o k := by
  cases o with
  | readPartnerUp => exact absurd rfl h
  | _ => exact trivial

section

variable (portName : String) (role : PortRole) (id : ℤ)

/-- The end of a role switch does not look for the partner. -/
lemma unread_finishRoleSwitch (roleSwitch : Bool) :
    (finishRoleSwitch portName role id roleSwitch).All fun o : Op => o ≠ .readPartnerUp :=
  (all_notify nofun nofun nofun nofun).bind fun _ => ⟨nofun, fun _ => trivial⟩

/-- The end of a mode switch does not read `mPartnerUp` again. -/
lemma unread_finishModeSwitch (roleSwitch : Bool) :
    (finishModeSwitch portName role id roleSwitch).All fun o : Op => o ≠ .readPartnerUp := by
  have finish := unread_finishRoleSwitch portName role id
  cases roleSwitch with
  | true => exact finish true
  | false =>
    refine Prog.All.bind ?_ fun _ => finish false
    exact all_switchToDrp (fun _ => nofun) (fun _ _ => nofun) (fun _ => nofun) portName

/-- Nor does what comes before the wait. -/
lemma unread_switchRole :
    (switchRole portName role id).All fun o : Op => o ≠ .readPartnerUp := by
  refine ⟨nofun, fun _ => ?_⟩
  show Prog.All (S := sig) _ (if role.getTag = .mode then _ else _)
  split
  · refine ⟨nofun, fun opened => ?_⟩
    cases opened with
    | false => exact unread_finishModeSwitch portName role id false
    | true =>
      refine ⟨nofun, fun _ => ⟨nofun, fun _ => ⟨nofun, fun written => ⟨nofun, fun _ => ?_⟩⟩⟩⟩
      cases written with
      | true => exact trivial
      | false => exact ⟨nofun, fun _ => unread_finishModeSwitch portName role id false⟩
  · have write : (writeRole portName role).All fun o : Op => o ≠ .readPartnerUp :=
      all_writeRole (fun _ => nofun) (fun _ _ => nofun) (fun _ => nofun) (fun _ => nofun) portName
    exact write.bind fun _ => unread_finishRoleSwitch portName role id _

/-- The wait goes by `mPartnerUp` wherever it reads it. -/
lemma each_waitAgain : (waitAgain portName role id).Each ReadsDecision := by
  have finish (roleSwitch : Bool) :
      (do call (.unlock .mPartnerLock); finishModeSwitch portName role id roleSwitch).Each
        ReadsDecision :=
    ⟨trivial, fun _ => (unread_finishModeSwitch portName role id roleSwitch).each
      readsDecision_of_ne⟩
  refine ⟨trivial, fun _ => ⟨trivial, fun timedOut => ⟨trivial, fun _ => ?_⟩⟩⟩
  cases timedOut with
  | true => exact finish false
  | false =>
    refine ⟨⟨portName, role, id, rfl⟩, fun isUp => ?_⟩
    cases isUp with
    | true => exact finish true
    | false => exact trivial

end

/-- The programs that the binder thread takes up decide by the partner so. -/
lemma each_takes {t : Thread} {l : Next} {x : Turn} {s s' : Shared} {p : Hal Next}
    (h : service.go t l x s = some (p, s')) :
    p.Each fun o k => t = .binder → ReadsDecision o k := by
  have weaken {p : Hal Next} (each : p.Each ReadsDecision) :
      p.Each fun o k => t = .binder → ReadsDecision o k := by
    induction p with
    | ret a => exact trivial
    | op o k ih => exact ⟨fun _ => each.1, fun r => ih r (each.2 r)⟩
  cases goes_of_go h with
  | serve call =>
    apply weaken
    rcases ordinary_call call with ⟨portName, role, id, rfl⟩ | ⟨p, e, ordinary⟩
    · exact (unread_switchRole portName role id).each readsDecision_of_ne
    · rw [e]
      refine (all_serve ordinary).each fun o k ho => readsDecision_of_ne o k ?_
      rintro rfl
      cases ho
  | waitAgain portName role id => exact weaken (each_waitAgain portName role id)
  | start created => exact Prog.each_of_forall (fun _ _ => nofun) _
  | loop => exact Prog.each_of_forall (fun _ _ => nofun) _

/-- In every run what is left of the binder thread's program decides by the partner so. -/
lemma reads_decision {G : Shared × History → Step → Prop} {udc : Option String}
    {c : Config sig Thread Next (Shared × History)} {k : Bool → Hal Next}
    (run : observed.Run G (observed.start udc) c)
    (reads : c.prog .binder = .op .readPartnerUp k) :
    ReadsDecision .readPartnerUp k := by
  have each := run.each (P := fun t o k => t = .binder → ReadsDecision o k)
    (fun _ _ _ _ _ _ h => each_takes (Machine.go_record h).1)
    (fun t => by cases t <;> exact trivial) .binder
  rw [reads] at each
  exact each.1 rfl

/-- In a run in which no wait times out with the partner already up, no switch fails of which the
partner was recorded. With the mutex back the binder thread finds `mPartnerUp` set, by which
`switchMode` returns true; it comes to the end of the switch without another write; and what it
tells is the success. -/
theorem partner_not_lost {udc : Option String} {c : Config sig Thread Next (Shared × History)}
    (run : observed.Run NoLateExpiry (observed.start udc) c) :
    c.shared.2.lost = false ∧
      (c.shared.2.recorded = true →
        (((c.prog .binder).head? = some (.lock .mPartnerLock) → c.shared.2.expired = false) →
          Succeeds (c.prog .binder)) ∧
        ((c.prog .binder).head? = some .readPartnerUp →
          c.shared.1.partnerUp = true ∧ ∃ portName role id k,
            c.prog .binder = .op .readPartnerUp k ∧ k true = do
              call (.unlock .mPartnerLock)
              finishModeSwitch portName role id true) ∧
        ∀ portName role status id, (c.prog .binder).head? =
          some (.notify (.roleSwitchStatus portName role status id)) → status = .success) := by
  obtain ⟨q, -, ⟨n, inv⟩, fits⟩ := observed_invariant
    (I := fun x q => Noted (q .binder) x.2 ∧ RecordInv x (q .binder))
    ⟨noted_start, nofun, rfl⟩
    (fun _ _ _ _ _ _ sinv inv g st =>
      ⟨noted_step sinv inv.1 st, recordInv_step sinv inv.1 inv.2 g st⟩) run
  refine ⟨inv.lost, fun recorded => ?_⟩
  have keeps : (q .binder).2.Keeps c.shared.1.partnerUp := inv.keeps recorded
  have succeeds (back : (c.prog .binder).head? = some (.lock .mPartnerLock) →
      c.shared.2.expired = false) : Succeeds (c.prog .binder) := by
    refine (keeps.finds fun node timedOut woken => ?_).succeeds (fits .binder)
    have noted : c.shared.2.expired = timedOut :=
      n.expired timedOut (congrArg Stage.timedOut? woken)
    exact noted.symm.trans (back (head_of_woken fits woken))
  refine ⟨succeeds, fun reads => ?_, fun portName role status id tells => ?_⟩
  · have ok : BinderOk (q .binder).2 .readPartnerUp := (fits.ok reads).2
    obtain ⟨k, e⟩ := Prog.eq_op_of_head? reads
    obtain ⟨portName, role, id, decides⟩ := reads_decision run e
    refine ⟨?_, portName, role, id, k, e, decides⟩
    generalize (q .binder).2 = b at ok keeps
    cases ok with
    | read => exact keeps.1
    | idle ordinary => cases ordinary
    | file usesFile => cases usesFile
  · have reaches := succeeds fun locks => Op.noConfusion (Option.some.inj (tells.symm.trans locks))
    obtain ⟨k, e⟩ := Prog.eq_op_of_head? tells
    rw [e] at reaches
    rcases reaches with last | ⟨success, -⟩
    · cases last
    · exact success

/-- A schedule: the worker records the partner it has received. -/
def recordSchedule : List Step :=
  [.act .worker (.lock .mPartnerLock) (), .act .worker (.writePartnerUp true) (),
    .act .worker .condSignal (), .act .worker (.unlock .mPartnerLock) ()]

/-- A schedule: the binder thread wakes up and decides by the partner. -/
def decideSchedule : List Step :=
  [.act .binder .condWake false, .act .binder (.lock .mPartnerLock) (),
    .act .binder .readPartnerUp true, .act .binder (.unlock .mPartnerLock) (),
    .act .binder (.lock .mLock) (), .act .binder .readCallback true]

/-- The same, with what is told. -/
def succeedSchedule (portName : String) : List Step :=
  decideSchedule ++
    [.act .binder (.notify (.roleSwitchStatus portName (.mode .dfp) .success 1)) ()]

end

open Libbase.Documented in
/-- The partner is recorded during the wait; the success is told. -/
theorem partner_not_lost_woken :
    ∃ c, observed.Run NoLateExpiry (observed.start none) c ∧ c.shared.2.recorded = true ∧
      c.shared.2.lost = false ∧ ∃ status, (c.prog .binder).head? =
        some (.notify (.roleSwitchStatus "port0" (.mode .dfp) status 1)) ∧ status = .success := by
  have h : (observed.play NoLateExpiry (watchSchedule ++ waitSchedule "port0" ++
      messageSchedule "add@/class/typec/port0/port0-partner\x00" ++ recordSchedule ++
      decideSchedule) (observed.start none)).map
        (fun c => (c.shared.2.recorded, (c.prog .binder).head?)) =
          some (true, some (.notify (.roleSwitchStatus "port0" (.mode .dfp) .success 1))) := by
    decide +kernel
  obtain ⟨c, run, e⟩ := observed.exists_run h
  obtain ⟨recorded, tells⟩ := Prod.mk.inj e
  obtain ⟨kept, found⟩ := partner_not_lost run
  exact ⟨c, run, recorded, kept, _, tells, (found recorded).2.2 _ _ _ _ tells⟩

open Libbase.Documented in
/-- The wait has expired when the worker records the partner. -/
theorem partner_lost_after_expiry :
    ∃ c, observed.Reach (observed.start none) c ∧ c.shared.2.lost = true := by
  have h : (observed.play (fun _ _ => True) (watchSchedule ++ waitSchedule "port0" ++
      [.act .binder .condWake true] ++
      messageSchedule "add@/class/typec/port0/port0-partner\x00" ++ recordSchedule ++
      [.act .binder (.lock .mPartnerLock) (), .act .binder (.unlock .mPartnerLock) (),
        .act .binder (.fopen (appendRoleNodeHelper "port0" .mode)) true]) (observed.start none)).map
      (fun c => c.shared.2.lost) = some true := by decide +kernel
  exact observed.exists_run h

end Redfin.Usb
