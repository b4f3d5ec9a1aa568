import Redfin.Usb.Partner

/-!
# A success and the port it is of

`mPartnerUp` is set for a partner of any port, and for a message that was sent at any time: a switch
may be reported to have succeeded by the partner of another port, or by one that was there before.
Where every partner recorded for a waiting switch is its own and new, a success is never false
(`success_not_false`).
-/

set_option linter.unusedSectionVars false

namespace Redfin.Usb

open Function Program

section

variable [Libbase]

/-- The partner of the port was recorded from a message that was sent after the write. -/
def History.proven (h : History) : Bool := h.confirmed.any (isPartnerOf (portOf h.node))

/-- The record for which the worker sets `mPartnerUp` is of the port, and of such a message. -/
def History.proper (h : History) : Bool :=
  h.fresh && h.handled.any (isPartnerOf (portOf h.node))

/-- The condition on the steps of a run: a partner that is recorded while a switch waits, has not
timed out and has a callback to tell, is new and the partner of its port, unless there is one
already. -/
def OwnPartner (x : Shared × History) : Step → Prop
  | .act .worker (.writePartnerUp _) _ =>
    x.2.window = true ∧ x.2.expired = false ∧ x.1.callback = true →
      x.2.proven = true ∨ x.2.proper = true
  | _ => True

instance (x : Shared × History) (l : Step) : Decidable (OwnPartner x l) := by
  unfold OwnPartner
  split <;> infer_instance

/-- Where the stage, with `mPartnerUp` as it is, leads to a success, that is justified. -/
def Stage.Justified (s : Shared) (h : History) : Stage → Prop
  | .cleared _ => s.partnerUp = false
  | .put _ => s.partnerUp = false
  | .written _ => s.partnerUp = true → s.callback = true → h.proven = true
  | .waiting _ => s.partnerUp = true → s.callback = true → h.proven = true
  | .woken _ false => s.partnerUp = true → s.callback = true → h.proven = true
  | .relocked _ false => s.partnerUp = true → s.callback = true → h.proven = true
  | .up _ => s.callback = true → h.proven = true
  | .switching _ (some true) => s.callback = true → h.proven = true
  | .announcing _ (some true) => h.proven = true
  | _ => True

structure ProofInv (x : Shared × History) (b : Stage) : Prop where
  justified : b.Justified x.1 x.2
  falsely : x.2.falsely = false

section

variable {b : Stage} {o : Op} {s s' : Shared} {h : History}

/-- The characters of three texts one after the other. -/
lemma toList_append_append (a b c : String) :
    (a ++ b ++ c).toList = a.toList ++ (b.toList ++ c.toList) := by
  rw [String.toList_append, String.toList_append, List.append_assoc]

/-- The port is what stands between the two ends of a node's path. -/
lemma portOf_of_eq {node : String} {pre mid post : List Char}
    (e : node.toList = pre ++ (mid ++ post)) (hpre : pre.length = 17) (hpost : post.length = 10) :
    portOf node = mid := by
  have length : (pre ++ (mid ++ post)).length - 27 = mid.length := by
    simp only [List.length_append]
    omega
  rw [portOf, e, length, ← hpre, List.drop_left, List.take_left]

/-- The port of a role node. -/
lemma portOf_roleNode (portName : String) :
    portOf (appendRoleNodeHelper portName .mode) = portName.toList :=
  portOf_of_eq (toList_append_append "/sys/class/typec/" portName "/port_type") rfl rfl

/-- A stage that is justified stays so if neither the flags nor the proof change. -/
lemma Stage.Justified.of_same {h' : History} (j : b.Justified s h) (same : SameFlags s s')
    (proven : h'.proven = h.proven) : b.Justified s' h' := by
  obtain ⟨partnerUp, callback⟩ := same
  cases b with
  | switching node decision =>
    rcases decision with _ | _ | _
    · exact trivial
    · exact trivial
    · exact fun hc => proven.trans (j (callback ▸ hc))
  | announcing node decision =>
    rcases decision with _ | _ | _
    · exact trivial
    · exact trivial
    · exact proven.trans j
  | cleared node | put node => exact partnerUp.trans j
  | written node | waiting node =>
    exact fun hu hc => proven.trans (j (partnerUp ▸ hu) (callback ▸ hc))
  | woken node timedOut | relocked node timedOut =>
    cases timedOut with
    | true => exact trivial
    | false => exact fun hu hc => proven.trans (j (partnerUp ▸ hu) (callback ▸ hc))
  | up node => exact fun hc => proven.trans (j (callback ▸ hc))
  | _ => exact trivial

/-- What an operation of the binder thread preserves: it decides for a success only with
`mPartnerUp` set, and tells one only if there is a callback. -/
lemma proofInv_binder {r : o.Res} (ok : BinderOk b o) (n : Noted b h)
    (holds : s.holder .mPartnerLock = some .binder ↔ b.hasPartner = true)
    (st : act .binder o r s = some s') (inv : ProofInv (s, h) b) :
    ProofInv (s', h.noteBinder s o r) (b.next o r) := by
  obtain ⟨justified, falsely⟩ := inv
  have flags := (frame_act st).flags
  cases ok with
  | idle ho =>
    obtain ⟨isSet, e⟩ := noteBinder_ordinary (r := r) (s := s) (h := h) ho
    rw [next_of_ordinary ho, e]
    exact ⟨trivial, falsely⟩
  | enter => exact ⟨trivial, falsely⟩
  | @fopen _ decision path undecided =>
    rcases decision with _ | _ | _
    · exact ⟨trivial, falsely⟩
    · exact ⟨trivial, falsely⟩
    · exact absurd (undecided true rfl).1.symm Bool.false_ne_true
  | file ho =>
    rw [next_of_usesFile ho, noteBinder_usesFile ho n.put (free_of_hasPartner holds rfl)]
    exact ⟨justified.of_same (flags (Op.assigns_of_usesFile ho)) rfl, falsely⟩
  | lockPartner => exact ⟨trivial, falsely⟩
  | clear =>
    cases st
    exact ⟨rfl, falsely⟩
  | fputs =>
    cases r with
    | true => exact ⟨(flags rfl).partnerUp.trans justified, falsely⟩
    | false => exact ⟨trivial, falsely⟩
  | close =>
    have down : s'.partnerUp = false := (flags rfl).partnerUp.trans justified
    obtain ⟨-, -, same, -⟩ := h.write_frame s
    exact ⟨fun hu => absurd (down.symm.trans hu) Bool.false_ne_true, same.trans falsely⟩
  | closeFailed =>
    have same : h.noteBinder s (.fclose _) r = h := History.write_of_not_put n.put s
    rw [same]
    exact ⟨trivial, falsely⟩
  | unlockFailed => exact ⟨trivial, falsely⟩
  | @release node =>
    have waiting : (Stage.waiting node).Justified s h := justified
    exact ⟨waiting.of_same (flags rfl) rfl, falsely⟩
  | @wake node =>
    cases r with
    | true => exact ⟨trivial, falsely⟩
    | false =>
      have woken : (Stage.woken node false).Justified s h := justified
      exact ⟨woken.of_same (flags rfl) rfl, falsely⟩
  | @relock node timedOut =>
    cases timedOut with
    | true => exact ⟨trivial, falsely⟩
    | false =>
      have relocked : (Stage.relocked node false).Justified s h := justified
      exact ⟨relocked.of_same (flags rfl) rfl, falsely⟩
  | unlockExpired => exact ⟨trivial, falsely⟩
  | read =>
    obtain ⟨isUp, rfl⟩ := of_enabled st
    cases r with
    | true => exact ⟨justified isUp.symm, falsely⟩
    | false => exact ⟨justified, falsely⟩
  | @unlockUp node =>
    have decided : (Stage.switching node (some true)).Justified s h := justified
    exact ⟨decided.of_same (flags rfl) rfl, falsely⟩
  | lock => exact ⟨justified.of_same (flags rfl) rfl, falsely⟩
  | @readCallback node decision =>
    obtain ⟨isSet, rfl⟩ := of_enabled st
    cases r with
    | false => exact ⟨trivial, falsely⟩
    | true =>
      rcases decision with _ | _ | _
      · exact ⟨trivial, falsely⟩
      · exact ⟨trivial, falsely⟩
      · exact ⟨justified isSet.symm, falsely⟩
  | @notify node decision portName role status id announces =>
    refine ⟨trivial, ?_⟩
    show (h.falsely || decide (role.getTag = .mode ∧ status = .success) &&
      !h.confirmed.any (isPartnerOf portName.toList)) = false
    rw [falsely, Bool.false_or]
    refine Bool.eq_false_iff.mpr fun e => ?_
    obtain ⟨success, unproven⟩ := Bool.and_eq_true_iff.mp e
    obtain ⟨mode, success⟩ := of_decide_eq_true success
    rcases decision with _ | _ | _
    · exact announces ⟨mode, success⟩
    · cases announces.1.symm.trans success
    · -- the decision was for the port whose node was written
      have node : h.node = appendRoleNodeHelper portName .mode :=
        (n.node node rfl).trans announces.2.symm
      have proven : h.proven = true := justified
      rw [History.proven, node, portOf_roleNode] at proven
      rw [proven] at unproven
      cases unproven
  | unlock => exact ⟨trivial, falsely⟩
  | leave => exact ⟨trivial, falsely⟩

/-- A proof there is stays one when the worker records more. -/
lemma History.proven_record (proven : h.proven = true) : h.record.proven = true := by
  show (if h.window && h.fresh then h.handled.toList ++ h.confirmed else h.confirmed).any _ = true
  split
  · rw [List.any_append, Bool.or_eq_true]
    exact .inr proven
  · exact proven

/-- A proper record in the window is a proof. -/
lemma History.proven_of_proper (window : h.window = true) (proper : h.proper = true) :
    h.record.proven = true := by
  obtain ⟨fresh, own⟩ := (Bool.and_eq_true _ _).mp proper
  show (if h.window && h.fresh then h.handled.toList ++ h.confirmed else h.confirmed).any _ = true
  rw [window, fresh]
  cases handled : h.handled with
  | none =>
    rw [handled] at own
    cases own
  | some cp =>
    rw [handled] at own
    exact (Bool.or_eq_true _ _).mpr (.inl own)

/-- The worker sets `mPartnerUp` with the guard only. -/
lemma proofInv_worker {w : Stage} {r : o.Res} (ok : WorkerOk w o) (n : Noted b h)
    (apart : w.hasPartner = true → b.hasPartner = false) (g : OwnPartner (s, h) (.act .worker o r))
    (st : act .worker o r s = some s') (inv : ProofInv (s, h) b) :
    ProofInv (s', h.noteWorker o r) b := by
  obtain ⟨justified, falsely⟩ := inv
  rcases ok.assigns with ⟨rfl, rfl⟩ | ho
  · cases st
    refine ⟨?_, falsely⟩
    have waiting (window : b.inWindow = true) (going : b.timedOut? = some false)
        (callback : s.callback = true) : h.record.proven = true := by
      have window : h.window = true := n.window.trans window
      rcases g ⟨window, n.expired false going, callback⟩ with proven | proper
      · exact h.proven_record proven
      · exact h.proven_of_proper window proper
    cases b with
    | switching node decision =>
      rcases decision with _ | _ | _
      · exact trivial
      · exact trivial
      · exact fun hc => h.proven_record (justified hc)
    | announcing node decision =>
      rcases decision with _ | _ | _
      · exact trivial
      · exact trivial
      · exact h.proven_record justified
    | waiting node => exact fun _ hc => waiting rfl rfl hc
    | woken node timedOut =>
      cases timedOut with
      | true => exact trivial
      | false => exact fun _ hc => waiting rfl rfl hc
    | cleared | put | written | relocked | up => cases apart rfl
    | _ => exact trivial
  · obtain ⟨todo, fresh, stale, tested, e⟩ := noteWorker_of_not_assigns (h := h) (r := r) ho
    rw [e]
    exact ⟨justified.of_same ((frame_act st).flags ho) rfl, falsely⟩

/-- Every step with the own partner keeps the invariant. -/
lemma proofInv_step {q q' : Thread → Phase × Stage} {l : Step} (sinv : StageInv s q)
    (n : Noted (q .binder).2 h) (inv : ProofInv (s, h) (q .binder).2)
    (g : OwnPartner (s, h) l) (st : service.PStep both bothRest s q l s' q') :
    ProofInv (s', h.note s l) (q' .binder).2 := by
  cases st with
  | @act t o r s' ok st =>
    cases t with
    | binder => exact proofInv_binder ok.2 n (sinv.partner_holder .binder) st inv
    | worker => exact proofInv_worker ok.2 n sinv.apart g st inv
  | go _ st => exact ⟨inv.justified.of_same (sameFlags_go st) rfl, inv.falsely⟩
  | env st => exact ⟨inv.justified.of_same (sameFlags_env st) rfl, inv.falsely⟩

end

end

end Redfin.Usb
