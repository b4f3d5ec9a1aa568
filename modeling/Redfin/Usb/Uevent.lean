import Mathlib.Data.List.TakeWhile
import Redfin.Usb.Worker

/-!
# The uevent buffer

The loop of `uevent_event` over the buffer it receives a message into, pointer by pointer: behind
the message stand two zero bytes, and behind these anything. A C string is read from a pointer up
to the first zero byte, `strncmp` up to the first difference, and `while (*cp++)` up to the byte
behind the next zero. Each of these stays in front of the second zero byte as long as the pointer
does (`Runs` carries the bound along with the signals given), so the loop does what the records of
the message say and no read passes that byte (`parseLoop_spec`).

The loops are cut off by a fuel; enough of it is the length of the message and two.
-/

set_option linter.unusedSectionVars false

namespace Redfin.Usb

open Program

variable [Libbase]

/-- What a record makes the worker do. -/
inductive Signal where
  | partnerAdded
  | portEvent
deriving DecidableEq

inductive BufferOp where
  | load (i : ℕ)
  | signal (s : Signal)

@[reducible] def BufferOp.Res : BufferOp → Type
  | .load _ => Char
  | .signal _ => Unit

abbrev bufferSig : Sig := ⟨BufferOp, BufferOp.Res⟩

abbrev Loop := Prog bufferSig

abbrev load (i : ℕ) : Loop Char := Prog.call (S := bufferSig) (.load i)

abbrev signal (s : Signal) : Loop Unit := Prog.call (S := bufferSig) (.signal s)

/-! ## The loop -/

/-- `while (*cp++)`: where `cp` ends up. -/
def skipRecord : ℕ → ℕ → Loop (Option ℕ)
  | 0, _ => return none
  | fuel + 1, cp => do
    if (← load cp) = '\x00' then return some (cp + 1)
    skipRecord fuel (cp + 1)

/-- The C string at `cp`, which `regex_match` is given. -/
def cString : ℕ → ℕ → Loop (Option (List Char))
  | 0, _ => return none
  | fuel + 1, cp => do
    let c ← load cp
    if c = '\x00' then return some []
    match ← cString fuel (cp + 1) with
    | none => return none
    | some text => return some (c :: text)

/-- `!strncmp(cp, literal, strlen(literal))`. -/
def strncmp : List Char → ℕ → Loop Bool
  | [], _ => return true
  | c :: literal, cp => do
    if (← load cp) ≠ c then return false
    strncmp literal (cp + 1)

/-- The loop over the records from `cp` on; it returns nothing if it runs out of fuel. -/
def parseLoop : ℕ → ℕ → Loop (Option Unit)
  | 0, _ => return none
  | fuel + 1, cp => do
    if (← load cp) = '\x00' then return some ()
    match ← cString (fuel + 1) cp with
    | none => return none
    | some text =>
      if isPartnerAdd text then signal .partnerAdded
      else if ← strncmp "DEVTYPE=typec_".toList cp then
        signal .portEvent
        return some ()
      else if ← strncmp "POWER_SUPPLY_MOISTURE_DETECTED".toList cp then
        signal .portEvent
        return some ()
      match ← skipRecord (fuel + 1) cp with
      | none => return none
      | some cp => parseLoop fuel cp

/-- The buffer after a message has been received into it. -/
def buffer (msg : List Char) (beyond : ℕ → Char) (i : ℕ) : Char :=
  (msg ++ ['\x00', '\x00'])[i]?.getD (beyond i)

/-- Loads are answered by the memory. -/
def memory (mem : ℕ → Char) : Handler bufferSig Unit
  | .load i, s => (some (mem i), s)
  | .signal _, s => (some (), s)

/-- The index an operation loads from. -/
def BufferOp.load? : BufferOp → Option ℕ
  | .load i => some i
  | .signal _ => none

def BufferOp.signal? : BufferOp → Option Signal
  | .load _ => none
  | .signal s => some s

/-! ## Runs that stay below a bound -/

/-- The program returns `a`, gives the signals and loads from no index above `m`. -/
structure Runs {α : Type} (mem : ℕ → Char) (p : Loop α) (a : α) (signals : List Signal) (m : ℕ) :
    Prop where
  returns : p.exec (memory mem) () = (some a, ())
  signals : p.outputs BufferOp.signal? (memory mem) () = signals
  loads : ∀ i ∈ p.outputs BufferOp.load? (memory mem) (), i ≤ m

section

variable {α β : Type} {mem : ℕ → Char} {m : ℕ}

/-- A pure program loads nothing. -/
lemma runs_ret (a : α) : Runs mem (pure a) a [] m :=
  ⟨rfl, rfl, List.forall_mem_nil _⟩

/-- Runs compose, with their signals one after the other. -/
lemma Runs.bind {p : Loop α} {k : α → Loop β} {a : α} {b : β} {first second : List Signal}
    (hp : Runs mem p a first m) (hk : Runs mem (k a) b second m) :
    Runs mem (p >>= k) b (first ++ second) m where
  returns := (Prog.exec_bind_of k hp.returns).trans hk.returns
  signals := by rw [Prog.outputs_bind k hp.returns, hp.signals, hk.signals]
  loads := by
    rw [Prog.outputs_bind k hp.returns]
    exact List.forall_mem_append.mpr ⟨hp.loads, hk.loads⟩

/-- A part that gives no signal. -/
lemma Runs.then {p : Loop α} {k : α → Loop β} {a : α} {b : β} {signals : List Signal}
    (hp : Runs mem p a [] m) (hk : Runs mem (k a) b signals m) :
    Runs mem (p >>= k) b signals m :=
  hp.bind hk

/-- A load below the bound. -/
lemma runs_load {i : ℕ} (h : i ≤ m) : Runs mem (load i) (mem i) [] m where
  returns := rfl
  signals := rfl
  loads := List.forall_mem_singleton.mpr h

/-- One signal. -/
lemma runs_signal (s : Signal) : Runs mem (signal s) () [s] m where
  returns := rfl
  signals := rfl
  loads := List.forall_mem_nil _

end

/-! ## One record -/

/-- The memory holds the text from `cp` on. -/
def Holds (mem : ℕ → Char) (cp : ℕ) (text : List Char) : Prop :=
  ∀ i c, text[i]? = some c → mem (cp + i) = c

section

variable {mem : ℕ → Char} {cp m : ℕ} {c : Char} {text rest : List Char}

/-- The first character. -/
lemma Holds.head (h : Holds mem cp (c :: text)) : mem cp = c := h 0 c rfl

/-- The text after its first character. -/
lemma Holds.tail (h : Holds mem cp (c :: text)) : Holds mem (cp + 1) text := by
  intro i d hi
  have later := h (i + 1) d hi
  rwa [Nat.add_comm i 1, ← Nat.add_assoc] at later

/-- The text after its first part. -/
lemma Holds.drop (h : Holds mem cp (text ++ rest)) : Holds mem (cp + text.length) rest := by
  induction text generalizing cp with
  | nil => exact h
  | cons c text ih =>
    have next := ih h.tail
    rwa [Nat.add_right_comm, Nat.add_assoc] at next

variable (plain : ∀ c ∈ text, c ≠ '\x00') (held : Holds mem cp (text ++ '\x00' :: rest))
  (inside : cp + text.length ≤ m)
include plain held inside

/-- The pointer is moved behind the record. -/
lemma runs_skipRecord {fuel : ℕ} (enough : text.length < fuel) :
    Runs mem (skipRecord fuel cp) (some (cp + text.length + 1)) [] m := by
  induction text generalizing cp fuel with
  | nil =>
    obtain ⟨fuel, rfl⟩ := Nat.exists_eq_add_one.mpr enough
    have here : cp ≤ m := inside
    apply (runs_load here).then
    rw [held.head, if_pos rfl]
    exact runs_ret _
  | cons c text ih =>
    obtain ⟨fuel, rfl⟩ := Nat.exists_eq_add_one.mpr (Nat.zero_lt_of_lt enough)
    obtain ⟨other, plain⟩ := List.forall_mem_cons.mp plain
    rw [List.length_cons] at inside enough ⊢
    apply (runs_load (by omega)).then
    rw [held.head, if_neg other]
    have next := ih plain held.tail (by omega) (by omega : text.length < fuel)
    rwa [Nat.add_right_comm cp 1, Nat.add_assoc cp] at next

/-- The C string at a record is the record. -/
lemma runs_cString {fuel : ℕ} (enough : text.length < fuel) :
    Runs mem (cString fuel cp) (some text) [] m := by
  induction text generalizing cp fuel with
  | nil =>
    obtain ⟨fuel, rfl⟩ := Nat.exists_eq_add_one.mpr enough
    have here : cp ≤ m := inside
    apply (runs_load here).then
    rw [held.head, if_pos rfl]
    exact runs_ret _
  | cons c text ih =>
    obtain ⟨fuel, rfl⟩ := Nat.exists_eq_add_one.mpr (Nat.zero_lt_of_lt enough)
    obtain ⟨other, plain⟩ := List.forall_mem_cons.mp plain
    rw [List.length_cons] at inside enough
    apply (runs_load (by omega)).then
    rw [held.head, if_neg other]
    apply (ih plain held.tail (by omega) (by omega)).then
    exact runs_ret _

/-- The comparison stops at the end of the record at the latest. -/
lemma runs_strncmp {literal : List Char} (visible : ∀ c ∈ literal, c ≠ '\x00') :
    Runs mem (strncmp literal cp) (literal.isPrefixOf text) [] m := by
  induction literal generalizing cp text with
  | nil =>
    rw [List.isPrefixOf_nil_left]
    exact runs_ret _
  | cons d literal ih =>
    obtain ⟨other, others⟩ := List.forall_mem_cons.mp visible
    apply (runs_load (by omega)).then
    cases text with
    | nil =>
      rw [held.head, if_pos other.symm]
      exact runs_ret _
    | cons c text =>
      rw [held.head, List.isPrefixOf_cons_cons]
      by_cases same : c = d
      · subst same
        rw [if_neg (not_not.mpr rfl), beq_self_eq_true, Bool.true_and]
        rw [List.length_cons] at inside
        exact ih (List.forall_mem_cons.mp plain).2 held.tail (by omega) others
      · rw [if_pos same, beq_false_of_ne (Ne.symm same), Bool.false_and]
        exact runs_ret _

end

/-! ## The records of the message -/

/-- The signals for records, up to the first one that makes the worker query the ports. -/
def signalsOf : List (List Char) → List Signal
  | [] => []
  | cp :: rest =>
    if isPartnerAdd cp then .partnerAdded :: signalsOf rest
    else if isPortEvent cp then [.portEvent]
    else signalsOf rest

section

variable {mem : ℕ → Char} {cp m fuel : ℕ} {text rest : List Char} {signals : List Signal}

/-- At a zero byte the loop ends. -/
lemma runs_parseLoop_end (zero : mem cp = '\x00') (inside : cp ≤ m) :
    Runs mem (parseLoop (fuel + 1) cp) (some ()) [] m := by
  apply (runs_load inside).then
  rw [if_pos zero]
  exact runs_ret _

/-- One turn of the loop, at a record that is not empty. -/
lemma runs_parseLoop_record (ne_nil : text ≠ []) (plain : ∀ c ∈ text, c ≠ '\x00')
    (held : Holds mem cp (text ++ '\x00' :: rest)) (inside : cp + text.length ≤ m)
    (enough : text.length ≤ fuel)
    (next : Runs mem (parseLoop fuel (cp + text.length + 1)) (some ()) signals m) :
    Runs mem (parseLoop (fuel + 1) cp) (some ())
      (if isPartnerAdd text then .partnerAdded :: signals
        else if isPortEvent text then [.portEvent] else signals) m := by
  have first : mem cp ≠ '\x00' := by
    cases text with
    | nil => exact absurd rfl ne_nil
    | cons c text =>
      rw [held.head]
      exact plain c List.mem_cons_self
  have devtype : Runs mem (strncmp "DEVTYPE=typec_".toList cp)
      ("DEVTYPE=typec_".toList.isPrefixOf text) [] m :=
    runs_strncmp plain held inside (by simp)
  have moisture : Runs mem (strncmp "POWER_SUPPLY_MOISTURE_DETECTED".toList cp)
      ("POWER_SUPPLY_MOISTURE_DETECTED".toList.isPrefixOf text) [] m :=
    runs_strncmp plain held inside (by simp)
  apply (runs_load (by omega)).then
  rw [if_neg first]
  apply (runs_cString plain held inside (Nat.lt_succ_of_le enough)).then
  dsimp only
  have skip := runs_skipRecord plain held inside (Nat.lt_succ_of_le enough)
  cases isPartnerAdd text with
  | true =>
    rw [if_pos rfl, if_pos rfl]
    exact (runs_signal .partnerAdded).bind (skip.then next)
  | false =>
    rw [if_neg Bool.false_ne_true, if_neg Bool.false_ne_true, isPortEvent]
    apply devtype.then
    cases "DEVTYPE=typec_".toList.isPrefixOf text with
    | true =>
      rw [if_pos rfl, Bool.true_or, if_pos rfl]
      exact (runs_signal .portEvent).bind (runs_ret (some ()))
    | false =>
      rw [if_neg Bool.false_ne_true, Bool.false_or]
      apply moisture.then
      cases "POWER_SUPPLY_MOISTURE_DETECTED".toList.isPrefixOf text with
      | true =>
        rw [if_pos rfl, if_pos rfl]
        exact (runs_signal .portEvent).bind (runs_ret (some ()))
      | false =>
        rw [if_neg Bool.false_ne_true, if_neg Bool.false_ne_true]
        exact skip.then next

end

/-- A message begins with a zero byte, or with a record and the end of the message or a zero byte
behind it. -/
lemma split_message (msg : List Char) :
    records msg = [] ∧ (msg ++ ['\x00', '\x00']).head? = some '\x00' ∨
      ∃ text rest, text ≠ [] ∧ (∀ c ∈ text, c ≠ '\x00') ∧ msg = text ++ rest ∧
        (rest = [] ∧ records msg = [text] ∨
          ∃ later, rest = '\x00' :: later ∧ records msg = text :: records later) := by
  set text := msg.takeWhile (· ≠ '\x00') with htext
  set rest := msg.dropWhile (· ≠ '\x00') with hrest
  have whole : msg = text ++ rest := List.takeWhile_append_dropWhile.symm
  have plain : ∀ c ∈ text, c ≠ '\x00' := by
    intro c hc
    simpa using List.mem_takeWhile_imp hc
  have keep : ∀ c ∈ text, (c == '\x00') = false := fun c hc => beq_false_of_ne (plain c hc)
  -- the record ends with the message or with a zero byte
  have ending : rest = [] ∨ ∃ later, rest = '\x00' :: later := by
    cases cut : rest with
    | nil => exact .inl rfl
    | cons c later =>
      have stop := List.head?_dropWhile_not (· ≠ '\x00') msg
      rw [← hrest, cut] at stop
      have zero : c = '\x00' := by simpa using stop
      exact .inr ⟨later, by rw [zero]⟩
  by_cases empty : text = []
  · left
    rw [whole, empty, List.nil_append]
    rcases ending with done | ⟨later, zero⟩
    · rw [done]
      exact ⟨rfl, rfl⟩
    · rw [zero]
      refine ⟨?_, rfl⟩
      have first := List.splitOnP_append_cons_of_forall_mem (List.forall_mem_nil _) '\x00'
        (p := (· == '\x00')) rfl later
      rw [List.nil_append] at first
      rw [records, first, List.takeWhile_cons_of_neg (by simp)]
  · right
    refine ⟨text, rest, empty, plain, whole, ?_⟩
    rcases ending with done | ⟨later, zero⟩
    · refine .inl ⟨done, ?_⟩
      rw [whole, done, List.append_nil, records, List.splitOnP_eq_singleton keep,
        List.takeWhile_cons_of_pos (by simpa using empty), List.takeWhile_nil]
    · refine .inr ⟨later, zero, ?_⟩
      rw [whole, zero, records, List.splitOnP_append_cons_of_forall_mem keep '\x00' rfl,
        List.takeWhile_cons_of_pos (by simpa using empty), records]

/-- The loop does what the records of the rest of the message say and reads nothing behind the
second zero byte. -/
lemma runs_parseLoop {mem : ℕ → Char} {m : ℕ} (msg : List Char) {cp fuel : ℕ}
    (held : Holds mem cp (msg ++ ['\x00', '\x00'])) (inside : cp + msg.length + 1 ≤ m)
    (enough : msg.length + 2 ≤ fuel) :
    Runs mem (parseLoop fuel cp) (some ()) (signalsOf (records msg)) m := by
  induction fuel generalizing msg cp with
  | zero => exact absurd enough (by omega)
  | succ fuel ih =>
    rcases split_message msg with ⟨done, zero⟩ | ⟨text, rest, ne_nil, plain, rfl, ending⟩
    · rw [done]
      cases e : msg ++ ['\x00', '\x00'] with
      | nil => simp at e
      | cons c later =>
        rw [e] at zero held
        exact runs_parseLoop_end (held.head.trans (Option.some.inj zero)) (by omega)
    · rw [List.length_append] at inside enough
      rcases ending with ⟨rfl, one⟩ | ⟨later, rfl, more⟩
      · -- the second zero byte ends the loop
        rw [one]
        rw [List.append_nil] at held
        obtain ⟨fuel, rfl⟩ : ∃ k, fuel = k + 1 := ⟨fuel - 1, by omega⟩
        exact runs_parseLoop_record ne_nil plain held (by omega) (by omega)
          (runs_parseLoop_end held.drop.tail.head (by omega))
      · rw [List.length_cons] at inside enough
        rw [List.append_assoc, List.cons_append] at held
        rw [more]
        have next := ih later held.drop.tail (by omega) (by omega)
        exact runs_parseLoop_record ne_nil plain held (by omega) (by omega) next

/-! ## What the records signal -/

/-- The pattern takes any port that has no line break in it. -/
lemma isPartnerAdd_frame (middle : List Char) :
    isPartnerAdd ("add".toList ++ (middle ++ "-partner".toList)) =
      middle.all fun c => c ≠ '\n' && c ≠ '\r' := by
  have front : "add".toList.isPrefixOf ("add".toList ++ (middle ++ "-partner".toList)) = true :=
    List.isPrefixOf_iff_prefix.mpr (List.prefix_append _ _)
  have back : "-partner".toList.isSuffixOf (middle ++ "-partner".toList) = true :=
    List.isSuffixOf_iff_suffix.mpr (List.suffix_append _ _)
  have cut : ("add".toList ++ (middle ++ "-partner".toList)).drop 3 =
      middle ++ "-partner".toList := rfl
  have size : ("add".toList ++ (middle ++ "-partner".toList)).length - 11 = middle.length := by
    rw [List.length_append, List.length_append]
    exact Nat.sub_eq_of_eq_add (by simp; omega)
  rw [isPartnerAdd, front, cut, back, size, List.take_left]
  rfl

/-- What the expression `(add)(.*)(-partner)` matches. -/
lemma isPartnerAdd_iff (cp : List Char) :
    isPartnerAdd cp = true ↔ ∃ middle, cp = "add".toList ++ (middle ++ "-partner".toList) ∧
      ∀ c ∈ middle, c ≠ '\n' ∧ c ≠ '\r' := by
  have clear (middle : List Char) : (middle.all fun c => c ≠ '\n' && c ≠ '\r') = true ↔
      ∀ c ∈ middle, c ≠ '\n' ∧ c ≠ '\r' := by
    simp only [List.all_eq_true, Bool.and_eq_true, decide_eq_true_eq]
  constructor
  · intro add
    obtain ⟨front, -⟩ := Bool.and_eq_true_iff.mp add
    obtain ⟨front, back⟩ := Bool.and_eq_true_iff.mp front
    obtain ⟨rest, rfl⟩ := List.isPrefixOf_iff_prefix.mp front
    obtain ⟨middle, rfl⟩ := List.isSuffixOf_iff_suffix.mp back
    rw [isPartnerAdd_frame] at add
    exact ⟨middle, rfl, (clear middle).mp add⟩
  · intro ⟨middle, eq, lines⟩
    rw [eq, isPartnerAdd_frame]
    exact (clear middle).mpr lines

/-- No record is of both kinds. -/
lemma not_isPortEvent {cp : List Char} (add : isPartnerAdd cp = true) :
    isPortEvent cp = false := by
  obtain ⟨middle, rfl, -⟩ := (isPartnerAdd_iff cp).mp add
  rfl

/-- A partner for each record that matches before the first event of a port, and then that event. -/
def expectedSignals (cps : List (List Char)) : List Signal :=
  ((cps.takeWhile fun cp => !isPortEvent cp).filter isPartnerAdd).map
      (fun _ => Signal.partnerAdded) ++
    if cps.any isPortEvent then [.portEvent] else []

/-- The loop gives the signals that are expected. -/
lemma signalsOf_eq (cps : List (List Char)) : signalsOf cps = expectedSignals cps := by
  rw [expectedSignals]
  induction cps with
  | nil => rfl
  | cons cp rest ih =>
    rw [signalsOf, List.any_cons]
    cases add : isPartnerAdd cp with
    | true =>
      rw [if_pos rfl, not_isPortEvent add, List.takeWhile_cons_of_pos, List.filter_cons_of_pos add,
        List.map_cons, List.cons_append, Bool.false_or, ih]
      rw [not_isPortEvent add, Bool.not_false]
    | false =>
      have other : ¬isPartnerAdd cp = true := ne_true_of_eq_false add
      rw [if_neg Bool.false_ne_true]
      cases event : isPortEvent cp with
      | true =>
        rw [if_pos rfl, Bool.true_or, if_pos rfl, List.takeWhile_cons_of_neg]
        · rfl
        · rw [event]
          exact Bool.false_ne_true
      | false =>
        rw [if_neg Bool.false_ne_true, Bool.false_or, List.takeWhile_cons_of_pos,
          List.filter_cons_of_neg other, ih]
        rw [event, Bool.not_false]

/-- What the worker does for a signal. -/
def Signal.act : Signal → Hal Unit
  | .partnerAdded => Usb.partnerAdded
  | .portEvent => Usb.portEvent

/-- What the worker does for signals, one after the other. -/
def perform : List Signal → Hal Unit
  | [] => return ()
  | s :: rest => do
    s.act
    perform rest

/-- The worker does what the records signal. -/
lemma handleRecords_eq (cps : List (List Char)) : handleRecords cps = perform (signalsOf cps) := by
  induction cps with
  | nil => rfl
  | cons cp rest ih =>
    rw [handleRecords, signalsOf]
    cases isPartnerAdd cp with
    | true =>
      rw [if_pos rfl, if_pos rfl, ih]
      rfl
    | false =>
      rw [if_neg Bool.false_ne_true, if_neg Bool.false_ne_true]
      cases isPortEvent cp with
      | true =>
        rw [if_pos rfl, if_pos rfl]
        exact bind_pure_unit.symm
      | false =>
        rw [if_neg Bool.false_ne_true, if_neg Bool.false_ne_true]
        exact ih

/-- The buffer holds the message and its two zeros. -/
lemma holds_buffer (msg : List Char) (beyond : ℕ → Char) :
    Holds (buffer msg beyond) 0 (msg ++ ['\x00', '\x00']) := by
  intro i c hi
  rw [buffer, Nat.zero_add, hi, Option.getD_some]

/-- Whatever a message holds and whatever stands behind it, the loop over the buffer ends, reads
nothing behind the second zero byte and signals, among the records up to the first empty one, a
partner for each record of the form that precedes the first event of a port, and then that event;
this is what the worker does. For a partner it sets `mPartnerUp` and signals the condition, both
with `mPartnerLock` held; for an event of a port it queries the ports once. -/
theorem parseLoop_spec (msg : List Char) (beyond : ℕ → Char) (k : ℕ) :
    Runs (buffer msg beyond) (parseLoop (msg.length + 2 + k) 0) (some ())
        (expectedSignals (records msg)) (msg.length + 1) ∧
      handleRecords (records msg) = perform (expectedSignals (records msg)) ∧
      (perform [.partnerAdded] = do
        call (.lock .mPartnerLock)
        call (.writePartnerUp true)
        call .condSignal
        call (.unlock .mPartnerLock)) ∧
      (perform [.portEvent] = do
        let currentPortStatus ← queryVersionHelper []
        if ← call (.trylock .mRoleSwitchLock) then
          switchDisconnected currentPortStatus
          call (.unlock .mRoleSwitchLock)) ∧
      ∀ cp, isPartnerAdd cp = true ↔
        ∃ middle, cp = "add".toList ++ (middle ++ "-partner".toList) ∧
          ∀ c ∈ middle, c ≠ '\n' ∧ c ≠ '\r' := by
  have run : Runs (buffer msg beyond) (parseLoop (msg.length + 2 + k) 0) (some ())
      (signalsOf (records msg)) (msg.length + 1) :=
    runs_parseLoop msg (holds_buffer msg beyond) (by omega) (Nat.le_add_right _ _)
  rw [signalsOf_eq] at run
  refine ⟨run, ?_, bind_pure_unit, bind_pure_unit, isPartnerAdd_iff⟩
  rw [handleRecords_eq, signalsOf_eq]

end Redfin.Usb
