import Mathlib.Algebra.Order.BigOperators.Group.Finset
import Mathlib.Data.Finset.Sort
import Redfin.Dumpstate.Sent

/-!
# What leaks from an earlier report

Neither `copyFile` nor `createTarFile` truncates the file it writes, and the staging directory is
archived with all that is in it. A later report is therefore free of an earlier one exactly when
what was left behind does not show (`Harmless`): each staged file is replaced by a log that covers
it, and the old archive ends within the new one. What was in the directory before may also change
the order in which it is listed, and with it the order of the archive (`ListedAlike`).
-/

namespace Redfin.Dumpstate

open Bytes

/-! ## One member -/

/-- `old` does not show in the archive after `new` has been written over it: it is not longer, or
the rest of it looks like padding and does not change the size in the header. -/
def Absorbed (new old : List UInt8) : Prop :=
  old.length ≤ new.length ∨
    promised old.length = promised new.length ∧ roundUp old.length = roundUp new.length ∧
      ∀ b ∈ old.drop new.length, b = 0

instance (new old : List UInt8) : Decidable (Absorbed new old) :=
  inferInstanceAs (Decidable (_ ∨ _))

/-- A content below the bound of `off_t` has its length as size. -/
lemma toNat_st_size (d_name : FileName) {content : List UInt8} (h : content.length < 2 ^ 63) :
    (memberOf d_name content).st_size.toNat = content.length := by
  simp only [memberOf, UInt64.toNat_ofNat']
  omega

/-- A member that lies over an old one reads as if the old one had not been there exactly if it
absorbs it. -/
theorem encode_overlay_iff {d_name : FileName} {new old : List UInt8} (hn : new.length < 2 ^ 63)
    (ho : old.length < 2 ^ 63) :
    (memberOf d_name (overlay new old)).encode = (memberOf d_name new).encode ↔
      Absorbed new old := by
  rcases le_or_gt old.length new.length with covered | longer
  · rw [overlay_eq_left_iff.mpr covered]
    exact iff_of_true rfl (.inl covered)
  · have hl : (overlay new old).length = old.length := by
      rw [length_overlay]
      exact max_eq_right longer.le
    have sizes : (memberOf d_name (overlay new old)).st_size.toNat = old.length := by
      rw [toNat_st_size d_name (by rw [hl]; exact ho), hl]
    have sizes' := toNat_st_size d_name hn
    constructor
    · intro e
      have total := congrArg List.length e
      rw [Member.length_encode, Member.length_encode] at total
      simp only [Member.encode, List.append_assoc] at e
      obtain ⟨header, body⟩ := List.append_inj e (by
        rw [PosixTarHeader.length_eq, PosixTarHeader.length_eq])
      have size := congrArg sizeField header
      rw [sizeField_tarHeader, sizeField_tarHeader, sizes, sizes'] at size
      refine .inr ⟨size, ?_, fun b hb => ?_⟩
      · have body : (memberOf d_name (overlay new old)).body.length = old.length := hl
        have body' : (memberOf d_name new).body = new := rfl
        rw [body, body'] at total
        omega
      · simp only [memberOf, overlay, List.append_assoc, List.append_cancel_left_eq] at body
        exact List.eq_of_mem_replicate (body ▸ List.mem_append_left _ hb)
    · rintro (covered | ⟨size, blocks, padding⟩)
      · exact absurd covered (not_le.mpr longer)
      · have header : tarHeader d_name (memberOf d_name (overlay new old)).st_size =
            tarHeader d_name (memberOf d_name new).st_size := by
          rw [tarHeader_eq_iff, sizes, sizes', size]
        have rest : old.drop new.length = List.replicate (old.length - new.length) 0 :=
          List.eq_replicate_iff.mpr ⟨List.length_drop, padding⟩
        have pad : old.length - new.length + (roundUp old.length - old.length) =
            roundUp new.length - new.length := by
          have h := le_roundUp old.length
          omega
        calc (memberOf d_name (overlay new old)).encode
            = (tarHeader d_name (memberOf d_name (overlay new old)).st_size).bytes ++
                overlay new old ++ List.replicate
                  (roundUp (overlay new old).length - (overlay new old).length) 0 := rfl
          _ = (tarHeader d_name (memberOf d_name new).st_size).bytes ++ new ++
                List.replicate (roundUp new.length - new.length) 0 := by
              rw [header, hl, overlay, rest, List.append_assoc, List.append_assoc,
                List.replicate_append_replicate, pad, List.append_assoc]
          _ = (memberOf d_name new).encode := rfl

/-! ## The archive -/

/-- Parts of the same lengths are found again in what they were joined to. -/
lemma eq_of_flatMap_eq {α β : Type} {f g : α → List β} {l : List α}
    (hl : ∀ x ∈ l, (f x).length = (g x).length) (h : l.flatMap f = l.flatMap g) :
    ∀ x ∈ l, f x = g x := by
  induction l with
  | nil => exact fun x hx => absurd hx List.not_mem_nil
  | cons y l ih =>
    rw [List.flatMap_cons, List.flatMap_cons] at h
    obtain ⟨first, rest⟩ := List.append_inj h (hl y List.mem_cons_self)
    intro x hx
    rcases List.mem_cons.mp hx with rfl | hx
    · exact first
    · exact ih (fun x hx => hl x (List.mem_cons_of_mem y hx)) rest x hx

/-- The blocks of a file in the archive, with its header. -/
def blocks (content : List UInt8) : ℕ := 512 + roundUp content.length

/-- One directory has all the files of the other, none of them shorter. -/
structure Extends (dir base : Dir) : Prop where
  keys : base.keys ⊆ dir.keys
  length_le : ∀ d_name ∈ base.keys,
    (contentOf base d_name).length ≤ (contentOf dir d_name).length

section

variable {order : Listing} {dir base : Dir}

/-- The length of an archive does not depend on its order. -/
lemma length_archive (order : Listing) (dir : Dir) :
    (order.archive dir).length = ∑ d_name ∈ dir.keys, blocks (contentOf dir d_name) := by
  have listed : (order.readdir dir.keys).toFinset = dir.keys := by
    apply Finset.ext
    intro d_name
    rw [List.mem_toFinset, order.mem_readdir]
  rw [← listed, List.sum_toFinset _ (order.readdir_nodup _), Listing.archive,
    List.length_flatMap]
  apply congrArg List.sum
  apply List.map_congr_left
  intro d_name _
  exact Member.length_encode _

/-- A file of the base takes no more blocks than what stands over it. -/
lemma Extends.blocks_le (h : Extends dir base) {d_name : FileName} (hd : d_name ∈ base.keys) :
    blocks (contentOf base d_name) ≤ blocks (contentOf dir d_name) := by
  have := h.length_le d_name hd
  unfold blocks roundUp
  omega

/-- The archive of the base is no longer than that of what extends it. -/
lemma Extends.length_archive_le (h : Extends dir base) (order : Listing) :
    (order.archive base).length ≤ (order.archive dir).length := by
  rw [length_archive, length_archive]
  calc ∑ d_name ∈ base.keys, blocks (contentOf base d_name)
      ≤ ∑ d_name ∈ base.keys, blocks (contentOf dir d_name) :=
        Finset.sum_le_sum fun d_name hd => h.blocks_le hd
    _ ≤ ∑ d_name ∈ dir.keys, blocks (contentOf dir d_name) :=
        Finset.sum_le_sum_of_subset h.keys

/-- With an archive of the same length there are no more files, and none takes more blocks. -/
lemma Extends.of_length_eq (h : Extends dir base)
    (hl : (order.archive dir).length = (order.archive base).length) :
    dir.keys = base.keys ∧
      ∀ d_name ∈ base.keys, blocks (contentOf dir d_name) = blocks (contentOf base d_name) := by
  have more := Finset.sum_le_sum_of_subset (f := fun d_name => blocks (contentOf dir d_name)) h.keys
  have longer := Finset.sum_le_sum fun d_name (hd : d_name ∈ base.keys) => h.blocks_le hd
  rw [length_archive, length_archive] at hl
  have keys : dir.keys = base.keys := by
    by_contra hne
    obtain ⟨d_name, hd, hb⟩ := Finset.exists_of_ssubset (h.keys.ssubset_of_ne (Ne.symm hne))
    have positive : 0 < blocks (contentOf dir d_name) := by
      unfold blocks
      omega
    have := Finset.sum_lt_sum_of_subset (f := fun d_name => blocks (contentOf dir d_name))
      h.keys hd hb positive fun _ _ _ => Nat.zero_le _
    omega
  rw [keys] at hl
  refine ⟨keys, fun d_name hd => ?_⟩
  exact ((Finset.sum_eq_sum_iff_of_le fun d_name hd => h.blocks_le hd).mp hl.symm d_name hd).symm

/-- A directory that extends another has the same archive exactly if it has the same files and each
of them is the same member. -/
theorem Extends.archive_eq_iff (h : Extends dir base) :
    order.archive dir = order.archive base ↔
      dir.keys = base.keys ∧ ∀ d_name ∈ base.keys,
        (memberOf d_name (contentOf dir d_name)).encode =
          (memberOf d_name (contentOf base d_name)).encode := by
  constructor
  · intro e
    obtain ⟨keys, same⟩ := h.of_length_eq (congrArg List.length e)
    refine ⟨keys, fun d_name hd => ?_⟩
    rw [Listing.archive, Listing.archive, keys] at e
    refine eq_of_flatMap_eq (fun d_name hd => ?_) e d_name ((order.mem_readdir _ _).mpr hd)
    rw [Member.length_encode, Member.length_encode]
    exact same d_name ((order.mem_readdir _ _).mp hd)
  · rintro ⟨keys, same⟩
    rw [Listing.archive, Listing.archive, keys]
    apply List.flatMap_congr
    intro d_name hd
    exact same d_name ((order.mem_readdir _ _).mp hd)

end

/-! ## The report -/

/-- What was left behind does not show in the next report: each staged file gets a new log that
covers it, and the old archive is no longer than the new logs make the archive. -/
structure Harmless (dev : Device) (left : Leftovers) : Prop where
  staged : ∀ d_name ∈ left.modem_log, ∃ step ∈ dev.steps, step.name = d_name ∧
    (step.truncates = true ∨ Absorbed step.bytes (contentOf left.modem_log d_name))
  combined : left.combined.length ≤ (dev.steps.map fun step => blocks step.bytes).sum

section

variable {dev : Device} {order : Listing} {left : Leftovers}

/-- A staged file is what its step makes of what was left behind. -/
lemma content_staged {step : Step} (h : step ∈ dev.steps) :
    contentOf (dev.staged left) step.name = step.content (left.modem_log.lookup step.name) := by
  rw [contentOf, Device.staged, lookup_steps_of_mem (nodup_steps dev) h]
  exact rfl

/-- A clean run stages the logs as they are. -/
lemma content_clean {step : Step} (h : step ∈ dev.steps) :
    contentOf (dev.staged .clean) step.name = step.bytes := by
  rw [content_staged h, Step.content]
  cases step.truncates with
  | false => exact overlay_nil _
  | true => exact rfl

/-- The names of the logs. -/
def Device.names (dev : Device) : Finset FileName := (dev.steps.map Step.name).toFinset

/-- The names of a dump are those of its steps. -/
lemma mem_names {d_name : FileName} :
    d_name ∈ dev.names ↔ ∃ step ∈ dev.steps, step.name = d_name := by
  rw [Device.names, List.mem_toFinset, List.mem_map]

/-- A clean run stages the logs and nothing else. -/
lemma keys_clean (dev : Device) : (dev.staged .clean).keys = dev.names := by
  apply Finset.ext
  intro d_name
  rw [Finmap.mem_keys, Device.staged, mem_steps, mem_names, List.mem_map]
  exact or_iff_right Finmap.notMem_empty

/-- A clean run archives the logs. -/
lemma length_archive_clean (order : Listing) (dev : Device) :
    (order.archive (dev.staged .clean)).length =
      (dev.steps.map fun step => blocks step.bytes).sum := by
  rw [length_archive, keys_clean, Device.names, List.sum_toFinset _ (nodup_steps dev),
    List.map_map]
  apply congrArg List.sum
  apply List.map_congr_left
  intro step h
  exact congrArg blocks (content_clean h)

/-- Nothing that was left behind makes the staging directory smaller. -/
lemma staged_extends (dev : Device) (left : Leftovers) :
    Extends (dev.staged left) (dev.staged .clean) := by
  constructor
  · intro d_name h
    obtain ⟨step, hs, rfl⟩ := mem_names.mp (keys_clean dev ▸ h)
    exact Finmap.mem_keys.mpr (mem_steps.mpr (.inr (List.mem_map_of_mem hs)))
  · intro d_name h
    obtain ⟨step, hs, rfl⟩ := mem_names.mp (keys_clean dev ▸ h)
    rw [content_clean hs, content_staged hs, Step.content]
    split
    · exact le_rfl
    · rw [length_overlay]
      exact le_max_left _ _

/-- The files that were left behind do not show in the archive. -/
lemma archive_staged_iff :
    order.archive (dev.staged left) = order.archive (dev.staged .clean) ↔
      ∀ d_name ∈ left.modem_log, ∃ step ∈ dev.steps, step.name = d_name ∧
        (step.truncates = true ∨ Absorbed step.bytes (contentOf left.modem_log d_name)) := by
  have member {step : Step} (hs : step ∈ dev.steps) :
      (memberOf step.name (contentOf (dev.staged left) step.name)).encode =
          (memberOf step.name (contentOf (dev.staged .clean) step.name)).encode ↔
        step.truncates = true ∨ Absorbed step.bytes (contentOf left.modem_log step.name) := by
    rw [content_clean hs, content_staged hs, Step.content]
    cases step.truncates with
    | true => exact iff_of_true rfl (.inl rfl)
    | false =>
      have old : (contentOf left.modem_log step.name).length < 2 ^ 63 := by
        cases h : left.modem_log.lookup step.name with
        | none => rw [contentOf, h]; exact Nat.two_pow_pos 63
        | some bytes => rw [contentOf, h]; exact left.modem_log_lt _ _ h
      refine (encode_overlay_iff (bytes_lt hs) old).trans ?_
      exact (or_iff_right Bool.false_ne_true).symm
  rw [(staged_extends dev left).archive_eq_iff]
  constructor
  · rintro ⟨keys, same⟩ d_name h
    have staged : d_name ∈ (dev.staged left).keys :=
      Finmap.mem_keys.mpr (mem_steps.mpr (.inl h))
    rw [keys] at staged
    obtain ⟨step, hs, rfl⟩ := mem_names.mp (keys_clean dev ▸ staged)
    exact ⟨step, hs, rfl, (member hs).mp (same _ staged)⟩
  · intro covered
    constructor
    · apply Finset.Subset.antisymm _ (staged_extends dev left).keys
      intro d_name h
      rcases mem_steps.mp (Finmap.mem_keys.mp h) with old | new
      · obtain ⟨step, hs, e, -⟩ := covered d_name old
        exact keys_clean dev ▸ mem_names.mpr ⟨step, hs, e⟩
      · exact keys_clean dev ▸ mem_names.mpr (List.mem_map.mp new)
    · intro d_name h
      obtain ⟨step, hs, rfl⟩ := mem_names.mp (keys_clean dev ▸ h)
      refine (member hs).mpr ?_
      by_cases old : step.name ∈ left.modem_log
      · obtain ⟨step', hs', e, hc⟩ := covered _ old
        rwa [List.inj_on_of_nodup_map (nodup_steps dev) hs' hs e] at hc
      · refine .inr (.inl ?_)
        rw [contentOf, Finmap.lookup_eq_none.mpr old]
        exact Nat.zero_le _

/-- In the same order, the report is the one of a clean run exactly when nothing that was left behind
shows. -/
theorem archive_over_clean_iff :
    overlay (order.archive (dev.staged left)) left.combined =
      order.archive (dev.staged .clean) ↔ Harmless dev left := by
  have longer := (staged_extends dev left).length_archive_le order
  constructor
  · intro e
    have total := congrArg List.length e
    rw [length_overlay] at total
    have combined : left.combined.length ≤ (order.archive (dev.staged .clean)).length :=
      total ▸ le_max_right _ _
    rw [overlay_eq_left_iff.mpr (combined.trans longer)] at e
    exact ⟨archive_staged_iff.mp e, length_archive_clean order dev ▸ combined⟩
  · rintro ⟨staged, combined⟩
    have e : order.archive (dev.staged left) = order.archive (dev.staged .clean) :=
      archive_staged_iff.mpr staged
    rw [← length_archive_clean order, ← e] at combined
    rw [overlay_eq_left_iff.mpr combined, e]

/-- A phone that holds nothing is harmless. -/
lemma harmless_clean (dev : Device) : Harmless dev .clean :=
  ⟨fun _ h => absurd h Finmap.notMem_empty, Nat.zero_le _⟩

/-! ### The order of the logs -/

/-- A log as the archive shows it: its header and its content. -/
def Device.shown (dev : Device) (d_name : FileName) : PosixTarHeader × List UInt8 :=
  let content := contentOf (dev.staged .clean) d_name
  (tarHeader d_name (UInt64.ofNat content.length), content)

/-- Two runs list the logs alike: what they show is the same in each place. With a log whose size
the header does not hold, another order may make the same blocks. -/
def ListedAlike (dev : Device) (order order' : Listing) : Prop :=
  (order.readdir dev.names).map dev.shown = (order'.readdir dev.names).map dev.shown ∨
    (∃ step ∈ dev.steps, 8 ^ 12 ≤ step.bytes.length) ∧
      order.archive (dev.staged .clean) = order'.archive (dev.staged .clean)

/-- Parts that end where they say are found again in what they were joined to, in the same order. -/
lemma map_eq_of_flatMap_eq {α β γ : Type} {f : α → List β} {g : α → γ} {l l' : List α}
    (nonempty : ∀ x ∈ l ++ l', f x ≠ [])
    (ends : ∀ x ∈ l, ∀ y ∈ l', ∀ s t, f x ++ s = f y ++ t → g x = g y ∧ s = t)
    (h : l.flatMap f = l'.flatMap f) : l.map g = l'.map g := by
  induction l generalizing l' with
  | nil =>
    cases l' with
    | nil => exact rfl
    | cons y l' =>
      rw [List.flatMap_nil, List.flatMap_cons] at h
      exact absurd (List.append_eq_nil_iff.mp h.symm).1 (nonempty y (by simp))
  | cons x l ih =>
    cases l' with
    | nil =>
      rw [List.flatMap_nil, List.flatMap_cons] at h
      exact absurd (List.append_eq_nil_iff.mp h).1 (nonempty x (by simp))
    | cons y l' =>
      rw [List.flatMap_cons, List.flatMap_cons] at h
      obtain ⟨first, rest⟩ := ends x (by simp) y (by simp) _ _ h
      rw [List.map_cons, List.map_cons, first]
      refine congrArg _ (ih (fun z hz => nonempty z ?_) (fun x hx y hy => ends x ?_ y ?_) rest)
      · rcases List.mem_append.mp hz with hz | hz <;> simp [hz]
      · exact List.mem_cons_of_mem _ hx
      · exact List.mem_cons_of_mem _ hy

/-- Where the header holds the size, a member ends where it says. -/
lemma encode_ends {d_name d_name' : FileName} {content content' s t : List UInt8}
    (small : content.length < 8 ^ 12) (small' : content'.length < 8 ^ 12)
    (h : (memberOf d_name content).encode ++ s = (memberOf d_name' content').encode ++ t) :
    tarHeader d_name (UInt64.ofNat content.length) =
        tarHeader d_name' (UInt64.ofNat content'.length) ∧ content = content' ∧ s = t := by
  simp only [Member.encode, List.append_assoc] at h
  obtain ⟨header, rest⟩ := List.append_inj h (by
    rw [PosixTarHeader.length_eq, PosixTarHeader.length_eq])
  have lt : content.length < 2 ^ 63 := small.trans (by norm_num)
  have lt' : content'.length < 2 ^ 63 := small'.trans (by norm_num)
  have size := congrArg sizeField header
  rw [sizeField_tarHeader, sizeField_tarHeader, toNat_st_size d_name lt, toNat_st_size d_name' lt',
    promised_of_lt small, promised_of_lt small'] at size
  obtain ⟨body, rest⟩ := List.append_inj rest size
  have body : content = content' := body
  subst body
  refine ⟨?_, rfl, List.append_cancel_left rest⟩
  cases e : tarHeader d_name (UInt64.ofNat content.length)
  cases e' : tarHeader d_name' (UInt64.ofNat content.length)
  simp only [memberOf, e, e'] at header
  simp only [header]

/-- Two orders of the logs make the same archive exactly if they list the logs alike. -/
theorem archive_clean_eq_iff {order' : Listing} :
    order.archive (dev.staged .clean) = order'.archive (dev.staged .clean) ↔
      ListedAlike dev order order' := by
  have archive (order : Listing) : order.archive (dev.staged .clean) =
      ((order.readdir dev.names).map dev.shown).flatMap fun shown =>
        shown.1.bytes ++ shown.2 ++
          List.replicate (roundUp shown.2.length - shown.2.length) 0 := by
    rw [List.flatMap_map, ← keys_clean]
    exact rfl
  constructor
  · intro e
    by_cases large : ∃ step ∈ dev.steps, 8 ^ 12 ≤ step.bytes.length
    · exact .inr ⟨large, e⟩
    · left
      have small {order : Listing} {d_name : FileName} (h : d_name ∈ order.readdir dev.names) :
          (contentOf (dev.staged .clean) d_name).length < 8 ^ 12 := by
        obtain ⟨step, hs, rfl⟩ := mem_names.mp ((order.mem_readdir _ _).mp h)
        rw [content_clean hs]
        by_contra long
        exact large ⟨step, hs, not_lt.mp long⟩
      rw [Listing.archive, Listing.archive, keys_clean] at e
      refine map_eq_of_flatMap_eq (fun d_name _ empty => ?_) (fun x hx y hy s t h => ?_) e
      · have length := congrArg List.length empty
        rw [Member.length_encode, List.length_nil] at length
        omega
      · obtain ⟨header, content, rest⟩ := encode_ends (small hx) (small hy) h
        exact ⟨Prod.ext header content, rest⟩
  · rintro (same | ⟨-, e⟩)
    · rw [archive, archive, same]
    · exact e

end

/-! ### A device with one log -/

instance : IsTrans FileName fun a b => a.bytes ≤ b.bytes := ⟨fun _ _ _ => List.le_trans⟩
instance : Std.Total fun a b : FileName => a.bytes ≤ b.bytes := ⟨fun _ _ => List.le_total _ _⟩
instance : Std.Antisymm fun a b : FileName => a.bytes ≤ b.bytes := by
  refine ⟨fun a b h h' => ?_⟩
  cases a
  cases b
  simpa using List.le_antisymm h h'

/-- The order of the bytes of the names. -/
def Listing.byName : Listing where
  readdir names := names.sort fun a b => a.bytes ≤ b.bytes
  readdir_nodup names := names.sort_nodup _
  mem_readdir _ _ := Finset.mem_sort _

/-- Everything completes, one byte a read, and directories are listed by the names. -/
def Io.bytewise : Io where
  toListing := .byName
  opendir := true
  readable _ := true
  opens _ := true
  split _ bytes := bytes.map ([·])
  flatten_split _ bytes := by
    rw [← List.flatMap_def, List.flatMap_singleton']
  split_le _ bytes := by
    intro c h
    obtain ⟨b, -, rfl⟩ := List.mem_map.mp h
    exact ⟨Nat.zero_lt_one, Nat.one_le_two_pow (n := 16)⟩
  writes _ := .full
  modem := .full
  st_size := 0

/-- Reading one byte at a time is complete. -/
lemma Io.complete_bytewise : Io.bytewise.Complete where
  opendir := rfl
  readable _ := rfl
  opens _ := rfl
  flatten_split _ bytes := by
    show (bytes.map ([·])).flatten = bytes
    rw [← List.flatMap_def, List.flatMap_singleton']
  writes _ := Writes.complete_full
  modem := Writes.complete_full

/-- A user build with diag logging off, whose only log is the one of the last power-on. -/
def userBuild (poweronLog : Option (List UInt8))
    (h : ∀ bytes ∈ poweronLog, bytes.length < 2 ^ 63) : Device where
  modemLogDir := ascii "/data/vendor/radio"
  modemLogDir_le := by decide
  filePrefix := ascii "modem_"
  diagLogEnabled := false
  diagMdlogNumber := 100
  isUserBuild := true
  tcpdumpEnabled := false
  tcpdumpNumber := 5
  file path := if path = diagPoweronLog.basename.path diagLogDir then poweronLog else none
  file_lt path bytes hf := by
    split at hf
    · exact h bytes hf
    · exact nomatch hf
  scandir _ := none
  scandir_nodup _ _ hs := nomatch hs
  ipaLog := []
  ipaLog_lt := Nat.two_pow_pos 63

/-- A user build copies only the power-on log. -/
lemma steps_userBuild {poweronLog : Option (List UInt8)} {h} :
    (userBuild poweronLog h).steps =
      (poweronLog.map (⟨false, diagPoweronLog.basename, ·⟩)).toList := by
  simp [Device.steps, userBuild, Device.copyStep, diagPoweronLog]

/-- The archive of a user build on a clean phone holds only the power-on log. -/
lemma length_userBuild {order : Listing} {poweronLog : Option (List UInt8)} {h} :
    (order.archive ((userBuild poweronLog h).staged .clean)).length =
      (poweronLog.map blocks).getD 0 := by
  rw [length_archive_clean, steps_userBuild]
  cases poweronLog with
  | none => exact rfl
  | some log => exact Nat.add_zero _

/-- The user build with a power-on log. -/
def logged : Device := userBuild (some (ascii "boot")) (by decide)

/-- The user build with a shorter one. -/
def brief : Device := userBuild (some (ascii "off")) (by decide)

/-- The user build without any log. -/
def quiet : Device := userBuild none nofun

/-- Both properties are set. -/
lemma enabled_userBuild {poweronLog : Option (List UInt8)} {h} :
    ¬((userBuild poweronLog h).modemLogDir = [] ∨ (userBuild poweronLog h).filePrefix = []) := by
  have set : ¬(ascii "/data/vendor/radio" = [] ∨ ascii "modem_" = []) := by decide
  exact set

/-! ### All reports -/

/-- Let `P` be the complete runs that may come up, each with what it finds left behind and how it
reads, writes and lists; where one comes up that finds something, so does one that finds nothing.
All reports are the same exactly when nothing that is found shows and all runs list the logs alike,
and where no report is made. -/
theorem dumpModemThread_same_iff (dev : Device) (P : Leftovers → Io → Prop)
    (complete : ∀ left io, P left io → io.Complete)
    (clean : ∀ left io, P left io → P .clean io) :
    (∀ left left' io io', P left io → P left' io' →
        dumpModemThread io dev left = dumpModemThread io' dev left') ↔
      dev.modemLogDir = [] ∨ dev.filePrefix = [] ∨
        (∀ left io, P left io → Harmless dev left) ∧
          ∀ left left' io io', P left io → P left' io' →
            ListedAlike dev io.toListing io'.toListing := by
  by_cases off : dev.modemLogDir = [] ∨ dev.filePrefix = []
  · refine iff_of_true (fun left left' io io' h h' => ?_) (or_assoc.mp (.inl off))
    rw [dumpModemThread_complete (complete _ _ h), dumpModemThread_complete (complete _ _ h'),
      if_pos off, if_pos off]
  · have sent {io : Io} {left : Leftovers} (h : P left io) : dumpModemThread io dev left =
        overlay (io.archive (dev.staged left)) left.combined := by
      rw [dumpModemThread_complete (complete _ _ h), if_neg off]
    have sent_clean {io : Io} {left : Leftovers} (h : P left io) :
        dumpModemThread io dev .clean = io.archive (dev.staged .clean) :=
      (sent (clean _ _ h)).trans (overlay_nil _)
    rw [← or_assoc, or_iff_right off]
    constructor
    · intro same
      constructor
      · intro left io h
        have e := same left .clean io io h (clean _ _ h)
        rw [sent h, sent_clean h] at e
        exact archive_over_clean_iff.mp e
      · intro left left' io io' h h'
        have e := same .clean .clean io io' (clean _ _ h) (clean _ _ h')
        rw [sent_clean h, sent_clean h'] at e
        exact archive_clean_eq_iff.mp e
    · rintro ⟨harmless, alike⟩ left left' io io' h h'
      rw [sent h, sent h', archive_over_clean_iff.mpr (harmless left io h),
        archive_over_clean_iff.mpr (harmless left' io' h')]
      exact archive_clean_eq_iff.mpr (alike left left' io io' h h')

/-- What a complete dump of the logs leaves behind where it has found nothing. -/
lemma combined_leave (dev : Device) :
    (dev.leave .bytewise .clean).combined = Listing.byName.archive (dev.staged .clean) :=
  (archived_complete Io.complete_bytewise dev .clean).trans (overlay_nil _)

/-- Over what a dump of a shorter log has left behind, the report is the one of a clean run. -/
theorem brief_report_covered :
    dumpModemThread .bytewise logged (brief.leave .bytewise .clean) =
      dumpModemThread .bytewise logged .clean := by
  refine (dumpModemThread_same_iff logged
    (fun left io => (left = brief.leave .bytewise .clean ∨ left = .clean) ∧ io = .bytewise)
    (fun _ _ h => h.2 ▸ Io.complete_bytewise) (fun _ _ h => ⟨.inr rfl, h.2⟩)).mpr
    (.inr (.inr ⟨?_, ?_⟩)) _ _ _ _ ⟨.inl rfl, rfl⟩ ⟨.inr rfl, rfl⟩
  · rintro left io ⟨rfl | rfl, -⟩
    · constructor
      · intro d_name h
        have staged : (brief.leave .bytewise .clean).modem_log = brief.staged .clean :=
          stage_eq_staged Io.complete_bytewise brief .clean
        rw [staged, ← Finmap.mem_keys, keys_clean] at h
        obtain ⟨step, hs, rfl⟩ := mem_names.mp h
        have content : contentOf (brief.leave .bytewise .clean).modem_log step.name = step.bytes :=
          staged ▸ content_clean hs
        have only : step = ⟨false, diagPoweronLog.basename, ascii "off"⟩ := by
          rw [brief, steps_userBuild] at hs
          exact List.mem_singleton.mp hs
        refine ⟨⟨false, diagPoweronLog.basename, ascii "boot"⟩, ?_, ?_, .inr ?_⟩
        · rw [logged, steps_userBuild]
          exact List.mem_singleton_self _
        · rw [only]
        · rw [content, only]
          exact .inl (by decide)
      · rw [combined_leave, brief, length_userBuild, logged, steps_userBuild]
        decide
    · exact harmless_clean logged
  · rintro left left' io io' ⟨-, rfl⟩ ⟨-, rfl⟩
    exact .inl rfl

/-- A report that an earlier dump did not remove is sent again by one that has no logs. -/
theorem earlier_report_sent :
    Io.bytewise.Complete ∧
      dumpModemThread .bytewise quiet (logged.leave .bytewise .clean) =
        dumpModemThread .bytewise logged .clean ∧
      dumpModemThread .bytewise quiet (logged.leave .bytewise .clean) ≠
        dumpModemThread .bytewise quiet .clean := by
  have earlier : dumpModemThread .bytewise logged .clean =
      Listing.byName.archive (logged.staged .clean) := by
    rw [dumpModemThread_complete Io.complete_bytewise, logged, if_neg enabled_userBuild]
    exact overlay_nil _
  have later (left : Leftovers) : dumpModemThread .bytewise quiet left =
      overlay (Listing.byName.archive left.modem_log) left.combined := by
    rw [dumpModemThread_complete Io.complete_bytewise, quiet, if_neg enabled_userBuild,
      Device.staged, steps_userBuild]
    exact rfl
  have again : dumpModemThread .bytewise quiet (logged.leave .bytewise .clean) =
      Listing.byName.archive (logged.staged .clean) := by
    have staged : (logged.leave .bytewise .clean).modem_log = logged.staged .clean :=
      stage_eq_staged Io.complete_bytewise logged .clean
    rw [later, combined_leave, staged]
    exact overlay_eq_left_iff.mpr le_rfl
  refine ⟨Io.complete_bytewise, again.trans earlier.symm, fun e => ?_⟩
  have none : (Leftovers.clean).modem_log = quiet.staged .clean := by
    rw [Device.staged, quiet, steps_userBuild]
    exact rfl
  rw [again, later, none] at e
  have length := congrArg List.length (e.trans (overlay_nil _))
  rw [logged, length_userBuild, quiet, length_userBuild] at length
  exact absurd length (by decide)

end Redfin.Dumpstate
