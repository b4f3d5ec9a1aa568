import Mathlib.Data.List.Induction
import Mathlib.Data.List.Nodup
import Mathlib.Data.List.TakeWhile
import Redfin.Usb.Status

/-!
# The ports found in the Type-C directory

What the loop of `getTypeCPortNamesHelper` makes of a listing: every link gives the map a key, its
own name or for a partner the text in front of the first dash, and a key is connected if one of its
links is a partner (`mem_ports_iff`). The order of the listing does not matter for that.

The kernel's names for the links of a port, its partner, its cable and its plugs are told apart by
what follows the dash. The code looks for `-partner` only: a partner is attributed to its port, but
a cable or a plug becomes a port of its own (`ports_of_class_iff`).
-/

set_option linter.unusedSectionVars false

namespace Redfin.Usb

open Program Bytes

section

variable [Libbase]

/-- The key under which a link of this name enters the map. -/
def linkKey (d_name : String) : String :=
  if hasPartner d_name then (strtok '-' d_name).headD "" else d_name

/-- The map that the loop builds from a listing. -/
def ports (entries : List Dirent) : List (String × Bool) := entries.foldl addEntry []

section

variable {names : List (String × Bool)} {ep : Dirent} {name k : String}

/-- The inserted name is the only new one. -/
lemma mem_keys_insertName :
    k ∈ (insertName names name).map (·.1) ↔ k ∈ names.map (·.1) ∨ name = k := by
  unfold insertName
  split
  · rename_i found
    refine ⟨.inl, fun h => ?_⟩
    rcases h with old | rfl
    · exact old
    · exact found
  · rw [List.map_append, List.mem_append, List.map_singleton, List.mem_singleton, eq_comm]

/-- Marking a port as connected gives the same names as inserting it. -/
lemma keys_connectName :
    (connectName names name).map (·.1) = (insertName names name).map (·.1) := by
  rw [connectName, List.map_map]
  apply List.map_congr_left
  rintro ⟨other, connected⟩ -
  by_cases same : other = name
  · simp [same]
  · simp [same]

/-- A link adds its key. -/
lemma mem_keys_addEntry :
    k ∈ (addEntry names ep).map (·.1) ↔
      k ∈ names.map (·.1) ∨ ep.isLink = true ∧ linkKey ep.name = k := by
  unfold addEntry linkKey
  cases ep.isLink with
  | false => simp
  | true =>
    cases hasPartner ep.name with
    | false => simpa using mem_keys_insertName
    | true =>
      rw [if_pos rfl, if_pos rfl, if_pos rfl, keys_connectName, mem_keys_insertName]
      simp

/-- Keys are not repeated. -/
lemma nodup_addEntry (h : (names.map (·.1)).Nodup) : ((addEntry names ep).map (·.1)).Nodup := by
  have insert (name : String) : ((insertName names name).map (·.1)).Nodup := by
    unfold insertName
    split
    · exact h
    · rename_i fresh
      rw [List.map_append, List.map_singleton]
      refine List.nodup_append.mpr ⟨h, List.nodup_singleton name, ?_⟩
      rintro a old b new rfl
      have same : a = name := by simpa using new
      exact fresh (same ▸ old)
  unfold addEntry
  split
  · split
    · rw [keys_connectName]
      exact insert _
    · exact insert _
  · exact h

/-- Only a partner connects its key. -/
lemma mem_connected_addEntry :
    (k, true) ∈ addEntry names ep ↔
      (k, true) ∈ names ∨ ep.isLink = true ∧ hasPartner ep.name = true ∧ linkKey ep.name = k := by
  have insert (name : String) : (k, true) ∈ insertName names name ↔ (k, true) ∈ names := by
    unfold insertName
    split
    · exact Iff.rfl
    · simp
  unfold addEntry linkKey
  cases ep.isLink with
  | false => simp
  | true =>
    cases hasPartner ep.name with
    | false => simpa using insert ep.name
    | true =>
      simp only [if_true, connectName, List.mem_map, true_and]
      generalize (strtok '-' ep.name).headD "" = port
      constructor
      · rintro ⟨⟨other, connected⟩, found, eq⟩
        by_cases same : other = port
        · rw [if_pos same] at eq
          exact .inr (Prod.mk.inj eq).1
        · rw [if_neg same] at eq
          exact .inl ((insert port).mp (eq ▸ found))
      · rintro (old | rfl)
        · refine ⟨(k, true), (insert port).mpr old, ?_⟩
          split
          · rename_i same
            rw [← same]
          · exact rfl
        · have there : port ∈ (insertName names port).map (·.1) :=
            mem_keys_insertName.mpr (.inr rfl)
          obtain ⟨found, mem, eq⟩ := List.mem_map.mp there
          exact ⟨found, mem, if_pos eq⟩

end

/-! ## The whole listing -/

section

variable (entries : List Dirent)

/-- One more entry of the directory. -/
lemma ports_append_singleton (ep : Dirent) :
    ports (entries ++ [ep]) = addEntry (ports entries) ep := by
  rw [ports, List.foldl_append]
  exact rfl

/-- No name stands twice in the map. -/
lemma nodup_ports : ((ports entries).map (·.1)).Nodup := by
  induction entries using List.reverseRecOn with
  | nil => exact List.nodup_nil
  | append_singleton entries ep ih =>
    rw [ports_append_singleton]
    exact nodup_addEntry ih

/-- The keys are those of the links. -/
lemma mem_keys_ports (k : String) :
    k ∈ (ports entries).map (·.1) ↔ ∃ ep ∈ entries, ep.isLink = true ∧ linkKey ep.name = k := by
  induction entries using List.reverseRecOn with
  | nil => simp [ports]
  | append_singleton entries ep ih =>
    rw [ports_append_singleton, mem_keys_addEntry, ih]
    simp only [List.mem_append, List.mem_singleton, or_and_right, exists_or, exists_eq_left]

/-- A key is connected if one of its links is a partner. -/
lemma mem_connected_ports (k : String) :
    (k, true) ∈ ports entries ↔
      ∃ ep ∈ entries, ep.isLink = true ∧ hasPartner ep.name = true ∧ linkKey ep.name = k := by
  induction entries using List.reverseRecOn with
  | nil => simp [ports]
  | append_singleton entries ep ih =>
    rw [ports_append_singleton, mem_connected_addEntry, ih]
    simp only [List.mem_append, List.mem_singleton, or_and_right, exists_or, exists_eq_left]

end

/-- In a list with one pair for each key, a key has one value. -/
lemma snd_eq_of_nodup_keys {names : List (String × Bool)} (h : (names.map (·.1)).Nodup)
    {k : String} {b b' : Bool} (hb : (k, b) ∈ names) (hb' : (k, b') ∈ names) : b = b' := by
  have same := List.inj_on_of_nodup_map h hb hb' rfl
  exact (Prod.mk.inj same).2

/-- What the map holds, whatever the order of the listing. -/
theorem mem_ports_iff (entries : List Dirent) (k : String) (b : Bool) :
    (k, b) ∈ ports entries ↔
      (∃ ep ∈ entries, ep.isLink = true ∧ linkKey ep.name = k) ∧
        (b = true ↔
          ∃ ep ∈ entries, ep.isLink = true ∧ hasPartner ep.name = true ∧ linkKey ep.name = k) := by
  rw [← mem_keys_ports, ← mem_connected_ports]
  constructor
  · intro found
    refine ⟨List.mem_map_of_mem (f := (·.1)) found, fun connected => connected ▸ found, ?_⟩
    exact fun connected => snd_eq_of_nodup_keys (nodup_ports entries) found connected
  · rintro ⟨key, connected⟩
    obtain ⟨⟨_, b'⟩, found, rfl⟩ := List.mem_map.mp key
    have same : b = b' := by
      apply Bool.eq_iff_iff.mpr
      rw [connected]
      refine ⟨fun up => snd_eq_of_nodup_keys (nodup_ports entries) found up, ?_⟩
      rintro rfl
      exact found
    rw [same]
    exact found

/-- Two listings of the same entries give the same map. -/
theorem perm_ports {entries entries' : List Dirent} (h : entries.Perm entries') :
    (ports entries).Perm (ports entries') := by
  have distinct (entries : List Dirent) : (ports entries).Nodup :=
    List.Nodup.of_map (·.1) (nodup_ports entries)
  rw [List.perm_ext_iff_of_nodup (distinct _) (distinct _)]
  rintro ⟨k, b⟩
  simp only [mem_ports_iff, h.mem_iff]

/-! ## The names of the kernel's Type-C class -/

/-- The name of a port: not empty, without a dash. -/
@[ext] structure PortName where
  text : List Char
  ne_nil : text ≠ []
  plain : ∀ c ∈ text, c ≠ '-' ∧ c ≠ '\x00'

/-- A link of the class. -/
inductive Link where
  | port (p : PortName)
  | partner (p : PortName)
  | cable (p : PortName)
  | plug (p : PortName) (i : ℕ)

/-- The port that a link belongs to. -/
def Link.owner : Link → PortName
  | .port p => p
  | .partner p => p
  | .cable p => p
  | .plug p _ => p

/-- What stands behind the dash. -/
def Link.suffix : Link → Option (List Char)
  | .port _ => none
  | .partner _ => some "partner".toList
  | .cable _ => some "cable".toList
  | .plug _ i => some ("plug".toList ++ i.repr.toList)

def Link.name (l : Link) : String :=
  String.ofList (l.owner.text ++ l.suffix.elim [] fun suffix => '-' :: suffix)

/-- A listing of the Type-C directory: its links are those of the class, in any order and between
any other entries, and a partner, a cable or a plug is there only with its port. -/
structure TypecClass where
  entries : List Dirent
  links : List Link
  named : (entries.filter (·.isLink)).map (·.name) = links.map Link.name
  closed : ∀ l ∈ links, .port l.owner ∈ links

/-- A search for a text that begins with a dash finds nothing in front of the first dash. -/
lemma any_tails_append {l : List Char} (h : ∀ c ∈ l, c ≠ '-') (text rest : List Char) :
    (l ++ rest).tails.any ('-' :: text).isPrefixOf = rest.tails.any ('-' :: text).isPrefixOf := by
  induction l with
  | nil => rfl
  | cons c l ih =>
    obtain ⟨other, plain⟩ := List.forall_mem_cons.mp h
    have no : ('-' :: text).isPrefixOf (c :: (l ++ rest)) = false := by
      rw [List.isPrefixOf_cons_cons, beq_false_of_ne (Ne.symm other), Bool.false_and]
    rw [List.cons_append, List.tails, List.any_cons, no, Bool.false_or, ih plain]

/-- In a text without a dash no tail begins with one. -/
lemma any_tails_plain {l : List Char} (h : ∀ c ∈ l, c ≠ '-') (text : List Char) :
    l.tails.any ('-' :: text).isPrefixOf = false := by
  have whole := any_tails_append h text []
  rwa [List.append_nil] at whole

/-- What follows the port in a link's name has no dash in it. -/
lemma Link.suffix_plain {l : Link} {suffix : List Char} (h : l.suffix = some suffix) :
    ∀ c ∈ suffix, c ≠ '-' := by
  cases l with
  | port p => exact absurd h.symm (Option.some_ne_none suffix)
  | partner p =>
    obtain rfl := Option.some.inj h
    simp
  | cable p =>
    obtain rfl := Option.some.inj h
    simp
  | plug p i =>
    obtain rfl := Option.some.inj h
    intro c hc
    rcases List.mem_append.mp hc with plug | digit
    · have all : ∀ c ∈ "plug".toList, c ≠ '-' := by simp
      exact all c plug
    · rintro rfl
      rw [Nat.toList_repr] at digit
      have isDigit := Nat.isDigit_of_mem_toDigits (by decide) (by decide) digit
      exact absurd isDigit (by decide)

/-- A link contains `-partner` if it is one. -/
lemma Link.hasPartner_name (l : Link) : hasPartner l.name = true ↔ l = .partner l.owner := by
  have plain : ∀ c ∈ l.owner.text, c ≠ '-' := fun c hc => (l.owner.plain c hc).1
  have found : hasPartner l.name =
      (l.suffix.elim [] fun suffix => '-' :: suffix).tails.any
        ('-' :: "partner".toList).isPrefixOf := by
    rw [hasPartner, Link.name, String.toList_ofList]
    exact any_tails_append plain _ _
  have behind {suffix : List Char} (h : l.suffix = some suffix) :
      hasPartner l.name = "partner".toList.isPrefixOf suffix := by
    rw [found, h, Option.elim_some, List.tails, List.any_cons,
      any_tails_plain (Link.suffix_plain h), Bool.or_false, List.isPrefixOf_cons_cons]
    exact Bool.true_and _
  cases l with
  | port p =>
    rw [found]
    exact iff_of_false Bool.false_ne_true (by simp [Link.owner])
  | partner p =>
    rw [behind rfl]
    exact iff_of_true (by decide) rfl
  | cable p =>
    rw [behind rfl]
    exact iff_of_false (by decide) (by simp [Link.owner])
  | plug p i =>
    rw [behind rfl]
    exact iff_of_false Bool.false_ne_true (by simp [Link.owner])

/-- A partner enters the map under its port. -/
lemma Link.linkKey_partner (p : PortName) :
    linkKey (Link.partner p).name = (Link.port p).name := by
  have noNul : ∀ c ∈ p.text ++ '-' :: "partner".toList, c ≠ '\x00' := by
    intro c hc
    rcases List.mem_append.mp hc with port | rest
    · exact (p.plain c port).2
    · have all : ∀ c ∈ '-' :: "partner".toList, c ≠ '\x00' := by simp
      exact all c rest
  have whole : (p.text ++ '-' :: "partner".toList).takeWhile (· ≠ '\x00') =
      p.text ++ '-' :: "partner".toList :=
    List.takeWhile_eq_self_iff.mpr fun c hc => by simpa using noNul c hc
  rw [linkKey, if_pos ((Link.hasPartner_name _).mpr rfl), strtok, Link.name, String.toList_ofList]
  show ((((p.text ++ '-' :: "partner".toList).takeWhile (· ≠ '\x00')).splitOnP
    (· == '-')).filter _ |>.map String.ofList).headD "" = _
  rw [whole, List.splitOnP_append_cons_of_forall_mem (fun c hc => by simpa using (p.plain c hc).1)
    '-' rfl, List.filter_cons_of_pos (by simpa using p.ne_nil), List.map_cons, List.headD_cons]
  exact congrArg String.ofList (List.append_nil p.text).symm

/-- Every other link enters it under its own name. -/
lemma Link.linkKey_other {l : Link} (h : l ≠ .partner l.owner) : linkKey l.name = l.name :=
  if_neg fun partner => h ((Link.hasPartner_name l).mp partner)

/-- The link of a port has its name. -/
lemma Link.name_port (p : PortName) : (Link.port p).name = String.ofList p.text :=
  congrArg String.ofList (List.append_nil p.text)

/-- Ports have different names. -/
lemma Link.port_inj {p q : PortName} (h : (Link.port p).name = (Link.port q).name) : p = q := by
  rw [Link.name_port, Link.name_port, String.ofList_inj] at h
  exact PortName.ext h

/-- Only a port has a name without a dash. -/
lemma Link.eq_port_of_name {l : Link} {p : PortName} (h : l.name = (Link.port p).name) :
    l = .port l.owner := by
  rw [Link.name_port, Link.name, String.ofList_inj] at h
  cases suffix : l.suffix with
  | none =>
    cases l with
    | port p => exact rfl
    | partner p => exact absurd suffix (Option.some_ne_none _)
    | cable p => exact absurd suffix (Option.some_ne_none _)
    | plug p i => exact absurd suffix (Option.some_ne_none _)
  | some text =>
    have dash : '-' ∈ p.text := by
      rw [← h, suffix]
      exact List.mem_append_right _ List.mem_cons_self
    exact absurd rfl (p.plain '-' dash).1

namespace TypecClass

variable (t : TypecClass)

/-- The links of a listing by their names. -/
lemma exists_entry_iff (P : String → Prop) :
    (∃ ep ∈ t.entries, ep.isLink = true ∧ P ep.name) ↔ ∃ l ∈ t.links, P l.name := by
  have names (name : String) :
      name ∈ (t.entries.filter (·.isLink)).map (·.name) ↔ name ∈ t.links.map Link.name := by
    rw [t.named]
  constructor
  · rintro ⟨ep, listed, isLink, holds⟩
    have there := (names ep.name).mp
      (List.mem_map_of_mem (List.mem_filter.mpr ⟨listed, isLink⟩))
    obtain ⟨l, mem, eq⟩ := List.mem_map.mp there
    exact ⟨l, mem, eq ▸ holds⟩
  · rintro ⟨l, mem, holds⟩
    obtain ⟨ep, kept, eq⟩ := List.mem_map.mp ((names l.name).mpr (List.mem_map_of_mem mem))
    obtain ⟨listed, isLink⟩ := List.mem_filter.mp kept
    exact ⟨ep, listed, isLink, eq ▸ holds⟩

/-- A port is connected exactly if its partner is there. -/
lemma connected_iff (p : PortName) :
    (∃ ep ∈ t.entries, ep.isLink = true ∧ hasPartner ep.name = true ∧
      linkKey ep.name = (Link.port p).name) ↔ .partner p ∈ t.links := by
  rw [t.exists_entry_iff fun name => hasPartner name = true ∧ linkKey name = (Link.port p).name]
  constructor
  · rintro ⟨l, mem, partner, key⟩
    rw [Link.hasPartner_name] at partner
    rw [partner, Link.linkKey_partner] at key
    rw [partner, Link.port_inj key] at mem
    exact mem
  · exact fun mem => ⟨_, mem, (Link.hasPartner_name _).mpr rfl, Link.linkKey_partner p⟩

end TypecClass

/-- The keys of the map are the ports and nothing else, and a port is mapped to whether its partner
is there, if and only if the listing has no cable and no plug. -/
theorem ports_of_class_iff (t : TypecClass) :
    ((∀ k, k ∈ (ports t.entries).map (·.1) ↔
        ∃ p, Link.port p ∈ t.links ∧ (Link.port p).name = k) ∧
      ∀ p b, Link.port p ∈ t.links →
        (((Link.port p).name, b) ∈ ports t.entries ↔ (b = true ↔ Link.partner p ∈ t.links))) ↔
    ∀ l ∈ t.links, l = .port l.owner ∨ l = .partner l.owner := by
  have keys (k : String) : k ∈ (ports t.entries).map (·.1) ↔ ∃ l ∈ t.links, linkKey l.name = k := by
    rw [mem_keys_ports, t.exists_entry_iff (linkKey · = k)]
  constructor
  · rintro ⟨only, -⟩ l mem
    by_cases partner : l = .partner l.owner
    · exact .inr partner
    · obtain ⟨p, -, name⟩ := (only _).mp ((keys _).mpr ⟨l, mem, rfl⟩)
      rw [Link.linkKey_other partner] at name
      exact .inl (Link.eq_port_of_name name.symm)
  · intro plain
    have only (k : String) : k ∈ (ports t.entries).map (·.1) ↔
        ∃ p, Link.port p ∈ t.links ∧ (Link.port p).name = k := by
      rw [keys]
      constructor
      · rintro ⟨l, mem, rfl⟩
        refine ⟨l.owner, t.closed l mem, ?_⟩
        rcases plain l mem with port | partner
        · rw [port, Link.linkKey_other (by simp)]
          exact rfl
        · rw [partner, Link.linkKey_partner]
          exact rfl
      · rintro ⟨p, mem, rfl⟩
        exact ⟨_, mem, Link.linkKey_other (by simp)⟩
    refine ⟨only, fun p b mem => ?_⟩
    rw [mem_ports_iff, t.connected_iff, ← mem_keys_ports, only]
    exact and_iff_right ⟨p, mem, rfl⟩

/-- The name of the first port. -/
def port0 : PortName := ⟨"port0".toList, by decide, by simp⟩

/-- A port with its cable. -/
def cableClass : TypecClass where
  entries := [⟨".", false⟩, ⟨"port0-cable", true⟩, ⟨"port0", true⟩]
  links := [.cable port0, .port port0]
  named := by decide
  closed := by
    intro l mem
    rcases List.mem_cons.mp mem with rfl | mem
    · exact List.mem_cons_of_mem _ List.mem_cons_self
    · rw [List.mem_singleton.mp mem]
      exact List.mem_cons_of_mem _ List.mem_cons_self

end

open Libbase.Documented in
/-- A cable becomes a port. -/
theorem cable_is_port :
    "port0-cable" ∈ (ports cableClass.entries).map (·.1) ∧
      ¬∃ p, Link.port p ∈ cableClass.links ∧ (Link.port p).name = "port0-cable" := by
  refine ⟨by decide +kernel, ?_⟩
  rintro ⟨p, mem, name⟩
  have cable : (Link.cable port0).name = (Link.port p).name := by
    rw [name]
    decide
  exact absurd (Link.eq_port_of_name cable) (by simp)

end Redfin.Usb
