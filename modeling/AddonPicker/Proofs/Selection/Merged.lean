import Mathlib.Data.List.Dedup
import Mathlib.Data.List.Induction
import AddonPicker.Proofs.Selection.Merge

/-!
# What a merge makes of a registry

A registry has one entry per name. A merge brings the resolved choices to its end, in the order of
the last choice under each name. Whatever is replaced, a pick of the user or an earlier choice,
hands on its backlinks. It is flagged unselected, which nobody else is touched by if no two entries
hold the same version.
-/

namespace AddonPicker

/-- The names that choices carry, in order. -/
def Choice.names (cs : List Choice) : List String :=
  cs.map (·.pack.name)

/-- Last occurrences, with one more element at the end. -/
theorem dedup_concat {α : Type} [DecidableEq α] (xs : List α) (a : α) :
    (xs ++ [a]).dedup = xs.dedup.filter (· ≠ a) ++ [a] := by
  induction xs with
  | nil => simp
  | cons x xs ih =>
      rw [List.cons_append]
      by_cases later : x ∈ xs
      · rw [List.dedup_cons_of_mem (List.mem_append_left _ later), List.dedup_cons_of_mem later, ih]
      · by_cases last : x = a
        · subst last
          rw [List.dedup_cons_of_mem (by simp), List.dedup_cons_of_notMem later, ih]
          simp
        · have new : x ∉ xs ++ [a] := by simp [later, last]
          rw [List.dedup_cons_of_notMem new, List.dedup_cons_of_notMem later, ih]
          simp [last]

/-- A version as it is once its flag is set. -/
def Edited.flagged (selected : Bool) (e : Edited Version) : Edited Version :=
  { e with
    base := { e.base with isSelected := selected }
    edits := e.edits.filter (·.1 != Version.isSelectedField.name) }

/-- A version with the backlinks of one that it replaces: those that it has stay in front, and each
other one is added once. -/
theorem Version.foldl_link (ids : List AddonId) (v : Version) :
    ∃ added, ids.foldl (fun v id => v.link id) v =
        { v with requiredBy := v.requiredBy ++ added } ∧
      added.Nodup ∧ (∀ id ∈ added, id ∉ v.requiredBy) ∧
      ∀ id, id ∈ v.requiredBy ++ added ↔ id ∈ v.requiredBy ∨ id ∈ ids := by
  induction ids generalizing v with
  | nil => exact ⟨[], by simp, List.nodup_nil, by simp, by simp⟩
  | cons a later ih =>
      rw [List.foldl_cons, Version.link]
      by_cases known : a ∈ v.requiredBy
      · rw [if_pos (List.contains_iff_mem.mpr known)]
        obtain ⟨added, linked, nodup, fresh, members⟩ := ih v
        refine ⟨added, linked, nodup, fresh, fun id => ?_⟩
        rw [members, List.mem_cons]
        constructor
        · exact Or.imp_right .inr
        · rintro (own | rfl | among)
          · exact .inl own
          · exact .inl known
          · exact .inr among
      · rw [if_neg (mt List.contains_iff_mem.mp known)]
        obtain ⟨added, linked, nodup, fresh, members⟩ :=
          ih { v with requiredBy := v.requiredBy ++ [a] }
        simp only [List.append_assoc, List.cons_append, List.nil_append, List.mem_append,
          List.mem_cons, not_or] at linked fresh members
        refine ⟨a :: added, linked, List.nodup_cons.mpr ⟨?_, nodup⟩, ?_, fun id => ?_⟩
        · exact fun again => (fresh a again).2.1 rfl
        · intro id among
          rcases List.mem_cons.mp among with rfl | among
          · exact known
          · exact (fresh id among).1
        · simp only [List.mem_append, List.mem_cons, members id]
          simp only [or_assoc, List.not_mem_nil, false_or]

namespace Selection

/-- One entry per name, and a stored version for every entry. -/
structure IsRegistry (s : Selection) : Prop where
  names : s.names.Nodup
  known : ∀ e ∈ s.entries, e.version < s.store.versions.length

/-- No two entries hold the same version. -/
def HasOwnVersions (s : Selection) : Prop :=
  (s.entries.map (·.version)).Nodup

instance (s : Selection) : Decidable s.HasOwnVersions :=
  inferInstanceAs (Decidable (s.entries.map (·.version)).Nodup)

/-- The backlinks that are handed on under a name: those of the entry that had it, and those of the
choices that were merged under it. -/
def HandsOn (s : Selection) (cs : List Choice) (name : String) (id : AddonId) : Prop :=
  (∃ e ∈ s.entries, e.pack.name = name ∧ id ∈ s.store.requiredBy e.version) ∨
    ∃ c ∈ cs, c.pack.name = name ∧ id ∈ c.version.requiredBy

/-- The entry of a choice that was merged into a selection after others. A version that nobody else
held is put into the store after those of the others. -/
def entryOf (s : Selection) (before : List Choice) (c : Choice) : Entry where
  pack := c.pack
  version := c.shared.getD (s.store.versions.length + before.countP (·.shared.isNone))
  indexed := .bool true

/-- Choices with versions of which no two are the same, and none is that of an entry. If others hold
one as well, the choice has it as the store has it. -/
structure IsApart (s : Selection) (cs : List Choice) : Prop where
  distinct : (cs.filterMap (·.shared)).Nodup
  stored : ∀ c ∈ cs, ∀ id, c.shared = some id → s.store.get? id = some (.ofBase c.version)
  unused : ∀ c ∈ cs, ∀ id, c.shared = some id → ∀ e ∈ s.entries, e.version ≠ id

/-- What choices make of the entries of a registry that they are merged into. -/
structure Arranged (s : Selection) (cs : List Choice) (s' : Selection) : Prop where
  /-- Names that no choice carries come first, in the order that they had. The names of the choices
  follow, each where it occurs last. -/
  names : s'.names = s.names.filter (· ∉ Choice.names cs) ++ (Choice.names cs).dedup
  entries : ∀ e, e ∈ s'.entries ↔ (e ∈ s.entries ∧ e.pack.name ∉ Choice.names cs) ∨
    ∃ before c later, cs = before ++ c :: later ∧ c.pack.name ∉ Choice.names later ∧
      e = s.entryOf before c

/-- What choices make of a registry that they are merged into. -/
structure Merged (s : Selection) (cs : List Choice) (s' : Selection) : Prop
    extends s.Arranged cs s' where
  /-- Entries that no choice replaces keep their versions as they are. -/
  kept : ∀ e ∈ s.entries, e.pack.name ∉ Choice.names cs →
    s'.store.get? e.version = s.store.get? e.version
  /-- The last choice under a name is selected, with all backlinks under the name. Those that the
  choice came with stay in front. -/
  taken : ∀ before c later, cs = before ++ c :: later → c.pack.name ∉ Choice.names later →
    ∃ added, s'.store.get? (s.entryOf before c).version =
        some (.ofBase { c.version with
          isSelected := true, requiredBy := c.version.requiredBy ++ added }) ∧
      added.Nodup ∧ (∀ id ∈ added, id ∉ c.version.requiredBy) ∧
      ∀ id, id ∈ c.version.requiredBy ++ added ↔
        id ∈ c.version.requiredBy ∨ s.HandsOn before c.pack.name id
  /-- An entry that is replaced leaves its version unselected. -/
  replaced : ∀ e ∈ s.entries, e.pack.name ∈ Choice.names cs →
    s'.store.get? e.version = (s.store.get? e.version).map (Edited.flagged false)
  /-- So does a choice that is followed by another one under its name. -/
  overtaken : ∀ before c later, cs = before ++ c :: later → c.pack.name ∈ Choice.names later →
    ∃ requiredBy, s'.store.get? (s.entryOf before c).version =
      some (.ofBase { c.version with isSelected := false, requiredBy })

variable {s s' : Selection} {c : Choice}

theorem get?_flag_self (id : VersionId) (selected : Bool) (store : Store) :
    (store.flag id selected).get? id = (store.get? id).map (Edited.flagged selected) :=
  Store.get?_modify_self id _ store

theorem get?_flag_of_ne {id other : VersionId} (differ : id ≠ other) (selected : Bool)
    (store : Store) : (store.flag id selected).get? other = store.get? other :=
  Store.get?_modify_of_ne differ _ store

/-- Nobody else holds the versions of choices that are a run's own. -/
theorem isApart_of_own {cs : List Choice} (own : ∀ c ∈ cs, c.shared = none) : s.IsApart cs := by
  have nothing : cs.filterMap (·.shared) = [] := List.filterMap_eq_nil_iff.mpr own
  refine ⟨nothing ▸ List.nodup_nil, fun c among id shared => ?_, fun c among id shared => ?_⟩
  · rw [own c among] at shared
    exact nomatch shared
  · rw [own c among] at shared
    exact nomatch shared

theorem IsApart.sublist {cs more : List Choice} (apart : s.IsApart more) (part : cs.Sublist more) :
    s.IsApart cs :=
  ⟨apart.distinct.sublist (part.filterMap _), fun c among => apart.stored c (part.subset among),
    fun c among => apart.unused c (part.subset among)⟩

theorem IsApart.inside {cs : List Choice} (apart : s.IsApart cs) (among : c ∈ cs) {id : VersionId}
    (shared : c.shared = some id) : id < s.store.versions.length :=
  (List.getElem?_eq_some_iff.mp (apart.stored c among id shared)).1

theorem IsApart.head {later : List Choice} (apart : s.IsApart (c :: later)) : s.IsApart [c] :=
  apart.sublist (List.cons_sublist_cons.mpr (List.nil_sublist _))

section

variable (apart : s.IsApart [c])

include apart

theorem IsApart.idFor_eq :
    s.idFor c = c.shared.getD s.store.versions.length := by
  cases shared : c.shared with
  | none => exact idFor_of_own shared
  | some id =>
      have inside := apart.inside (List.mem_singleton_self c) shared
      rw [idFor, Store.take_of_shared shared inside]
      rfl

theorem IsApart.version_entryOf : (s.entryOf [] c).version = s.idFor c :=
  apart.idFor_eq.symm

theorem IsApart.length_storeFor :
    (s.storeFor c).versions.length =
      s.store.versions.length + [c].countP (·.shared.isNone) := by
  cases shared : c.shared with
  | none => simp [storeFor_of_own shared, shared]
  | some id =>
      have inside := apart.inside (List.mem_singleton_self c) shared
      rw [storeFor, Store.linkAll, Store.length_versions_modify,
        Store.take_of_shared shared inside]
      simp [shared]

theorem IsApart.idFor_lt : s.idFor c < (s.storeFor c).versions.length := by
  rw [apart.length_storeFor, apart.idFor_eq]
  cases shared : c.shared with
  | none => simp [shared]
  | some id => exact Nat.lt_add_right _ (apart.inside (List.mem_singleton_self c) shared)

/-- A choice comes into the store with the backlinks that it inherits. -/
theorem IsApart.get?_storeFor_self :
    (s.storeFor c).get? (s.idFor c) = some (.ofBase (s.inherited c)) := by
  have taken : (s.store.take c.toHeld).2.get? (s.idFor c) = some (.ofBase c.version) := by
    cases shared : c.shared with
    | none => rw [idFor, Store.take_of_own shared, Store.get?_insert_self]
    | some id =>
        have among := List.mem_singleton_self c
        rw [idFor, Store.take_of_shared shared (apart.inside among shared)]
        exact apart.stored c among id shared
  rw [storeFor, Store.linkAll, Store.get?_modify_self, taken]
  exact congrArg some (Edited.linkAll_ofBase _ _)

/-- No entry has the version of a choice yet. -/
theorem IsApart.version_ne (known : ∀ e ∈ s.entries, e.version < s.store.versions.length)
    {e : Entry} (among : e ∈ s.entries) : e.version ≠ s.idFor c := by
  rw [apart.idFor_eq]
  cases shared : c.shared with
  | none => exact Nat.ne_of_lt (known e among)
  | some id => exact apart.unused c (List.mem_singleton_self c) id shared e among

end

/-- Other versions stay as they are when a choice comes into the store. -/
theorem get?_storeFor_of_ne {id : VersionId} (known : id < s.store.versions.length)
    (other : id ≠ s.idFor c) : (s.storeFor c).get? id = s.store.get? id := by
  rw [storeFor, Store.linkAll, Store.get?_modify_of_ne other.symm, Store.get?_take_of_lt _ known]

theorem length_store_takenIn (apart : s.IsApart [c]) :
    (s.takenIn c).store.versions.length =
      s.store.versions.length + [c].countP (·.shared.isNone) := by
  rw [takenIn, having]
  dsimp only
  rw [length_flag, length_store_without]
  exact apart.length_storeFor

theorem entries_takenIn (apart : s.IsApart [c]) :
    (s.takenIn c).entries =
      s.entries.filter (·.pack.name != c.pack.name) ++ [s.entryOf [] c] := by
  have made : s.entryOf [] c = { pack := c.pack, version := s.idFor c, indexed := .bool true } :=
    congrArg (Entry.mk c.pack · (.bool true)) apart.version_entryOf
  rw [made]
  rfl

theorem names_takenIn (s : Selection) (c : Choice) :
    (s.takenIn c).names = s.names.filter (· ≠ c.pack.name) ++ [c.pack.name] := by
  have others : (fun e : Entry => e.pack.name != c.pack.name) =
      (fun name => decide (name ≠ c.pack.name)) ∘ fun e : Entry => e.pack.name := by
    funext e
    exact (decide_not (p := e.pack.name = c.pack.name)).symm
  rw [takenIn, names_having, names, names, without, List.filter_map, ← others]

theorem store_takenIn_of_none (unknown : s.get? c.pack.name = none) :
    (s.takenIn c).store = ((s.storeFor c).flag (s.idFor c) false).flag (s.idFor c) true := by
  have seen : ({ s with store := s.storeFor c } : Selection).get? c.pack.name = none := unknown
  show (({ s with store := s.storeFor c } : Selection).without c.pack _).store.flag _ true = _
  simp only [without, seen]

theorem store_takenIn_of_some {e : Entry} (found : s.get? c.pack.name = some e) :
    (s.takenIn c).store = (((s.storeFor c).flag (s.idFor c) false).flag
      e.version false).flag (s.idFor c) true := by
  have seen : ({ s with store := s.storeFor c } : Selection).get? c.pack.name = some e := found
  show (({ s with store := s.storeFor c } : Selection).without c.pack _).store.flag _ true = _
  simp only [without, seen]

/-- What a choice neither brings nor replaces stays as it is stored. -/
theorem get?_takenIn_of_ne {id : VersionId} (known : id < s.store.versions.length)
    (new : id ≠ s.idFor c) (other : ∀ e, s.get? c.pack.name = some e → e.version ≠ id) :
    (s.takenIn c).store.get? id = s.store.get? id := by
  have kept : (s.storeFor c).get? id = s.store.get? id := get?_storeFor_of_ne known new
  cases found : s.get? c.pack.name with
  | none =>
      rw [store_takenIn_of_none found, get?_flag_of_ne new.symm, get?_flag_of_ne new.symm, kept]
  | some e =>
      rw [store_takenIn_of_some found, get?_flag_of_ne new.symm, get?_flag_of_ne (other e found),
        get?_flag_of_ne new.symm, kept]

/-- What a choice replaces is flagged unselected. -/
theorem get?_takenIn_of_some {e : Entry} (found : s.get? c.pack.name = some e)
    (known : e.version < s.store.versions.length) (new : e.version ≠ s.idFor c) :
    (s.takenIn c).store.get? e.version = (s.store.get? e.version).map (Edited.flagged false) := by
  rw [store_takenIn_of_some found, get?_flag_of_ne new.symm, get?_flag_self,
    get?_flag_of_ne new.symm, get?_storeFor_of_ne known new]

/-- A choice is stored as selected, with the backlinks that it inherits. -/
theorem get?_takenIn_self (apart : s.IsApart [c])
    (known : ∀ e ∈ s.entries, e.version < s.store.versions.length) :
    (s.takenIn c).store.get? (s.idFor c) =
      some (.ofBase { s.inherited c with isSelected := true }) := by
  have put := apart.get?_storeFor_self
  cases found : s.get? c.pack.name with
  | none =>
      rw [store_takenIn_of_none found, get?_flag_self, get?_flag_self, put]
      rfl
  | some e =>
      have old := apart.version_ne known (List.mem_of_find?_eq_some found)
      rw [store_takenIn_of_some found, get?_flag_self, get?_flag_of_ne old, get?_flag_self, put]
      rfl

/-- Entries of one name are one entry. -/
theorem IsRegistry.eq_of_name (registry : s.IsRegistry) {e e' : Entry} (known : e ∈ s.entries)
    (known' : e' ∈ s.entries) (same : e.pack.name = e'.pack.name) : e = e' :=
  List.inj_on_of_nodup_map registry.names known known' same

/-- Entries of one version are one entry. -/
theorem HasOwnVersions.eq_of_version (own : s.HasOwnVersions) {e e' : Entry} (known : e ∈ s.entries)
    (known' : e' ∈ s.entries) (same : e.version = e'.version) : e = e' :=
  List.inj_on_of_nodup_map own known known' same

/-- The entry under a name is the one that has the name. -/
theorem IsRegistry.get?_eq_some_iff (registry : s.IsRegistry) {name : String} {e : Entry} :
    s.get? name = some e ↔ e ∈ s.entries ∧ e.pack.name = name :=
  Selection.get?_eq_some_iff registry.names

theorem mem_entries_takenIn (apart : s.IsApart [c]) {e : Entry} :
    e ∈ (s.takenIn c).entries ↔
      (e ∈ s.entries ∧ e.pack.name ≠ c.pack.name) ∨ e = s.entryOf [] c := by
  simp [entries_takenIn apart]

theorem isRegistry_takenIn (registry : s.IsRegistry) (apart : s.IsApart [c]) :
    (s.takenIn c).IsRegistry := by
  constructor
  · rw [names_takenIn]
    refine List.nodup_append.mpr ⟨registry.names.filter _, List.nodup_singleton _, ?_⟩
    intro name before other last same
    rw [List.mem_singleton] at last
    have differs := of_decide_eq_true (List.mem_filter.mp before).2
    exact differs (same.trans last)
  · intro e among
    rw [length_store_takenIn apart]
    rcases (mem_entries_takenIn apart).mp among with ⟨before, -⟩ | rfl
    · exact Nat.lt_add_right _ (registry.known e before)
    · rw [← apart.length_storeFor, apart.version_entryOf]
      exact apart.idFor_lt

theorem hasOwnVersions_takenIn (registry : s.IsRegistry) (own : s.HasOwnVersions)
    (apart : s.IsApart [c]) : (s.takenIn c).HasOwnVersions := by
  rw [HasOwnVersions, entries_takenIn apart, List.map_append]
  refine List.nodup_append.mpr ⟨own.sublist (List.filter_sublist.map _), List.nodup_singleton _, ?_⟩
  intro version before other last same
  obtain ⟨e, among, rfl⟩ := List.mem_map.mp before
  rw [List.map_singleton, List.mem_singleton] at last
  have new := apart.version_ne registry.known (List.mem_filter.mp among).1
  exact new (same.trans (last.trans apart.version_entryOf))

/-- Choices that are apart from a selection are apart from it when others of them are taken in. -/
theorem IsApart.takenIn {later : List Choice} (apart : s.IsApart (c :: later)) :
    (s.takenIn c).IsApart later := by
  have first := apart.head
  have rest : s.IsApart later := apart.sublist (List.sublist_cons_self _ _)
  have new {d : Choice} (among : d ∈ later) {id : VersionId} (shared : d.shared = some id) :
      id ≠ s.idFor c := by
    rw [first.idFor_eq]
    cases own : c.shared with
    | none => exact Nat.ne_of_lt (rest.inside among shared)
    | some id' =>
        have listed : (c :: later).filterMap (·.shared) = id' :: later.filterMap (·.shared) :=
          List.filterMap_cons_some own
        have distinct := apart.distinct
        rw [listed, List.nodup_cons] at distinct
        rintro rfl
        exact distinct.1 (List.mem_filterMap.mpr ⟨d, among, shared⟩)
  refine ⟨rest.distinct, fun d among id shared => ?_, fun d among id shared e known => ?_⟩
  · rw [get?_takenIn_of_ne (rest.inside among shared) (new among shared)]
    · exact rest.stored d among id shared
    · exact fun e found => rest.unused d among id shared e (List.mem_of_find?_eq_some found)
  · rcases (mem_entries_takenIn first).mp known with ⟨before, -⟩ | rfl
    · exact rest.unused d among id shared e before
    · exact first.version_entryOf ▸ (new among shared).symm

theorem isApart_takenInAll {cs later : List Choice} (apart : s.IsApart (cs ++ later)) :
    (s.takenInAll cs).IsApart later ∧
      (s.takenInAll cs).store.versions.length =
        s.store.versions.length + cs.countP (·.shared.isNone) := by
  induction cs generalizing s with
  | nil => exact ⟨apart, rfl⟩
  | cons c cs ih =>
      obtain ⟨apart', length⟩ := ih apart.takenIn
      refine ⟨apart', ?_⟩
      rw [takenInAll, List.foldl_cons, ← takenInAll, length, length_store_takenIn apart.head,
        Nat.add_assoc, ← List.countP_append, List.singleton_append]

theorem isRegistry_takenInAll {cs : List Choice} (registry : s.IsRegistry) (apart : s.IsApart cs) :
    (s.takenInAll cs).IsRegistry := by
  induction cs generalizing s with
  | nil => exact registry
  | cons c cs ih => exact ih (isRegistry_takenIn registry apart.head) apart.takenIn

theorem hasOwnVersions_takenInAll {cs : List Choice} (registry : s.IsRegistry)
    (own : s.HasOwnVersions) (apart : s.IsApart cs) : (s.takenInAll cs).HasOwnVersions := by
  induction cs generalizing s with
  | nil => exact own
  | cons c cs ih =>
      exact ih (isRegistry_takenIn registry apart.head)
        (hasOwnVersions_takenIn registry own apart.head) apart.takenIn

/-- Where a choice stands in a list with one more at its end: it is the last one, or it stands in
the list before. -/
theorem concat_eq_append_cons {α : Type} {xs before later : List α} {x y : α}
    (same : xs ++ [x] = before ++ y :: later) :
    (later = [] ∧ before = xs ∧ y = x) ∨
      ∃ later', later = later' ++ [x] ∧ xs = before ++ y :: later' := by
  rcases List.eq_nil_or_concat later with rfl | ⟨later', z, rfl⟩
  · obtain ⟨rfl, last⟩ := List.append_inj' same rfl
    exact .inl ⟨rfl, rfl, (List.cons.inj last).1.symm⟩
  · rw [List.concat_eq_append, ← List.cons_append, ← List.append_assoc] at same
    obtain ⟨rfl, last⟩ := List.append_inj' same rfl
    rw [(List.cons.inj last).1, List.concat_eq_append]
    exact .inr ⟨later', rfl, rfl⟩

variable {cs : List Choice}

theorem arranged_nil (s : Selection) : s.Arranged [] s :=
  ⟨by simp [Choice.names], fun e => by simp [Choice.names]⟩

/-- A name that an entry or a choice had still has an entry. -/
theorem Arranged.exists_entry (arranged : s.Arranged cs s') {name : String}
    (had : name ∈ s.names ∨ name ∈ Choice.names cs) : ∃ e ∈ s'.entries, e.pack.name = name := by
  have there : name ∈ s'.names := by
    rw [arranged.names, List.mem_append, List.mem_filter, List.mem_dedup]
    by_cases carried : name ∈ Choice.names cs
    · exact .inr carried
    · exact .inl ⟨had.resolve_right carried, by simpa using carried⟩
  exact List.mem_map.mp there

theorem merged_nil (s : Selection) : s.Merged [] s := by
  refine ⟨arranged_nil s, fun _ _ _ => rfl, ?_, ?_, ?_⟩
  · simp
  · simp [Choice.names]
  · simp

/-- The version that stands under a name has all backlinks under the name. -/
theorem Merged.mem_requiredBy (merged : s.Merged cs s') (registry : s.IsRegistry) {e : Entry}
    (known : e ∈ s'.entries) (id : AddonId) :
    id ∈ s'.store.requiredBy e.version ↔ s.HandsOn cs e.pack.name id := by
  rcases (merged.entries e).mp known with ⟨old, uncarried⟩ | ⟨before, c, later, rfl, last, rfl⟩
  · have same : s'.store.requiredBy e.version = s.store.requiredBy e.version := by
      rw [Store.requiredBy, merged.kept e old uncarried, Store.requiredBy]
    rw [same]
    constructor
    · exact fun among => .inl ⟨e, old, rfl, among⟩
    · rintro (⟨e', old', name, among⟩ | ⟨c, carried, name, -⟩)
      · rw [registry.eq_of_name old old' name.symm]
        exact among
      · exact absurd (List.mem_map.mpr ⟨c, carried, name⟩) uncarried
  · obtain ⟨added, stored, -, -, members⟩ := merged.taken before c later rfl last
    rw [Store.requiredBy, stored]
    refine (members id).trans ?_
    constructor
    · rintro (own | ⟨e, old, name, among⟩ | ⟨c', earlier, name, among⟩)
      · exact .inr ⟨c, by simp, rfl, own⟩
      · exact .inl ⟨e, old, name, among⟩
      · exact .inr ⟨c', List.mem_append_left _ earlier, name, among⟩
    · rintro (⟨e, old, name, among⟩ | ⟨c', carried, name, among⟩)
      · exact .inr (.inl ⟨e, old, name, among⟩)
      · rcases List.mem_append.mp carried with earlier | here
        · exact .inr (.inr ⟨c', earlier, name, among⟩)
        · rcases List.mem_cons.mp here with rfl | after
          · exact .inl among
          · exact absurd (List.mem_map.mpr ⟨c', after, name⟩) last

/-- The version that is put in for a choice has the backlinks that are handed on to it. -/
theorem Merged.inherited (merged : s.Merged cs s') (registry : s.IsRegistry)
    (registry' : s'.IsRegistry) (c : Choice) :
    ∃ added, s'.inherited c = { c.version with requiredBy := c.version.requiredBy ++ added } ∧
      added.Nodup ∧ (∀ id ∈ added, id ∉ c.version.requiredBy) ∧
      ∀ id, id ∈ c.version.requiredBy ++ added ↔
        id ∈ c.version.requiredBy ∨ s.HandsOn cs c.pack.name id := by
  rw [Selection.inherited, handedOn]
  cases found : s'.get? c.pack.name with
  | none =>
      refine ⟨[], by simp, List.nodup_nil, by simp, fun id => ?_⟩
      have nothing : ¬ s.HandsOn cs c.pack.name id := by
        intro handed
        have had : c.pack.name ∈ s.names ∨ c.pack.name ∈ Choice.names cs := by
          rcases handed with ⟨e, known, name, -⟩ | ⟨c', carried, name, -⟩
          · exact .inl (List.mem_map.mpr ⟨e, known, name⟩)
          · exact .inr (List.mem_map.mpr ⟨c', carried, name⟩)
        obtain ⟨e, known, name⟩ := merged.exists_entry had
        rw [registry'.get?_eq_some_iff.mpr ⟨known, name⟩] at found
        exact nomatch found
      simp [nothing]
  | some e =>
      obtain ⟨known, name⟩ := registry'.get?_eq_some_iff.mp found
      obtain ⟨added, linked, nodup, fresh, members⟩ :=
        Version.foldl_link (s'.store.requiredBy e.version) c.version
      refine ⟨added, linked, nodup, fresh, fun id => ?_⟩
      rw [members, merged.mem_requiredBy registry known, name]

theorem entryOf_eq (length : s'.store.versions.length =
      s.store.versions.length + cs.countP (·.shared.isNone)) (c : Choice) :
    s'.entryOf [] c = s.entryOf cs c := by
  simp [entryOf, length]

theorem Arranged.names_takenIn (arranged : s.Arranged cs s') (c : Choice) :
    (s'.takenIn c).names =
      s.names.filter (· ∉ Choice.names (cs ++ [c])) ++ (Choice.names (cs ++ [c])).dedup := by
  have carried : Choice.names (cs ++ [c]) = Choice.names cs ++ [c.pack.name] := List.map_append
  rw [Selection.names_takenIn, arranged.names, carried, dedup_concat, List.filter_append,
    List.filter_filter, List.append_assoc]
  simp [and_comm]

theorem mem_names_concat {name : String} :
    name ∈ Choice.names (cs ++ [c]) ↔ name ∈ Choice.names cs ∨ name = c.pack.name := by
  simp [Choice.names, eq_comm]

theorem Arranged.mem_entries_takenIn (arranged : s.Arranged cs s') (apart : s'.IsApart [c])
    (length : s'.store.versions.length =
      s.store.versions.length + cs.countP (·.shared.isNone)) (e : Entry) :
    e ∈ (s'.takenIn c).entries ↔
      (e ∈ s.entries ∧ e.pack.name ∉ Choice.names (cs ++ [c])) ∨
      ∃ before d later, cs ++ [c] = before ++ d :: later ∧ d.pack.name ∉ Choice.names later ∧
        e = s.entryOf before d := by
  rw [Selection.mem_entries_takenIn apart, arranged.entries, entryOf_eq length, mem_names_concat,
    not_or]
  constructor
  · rintro (⟨⟨old, uncarried⟩ | ⟨before, d, later, rfl, last, rfl⟩, other⟩ | rfl)
    · exact .inl ⟨old, uncarried, other⟩
    · refine .inr ⟨before, d, later ++ [c], by simp, ?_, rfl⟩
      rw [mem_names_concat]
      exact not_or.mpr ⟨last, other⟩
    · exact .inr ⟨cs, c, [], rfl, List.not_mem_nil, rfl⟩
  · rintro (⟨old, uncarried, other⟩ | ⟨before, d, later, split, last, rfl⟩)
    · exact .inl ⟨.inl ⟨old, uncarried⟩, other⟩
    · rcases concat_eq_append_cons split with ⟨-, rfl, rfl⟩ | ⟨later, rfl, rfl⟩
      · exact .inr rfl
      · obtain ⟨last, other⟩ := not_or.mp (mt mem_names_concat.mpr last)
        exact .inl ⟨.inr ⟨before, d, later, rfl, last, rfl⟩, other⟩

/-- Where merged choices are arranged, whatever else the entries hold. -/
theorem arranged_takenInAll (apart : s.IsApart cs) : s.Arranged cs (s.takenInAll cs) := by
  induction cs using List.reverseRecOn with
  | nil => exact arranged_nil s
  | append_singleton cs c ih =>
      have last : s.takenInAll (cs ++ [c]) = (s.takenInAll cs).takenIn c := List.foldl_append
      have arranged := ih (apart.sublist (List.sublist_append_left _ _))
      obtain ⟨apart', length⟩ := isApart_takenInAll apart
      rw [last]
      exact ⟨arranged.names_takenIn c, arranged.mem_entries_takenIn apart' length⟩

/-- One more choice does not touch the versions of entries under other names. -/
theorem get?_takenIn_of_name_ne (registry : s.IsRegistry) (own : s.HasOwnVersions)
    (apart : s.IsApart [c]) {e : Entry} (known : e ∈ s.entries)
    (other : e.pack.name ≠ c.pack.name) :
    (s.takenIn c).store.get? e.version = s.store.get? e.version := by
  refine get?_takenIn_of_ne (registry.known e known) (apart.version_ne registry.known known)
    fun p found same => ?_
  obtain ⟨among, name⟩ := registry.get?_eq_some_iff.mp found
  rw [own.eq_of_version among known same] at name
  exact other name

/-- The version of a choice is not that of an entry. -/
theorem IsApart.version_ne_entryOf {before later : List Choice} {d : Choice}
    (apart : s.IsApart (before ++ d :: later)) (registry : s.IsRegistry) {e : Entry}
    (known : e ∈ s.entries) : e.version ≠ (s.entryOf before d).version := by
  rw [entryOf]
  cases own : d.shared with
  | none => exact Nat.ne_of_lt (Nat.lt_add_right _ (registry.known e known))
  | some id => exact apart.unused d (by simp) id own e known

/-- The versions of two choices are not the same. -/
theorem IsApart.version_entryOf_ne {before mid later : List Choice} {d d' : Choice}
    (apart : s.IsApart (before ++ d :: (mid ++ d' :: later))) :
    (s.entryOf before d).version ≠ (s.entryOf (before ++ d :: mid) d').version := by
  have first : d ∈ before ++ d :: (mid ++ d' :: later) := by simp
  have second : d' ∈ before ++ d :: (mid ++ d' :: later) := by simp
  rw [entryOf, entryOf]
  cases own : d.shared with
  | none =>
      cases own' : d'.shared with
      | none =>
          simp only [Option.getD_none, List.countP_append, List.countP_cons, own,
            Option.isNone_none, if_true]
          exact Nat.ne_of_lt (by omega)
      | some id' => exact Nat.ne_of_gt (Nat.lt_add_right _ (apart.inside second own'))
  | some id =>
      cases own' : d'.shared with
      | none => exact Nat.ne_of_lt (Nat.lt_add_right _ (apart.inside first own))
      | some id' =>
          have distinct := apart.distinct
          simp only [List.filterMap_append, List.filterMap_cons, own, own',
            List.nodup_append, List.nodup_cons, List.mem_append, List.mem_cons] at distinct
          rintro rfl
          exact distinct.2.1.1 (.inr (.inl rfl))

section

variable (merged : s.Merged cs s') (registry : s.IsRegistry) (apart : s.IsApart cs)

include merged registry apart

/-- A version that was replaced does not stand under a name any more. -/
theorem Merged.version_ne_of_replaced (own : s.HasOwnVersions) {e p : Entry}
    (known : e ∈ s.entries)
    (carried : e.pack.name ∈ Choice.names cs) (stands : p ∈ s'.entries) : p.version ≠ e.version := by
  intro same
  have old := registry.known e known
  rcases (merged.entries p).mp stands with ⟨old', uncarried⟩ | ⟨before, c, later, rfl, -, rfl⟩
  · rw [own.eq_of_version old' known same] at uncarried
    exact uncarried carried
  · exact apart.version_ne_entryOf registry known same.symm

/-- Nor does the version of a choice that was overtaken. -/
theorem Merged.version_ne_of_overtaken {before later : List Choice} {d : Choice} {p : Entry}
    (split : cs = before ++ d :: later) (overtaken : d.pack.name ∈ Choice.names later)
    (stands : p ∈ s'.entries) : p.version ≠ (s.entryOf before d).version := by
  subst split
  rcases (merged.entries p).mp stands with ⟨old, -⟩ | ⟨before', d', later', split, last, rfl⟩
  · exact apart.version_ne_entryOf registry old
  · rcases List.append_eq_append_iff.mp split with ⟨mid, rfl, rest⟩ | ⟨mid, rfl, rest⟩
    · cases mid with
      | nil =>
          obtain ⟨rfl, rfl⟩ := List.cons.inj rest
          exact absurd overtaken last
      | cons x mid =>
          obtain ⟨rfl, rfl⟩ := List.cons.inj rest
          exact apart.version_entryOf_ne.symm
    · cases mid with
      | nil =>
          obtain ⟨rfl, rfl⟩ := List.cons.inj rest
          exact absurd overtaken last
      | cons x mid =>
          obtain ⟨rfl, rfl⟩ := List.cons.inj rest
          rw [split] at apart
          exact apart.version_entryOf_ne

end

/-- Merging one choice more. -/
theorem Merged.concat (merged : s.Merged cs s') (registry : s.IsRegistry) (own : s.HasOwnVersions)
    (apart : s.IsApart (cs ++ [c])) (registry' : s'.IsRegistry) (own' : s'.HasOwnVersions)
    (apart' : s'.IsApart [c]) (length : s'.store.versions.length =
      s.store.versions.length + cs.countP (·.shared.isNone)) :
    s.Merged (cs ++ [c]) (s'.takenIn c) := by
  have before_apart : s.IsApart cs := apart.sublist (List.sublist_append_left _ _)
  have placed : s'.idFor c = (s.entryOf cs c).version := by
    rw [← apart'.version_entryOf, entryOf_eq length]
  exact
    { names := merged.names_takenIn c
      entries := merged.mem_entries_takenIn apart' length
      kept := fun e known uncarried => by
        obtain ⟨uncarried, other⟩ := not_or.mp (mt mem_names_concat.mpr uncarried)
        have known' : e ∈ s'.entries := (merged.entries e).mpr (.inl ⟨known, uncarried⟩)
        rw [get?_takenIn_of_name_ne registry' own' apart' known' other,
          merged.kept e known uncarried]
      taken := fun before d later split last => by
        rcases concat_eq_append_cons split with ⟨-, rfl, rfl⟩ | ⟨later, rfl, rfl⟩
        · obtain ⟨added, inherited, rest⟩ := merged.inherited registry registry' d
          refine ⟨added, ?_, rest⟩
          have stored := get?_takenIn_self apart' registry'.known
          rw [inherited, placed] at stored
          exact stored
        · obtain ⟨last, other⟩ := not_or.mp (mt mem_names_concat.mpr last)
          obtain ⟨added, stored, rest⟩ := merged.taken before d later rfl last
          refine ⟨added, ?_, rest⟩
          have known : s.entryOf before d ∈ s'.entries :=
            (merged.entries _).mpr (.inr ⟨before, d, later, rfl, last, rfl⟩)
          rw [get?_takenIn_of_name_ne registry' own' apart' known other, stored]
      replaced := fun e known carried => by
        have new : e.version ≠ s'.idFor c := placed ▸ apart.version_ne_entryOf registry known
        by_cases already : e.pack.name ∈ Choice.names cs
        · have inside : e.version < s'.store.versions.length :=
            length ▸ Nat.lt_add_right _ (registry.known e known)
          rw [← merged.replaced e known already]
          refine get?_takenIn_of_ne inside new fun p found => ?_
          exact merged.version_ne_of_replaced registry before_apart own known already
            (registry'.get?_eq_some_iff.mp found).1
        · have name := (mem_names_concat.mp carried).resolve_left already
          have known' : e ∈ s'.entries := (merged.entries e).mpr (.inl ⟨known, already⟩)
          have found := registry'.get?_eq_some_iff.mpr ⟨known', name⟩
          rw [get?_takenIn_of_some found (registry'.known e known') new,
            merged.kept e known already]
      overtaken := fun before d later split overtaken => by
        rcases concat_eq_append_cons split with ⟨rfl, -, -⟩ | ⟨later, rfl, rfl⟩
        · exact absurd overtaken List.not_mem_nil
        · have new : (s.entryOf before d).version ≠ s'.idFor c := by
            rw [placed]
            rw [List.append_assoc, List.cons_append] at apart
            exact apart.version_entryOf_ne
          by_cases already : d.pack.name ∈ Choice.names later
          · obtain ⟨requiredBy, stored⟩ := merged.overtaken before d later rfl already
            refine ⟨requiredBy, ?_⟩
            rw [← stored]
            refine get?_takenIn_of_ne (List.getElem?_eq_some_iff.mp stored).1 new fun p found => ?_
            exact merged.version_ne_of_overtaken registry before_apart rfl already
              (registry'.get?_eq_some_iff.mp found).1
          · have name := (mem_names_concat.mp overtaken).resolve_left already
            have known : s.entryOf before d ∈ s'.entries :=
              (merged.entries _).mpr (.inr ⟨before, d, later, rfl, already, rfl⟩)
            obtain ⟨added, stored, -⟩ := merged.taken before d later rfl already
            have found : s'.get? c.pack.name = some (s.entryOf before d) :=
              registry'.get?_eq_some_iff.mpr ⟨known, name⟩
            refine ⟨d.version.requiredBy ++ added, ?_⟩
            rw [get?_takenIn_of_some found (registry'.known _ known) new, stored]
            rfl }

/-- What merging choices makes of a registry. -/
theorem merged_takenInAll (registry : s.IsRegistry) (own : s.HasOwnVersions)
    (apart : s.IsApart cs) : s.Merged cs (s.takenInAll cs) := by
  induction cs using List.reverseRecOn with
  | nil => exact merged_nil s
  | append_singleton cs c ih =>
      have last : s.takenInAll (cs ++ [c]) = (s.takenInAll cs).takenIn c := List.foldl_append
      have before := apart.sublist (List.sublist_append_left _ _)
      obtain ⟨apart', length⟩ := isApart_takenInAll apart
      rw [last]
      exact (ih before).concat registry own apart (isRegistry_takenInAll registry before)
        (hasOwnVersions_takenInAll registry own before) apart' length

end Selection

namespace Session

open Act

/-- Merging choices comes to its end if nobody refuses. Whenever it does, it leaves a registry with
the choices merged into it. -/
theorem merged_of_merge {s : Session} (registry : s.selection.IsRegistry)
    (own : s.selection.HasOwnVersions) {cs : List Choice} (apart : s.selection.IsApart cs) :
    let performed := (merge cs).perform s
    (s.selection.IsWilling → performed.1 = .ok ()) ∧
      (performed.1 = .ok () → s.selection.Merged cs performed.2.selection ∧
        performed.2.selection.IsRegistry ∧ performed.2.selection.HasOwnVersions) := by
  have meets (mayFail : Prop) (willing : mayFail ∨ s.selection.IsWilling) :=
    meets_merge (Selection.on_lax willing) cs s.selection.journal
  have merged := Selection.merged_takenInAll registry own apart
  have kept := Selection.isRegistry_takenInAll registry apart
  refine ⟨fun willing => ?_, fun done => ?_⟩
  · rcases meets False (.inr willing) with ⟨j, performed, -⟩ | ⟨never, -⟩
    · exact congrArg Prod.fst performed
    · exact never.elim
  · rcases meets True (.inl trivial) with ⟨j, performed, -⟩ | ⟨-, f, s', failed⟩
    · have after : ((merge cs).perform s).2.selection =
          Journaled.setJournal j (s.selection.takenInAll cs) :=
        congrArg (fun performed => performed.2.selection) performed
      rw [after]
      exact ⟨⟨⟨merged.names, merged.entries⟩, merged.kept, merged.taken, merged.replaced,
        merged.overtaken⟩, ⟨kept.names, kept.known⟩,
        Selection.hasOwnVersions_takenInAll registry own apart⟩
    · have result : ((merge cs).perform s).1 = .error f := congrArg Prod.fst failed
      rw [result] at done
      exact nomatch done

/-- A dialog with two picks of the user, and a version that somebody else holds. -/
def workbench : Session where
  type := .mods
  target := {}
  config := {}
  naming := .standard
  served := []
  settings := []
  ui := {}
  surface := .standard
  reviewPlan _ := {}
  selection := {
    store := ⟨[
      .ofBase { addonId := .number 1, fileId := .number 10, fileName := "lamps.jar" },
      .ofBase {
        addonId := .number 2, fileId := .number 20, fileName := "tools.jar"
        requiredBy := [.number 7, .number 1] },
      .ofBase {
        addonId := .number 3, fileId := .number 30, fileName := "bulbs.jar"
        requiredBy := [.number 1] }]⟩
    entries := [
      { pack := { addonId := .number 1, name := "Lamps", provider := .modrinth }, version := 0 },
      { pack := { addonId := .number 2, name := "Tools", provider := .modrinth }, version := 1 }] }

/-- Two choices come under the name of a pick, with another one between them. -/
def finds : List Choice :=
  [{ pack := { addonId := .number 5, name := "Tools", provider := .modrinth }
     version := {
       addonId := .number 5, fileId := .number 50, fileName := "tools.jar"
       requiredBy := [.number 1] } },
    { pack := { addonId := .number 3, name := "Bulbs", provider := .modrinth }
      version := {
        addonId := .number 3, fileId := .number 30, fileName := "bulbs.jar"
        requiredBy := [.number 1] }
      shared := some 2 },
    { pack := { addonId := .number 6, name := "Tools", provider := .modrinth }
      version := {
        addonId := .number 6, fileId := .number 60, fileName := "tools.jar"
        requiredBy := [.number 1, .number 3] } }]

/-- The last choice takes the name over, with the backlinks of the pick that the choice before it
had taken over. The choice between them is selected for everybody who holds it. -/
theorem merged_of_merge_finds :
    workbench.selection.IsRegistry ∧ workbench.selection.HasOwnVersions ∧
    workbench.selection.IsApart finds ∧ workbench.selection.IsWilling ∧
    let performed := (merge finds).perform workbench
    performed.1 = .ok () ∧ workbench.selection.Merged finds performed.2.selection ∧
      performed.2.selection.names = ["Lamps", "Bulbs", "Tools"] ∧
      performed.2.selection.store.requiredBy 4 = [.number 1, .number 3, .number 7] ∧
      (performed.2.selection.store.value 2 Version.isSelectedField matches .bool true) = true := by
  have registry : workbench.selection.IsRegistry := ⟨by decide, by decide⟩
  have own : workbench.selection.HasOwnVersions := by decide
  have apart : workbench.selection.IsApart finds := by
    refine ⟨by decide, ?_, ?_⟩
    · simp [finds, workbench, Store.get?]
    · simp [finds, workbench]
  have willing : workbench.selection.IsWilling :=
    ⟨fun _ among => absurd among List.not_mem_nil, fun _ among => absurd among List.not_mem_nil⟩
  obtain ⟨ends, merged⟩ := merged_of_merge registry own apart
  have done := ends willing
  exact ⟨registry, own, apart, willing, done, (merged done).1, by decide +kernel, by decide +kernel,
    by decide +kernel⟩

end Session

end AddonPicker
