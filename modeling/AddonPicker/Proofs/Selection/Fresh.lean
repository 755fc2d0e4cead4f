import AddonPicker.Proofs.Selection.Ending
import AddonPicker.Proofs.Selection.Merged

/-!
# Versions that are new to a selection

A merge of choices whose versions nobody else holds takes these into the store before it selects
them. Wherever it stops, its entries are those of before, with the backlinks that they had, or they
have such a version: that of the choice, with backlinks that are handed on under its name.
-/

namespace AddonPicker.Selection

open Act

/-- A version that has come into a store since, for a pack that one of some choices is of. -/
structure IsFresh (cs : List Choice) (s : Selection) (store : Store) (pack : Pack)
    (id : VersionId) : Prop where
  new : s.store.versions.length ≤ id
  copy : ∃ c ∈ cs, c.pack = pack ∧ ∃ added isSelected,
    store.get? id = some (.ofBase { c.version with
      isSelected, requiredBy := c.version.requiredBy ++ added }) ∧
    ∀ link ∈ added, s.HandsOn cs pack.name link

/-- What a merge of choices has made of a selection wherever it stops. -/
structure Merging (cs : List Choice) (s t : Selection) : Prop where
  grown : s.store.versions.length ≤ t.store.versions.length
  entries : ∀ e ∈ t.entries,
    (e ∈ s.entries ∧ t.store.requiredBy e.version = s.store.requiredBy e.version) ∨
      s.IsFresh cs t.store e.pack e.version

variable {cs : List Choice} {s t t' : Selection} {store : Store} {pack : Pack} {id : VersionId}
  {indexed : Value}

theorem merging_refl (cs : List Choice) (s : Selection) : s.Merging cs s :=
  ⟨Nat.le_refl _, fun _ among => .inl ⟨among, rfl⟩⟩

theorem requiredBy_congr {store store' : Store} (same : store'.get? id = store.get? id) :
    store'.requiredBy id = store.requiredBy id := by
  rw [Store.requiredBy, same, Store.requiredBy]

theorem requiredBy_flag (id : VersionId) (selected : Bool) (store : Store) (other : VersionId) :
    (store.flag id selected).requiredBy other = store.requiredBy other := by
  by_cases same : id = other
  · subst same
    rw [Store.requiredBy, get?_flag_self, Store.requiredBy]
    cases store.get? id <;> rfl
  · exact requiredBy_congr (get?_flag_of_ne same selected store)

theorem IsFresh.inside (fresh : s.IsFresh cs store pack id) : id < store.versions.length := by
  obtain ⟨c, -, -, added, isSelected, stored, -⟩ := fresh.copy
  exact (List.getElem?_eq_some_iff.mp stored).1

theorem IsFresh.of_get? (fresh : s.IsFresh cs store pack id) {store' : Store}
    (same : store'.get? id = store.get? id) : s.IsFresh cs store' pack id := by
  obtain ⟨c, carried, own, added, isSelected, stored, handed⟩ := fresh.copy
  exact ⟨fresh.new, c, carried, own, added, isSelected, same.trans stored, handed⟩

theorem IsFresh.flag (fresh : s.IsFresh cs store pack id) (other : VersionId) (selected : Bool) :
    s.IsFresh cs (store.flag other selected) pack id := by
  by_cases same : other = id
  · subst same
    obtain ⟨c, carried, own, added, isSelected, stored, handed⟩ := fresh.copy
    refine ⟨fresh.new, c, carried, own, added, selected, ?_, handed⟩
    rw [get?_flag_self, stored]
    rfl
  · exact fresh.of_get? (get?_flag_of_ne same selected store)

/-- The backlinks that a choice takes over from an entry are handed on under its name. -/
theorem Merging.handsOn (merging : s.Merging cs t) {e : Entry} (known : e ∈ t.entries)
    {link : AddonId} (linked : link ∈ t.store.requiredBy e.version) :
    s.HandsOn cs e.pack.name link := by
  rcases merging.entries e known with ⟨before, same⟩ | fresh
  · exact .inl ⟨e, before, rfl, same ▸ linked⟩
  · obtain ⟨c, carried, own, added, isSelected, stored, handed⟩ := fresh.copy
    rw [Store.requiredBy, stored] at linked
    rcases List.mem_append.mp linked with first | later
    · exact .inr ⟨c, carried, congrArg Pack.name own, first⟩
    · exact handed link later

theorem Merging.of_same (merging : s.Merging cs t) (store : t'.store = t.store)
    (entries : ∀ e ∈ t'.entries, e ∈ t.entries) : s.Merging cs t' := by
  refine ⟨store ▸ merging.grown, fun e among => ?_⟩
  rcases merging.entries e (entries e among) with ⟨before, same⟩ | fresh
  · exact .inl ⟨before, store ▸ same⟩
  · exact .inr (store ▸ fresh)

theorem Merging.flag (merging : s.Merging cs t) (id : VersionId) (selected : Bool) :
    s.Merging cs { t with store := t.store.flag id selected } := by
  refine ⟨?_, fun e among => ?_⟩
  · show _ ≤ (t.store.flag id selected).versions.length
    rw [length_flag]
    exact merging.grown
  · rcases merging.entries e among with ⟨before, same⟩ | fresh
    · exact .inl ⟨before, (requiredBy_flag id selected t.store e.version).trans same⟩
    · exact .inr (fresh.flag id selected)

/-- A choice comes into the store, with the backlinks of the entry that it replaces. -/
theorem Merging.storeFor (merging : s.Merging cs t)
    (known : ∀ e ∈ s.entries, e.version < s.store.versions.length) {c : Choice} (carried : c ∈ cs)
    (own : c.shared = none) :
    s.Merging cs { t with store := t.storeFor c } ∧
      s.IsFresh cs (t.storeFor c) c.pack (t.idFor c) := by
  have apart : t.IsApart [c] := isApart_of_own fun d among => List.mem_singleton.mp among ▸ own
  have new : t.idFor c = t.store.versions.length := idFor_of_own own
  have stays {id : VersionId} (inside : id < t.store.versions.length) :
      (t.storeFor c).get? id = t.store.get? id :=
    get?_storeFor_of_ne inside (new ▸ Nat.ne_of_lt inside)
  refine ⟨⟨?_, fun e among => ?_⟩, new ▸ merging.grown, c, carried, rfl, ?_⟩
  · rw [apart.length_storeFor]
    exact Nat.le_trans merging.grown (Nat.le_add_right _ _)
  · rcases merging.entries e among with ⟨before, same⟩ | fresh
    · have inside := Nat.lt_of_lt_of_le (known e before) merging.grown
      exact .inl ⟨before, (requiredBy_congr (stays inside)).trans same⟩
    · exact .inr (fresh.of_get? (stays fresh.inside))
  · have put := apart.get?_storeFor_self
    obtain ⟨added, linked, -, -, members⟩ := Version.foldl_link (t.handedOn c) c.version
    rw [inherited, linked] at put
    refine ⟨added, c.version.isSelected, put, fun link among => ?_⟩
    rcases (members link).mp (List.mem_append_right _ among) with own | linked
    · exact .inr ⟨c, carried, rfl, own⟩
    · rw [handedOn] at linked
      split at linked
      · rename_i e found
        have name : e.pack.name = c.pack.name := by simpa using List.find?_some found
        rw [← name]
        exact merging.handsOn (List.mem_of_find?_eq_some found) linked
      · exact absurd linked List.not_mem_nil

/-- A merge that selects a version which has come in for a pack. -/
def Selects (cs : List Choice) (s : Selection) (pack : Pack) (id : VersionId) (t : Selection) :
    Prop :=
  s.Merging cs t ∧ s.IsFresh cs t.store pack id

theorem Selects.of_same (selects : s.Selects cs pack id t) (store : t'.store = t.store)
    (entries : ∀ e ∈ t'.entries, e ∈ t.entries) : s.Selects cs pack id t' :=
  ⟨selects.1.of_same store entries, store ▸ selects.2⟩

theorem Selects.flag (selects : s.Selects cs pack id t) (other : VersionId) (selected : Bool) :
    s.Selects cs pack id { t with store := t.store.flag other selected } :=
  ⟨selects.1.flag other selected, selects.2.flag other selected⟩

theorem Selects.without (selects : s.Selects cs pack id t) :
    s.Selects cs pack id (t.without pack id) := by
  have among {e : Entry} (stays : e ∈ (t.without pack id).entries) : e ∈ t.entries :=
    (mem_entries_without.mp stays).1
  cases found : t.get? pack.name with
  | none =>
      refine (selects.flag id false).of_same ?_ fun _ => among
      rw [without_of_none found]
  | some previous =>
      refine ((selects.flag id false).flag previous.version false).of_same ?_ fun _ => among
      rw [without_of_some found]

theorem Selects.having (selects : s.Selects cs pack id t) :
    s.Selects cs pack id (t.having pack id indexed) := by
  obtain ⟨merging, fresh⟩ := selects.without.flag id true
  refine ⟨⟨merging.grown, fun e among => ?_⟩, fresh⟩
  rcases List.mem_append.mp among with before | last
  · exact merging.entries e before
  · rw [List.mem_singleton.mp last]
    exact .inr fresh

theorem keeps_selects_add : Keeps (s.Selects cs pack id) (add pack id indexed) := by
  refine keeps_add (fun t t' fades selects => ?_) (fun _ selects => selects.without)
    fun _ selects => selects.having
  obtain ⟨pages, j, -, rfl⟩ := fades
  exact selects.of_same rfl fun _ among => among

end AddonPicker.Selection
