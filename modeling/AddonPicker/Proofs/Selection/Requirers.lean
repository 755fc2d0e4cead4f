import AddonPicker.Proofs.Selection.Rows

/-!
# Requirers in a review

A version is recorded to be required by the ids of packs, and its row shows the names of those that
are selected. An id stands for the earliest entry that has it, so a row can only be trusted to name a
pack if no other one has the same id. The ids of packs are what is recorded, and nothing else of
them: a requirer is named as long as it is selected, in whatever version.
-/

namespace AddonPicker

/-- Ids that are equal as values are the same. -/
theorem AddonId.agrees_toValue {id id' : AddonId} :
    id.toValue.agrees id'.toValue = true ↔ id = id' := by
  cases id <;> cases id' <;>
    simp [toValue, Value.agrees, Value.sameScalar, Value.wholeNumber?]

namespace Selection

variable {s : Selection}

/-- No two entries are of packs with the same id. -/
def HasOwnIds (s : Selection) : Prop :=
  (s.entries.map (·.pack.addonId)).Nodup

instance : Decidable s.HasOwnIds := inferInstanceAs (Decidable (List.Nodup _))

theorem hasOwnIds_setJournal (s : Selection) (j : Journal) :
    (Journaled.setJournal j s).HasOwnIds ↔ s.HasOwnIds :=
  .rfl

/-- An id that no other entry has stands for the entry that has it. -/
theorem nameOf?_addonId (own : s.HasOwnIds) {e : Entry} (among : e ∈ s.entries) :
    s.nameOf? e.pack.addonId.toValue = some e.pack.name := by
  rw [nameOf?]
  cases found : s.entries.find? (·.pack.addonId.toValue.agrees e.pack.addonId.toValue) with
  | none =>
      have unlike := List.find?_eq_none.mp found e among
      exact absurd (AddonId.agrees_toValue.mpr rfl) unlike
  | some e' =>
      have same : e'.pack.addonId = e.pack.addonId := by
        simpa [AddonId.agrees_toValue] using List.find?_some found
      have known := List.mem_of_find?_eq_some found
      rw [List.inj_on_of_nodup_map own known among same]
      rfl

theorem requirers_toValue (ids : List AddonId) :
    s.requirers (.list (ids.map AddonId.toValue)) =
      .ok (ids.filterMap fun id => s.nameOf? id.toValue) := by
  simp only [requirers, Value.members?, List.filterMap_map]
  rfl

/-- A version whose backlinks nobody has set is shown with its own record. -/
theorem value_requiredBy {store : Store} {id : VersionId} {v : Edited Version}
    (stored : store.get? id = some v) (plain : v.IsPlain) :
    store.value id Version.requiredByField = .list (v.base.requiredBy.map AddonId.toValue) := by
  rw [Store.value, stored]
  exact plain.value_requiredBy

/-- The row under the name of an entry is the one that was made of it. -/
theorem exists_row?_of_presents {naming : Naming} {box box' : ReviewBox} (distinct : s.names.Nodup)
    (blank : box.rows = []) (presents : s.review naming box = (.ok (), box')) {e : Entry}
    (among : e ∈ s.entries) :
    ∃ r, box'.row? (.str e.pack.name) = some r ∧ s.row naming e = .ok r := by
  have sorted : (s.sortedEntries.map (·.pack.name)).Nodup :=
    s.perm_names_sortedEntries.nodup_iff.mpr distinct
  have lists : box.Lists [] := congrArg (List.map _) blank
  have each := (mem_rows_appendRows lists sorted (congrArg Prod.fst presents)).2
  have same : (s.appendRows naming s.sortedEntries box).2 = box' := congrArg Prod.snd presents
  obtain ⟨r, listed, made⟩ := each e (List.mem_mergeSort.mpr among)
  rw [same] at listed
  refine ⟨r, ?_, made⟩
  rw [← name_of_row made]
  exact ReviewBox.row?_of_mem (lists_review distinct blank presents) sorted listed

/-- The row under the name of an entry names the entries whose ids are recorded with its version. -/
theorem exists_row_naming {naming : Naming} {box box' : ReviewBox} (distinct : s.names.Nodup)
    (own : s.HasOwnIds) (blank : box.rows = []) (presents : s.review naming box = (.ok (), box'))
    {e : Entry} (among : e ∈ s.entries) {v : Edited Version}
    (stored : s.store.get? e.version = some v) (plain : v.IsPlain) :
    ∃ r names, box'.row? (.str e.pack.name) = some r ∧ r.requiredBy = .strings names ∧
      ∀ e' ∈ s.entries, e'.pack.addonId ∈ v.base.requiredBy → e'.pack.name ∈ names := by
  obtain ⟨r, under, made⟩ := exists_row?_of_presents distinct blank presents among
  obtain ⟨-, names, found, shown⟩ := shows_of_row made
  rw [value_requiredBy stored plain, requirers_toValue] at found
  refine ⟨r, names, under, shown, fun e' known recorded => ?_⟩
  rw [← Except.ok.inj found, List.mem_filterMap]
  exact ⟨_, recorded, nameOf?_addonId own known⟩

end Selection

end AddonPicker
