import Mathlib.Data.List.Nodup
import AddonPicker.Proofs.Selection.Change
import AddonPicker.Review.Build

/-!
# Selections that can be presented

A selection keeps its versions in its store, with the backlinks that resolution gave them. Then
every entry makes a row of a review, as long as the naming table knows the providers.
-/

namespace AddonPicker

/-- A version whose backlinks nobody set since it was read. Other attributes may have been set. -/
structure Edited.IsPlain (e : Edited Version) : Prop where
  unset : ∀ edit ∈ e.edits, edit.1 ≠ Version.requiredByField.name
  whole : e.isStripped = false

instance (e : Edited Version) : Decidable e.IsPlain :=
  decidable_of_iff
    ((∀ edit ∈ e.edits, edit.1 ≠ Version.requiredByField.name) ∧ e.isStripped = false)
    ⟨fun ⟨unset, whole⟩ => ⟨unset, whole⟩, fun ⟨unset, whole⟩ => ⟨unset, whole⟩⟩

/-- A version as it was read is plain. -/
theorem Edited.isPlain_ofBase (v : Version) : (Edited.ofBase v).IsPlain :=
  ⟨fun _ among => absurd among List.not_mem_nil, rfl⟩

/-- What is set under other names does not touch a value. -/
theorem Edited.lookup_foldl_store {name : String} (edits done : Fields)
    (unset : ∀ edit ∈ edits, edit.1 ≠ name) :
    Value.lookup name (edits.foldl (fun done edit => Value.store edit.1 edit.2 done) done) =
      Value.lookup name done := by
  induction edits generalizing done with
  | nil => rfl
  | cons edit later ih =>
      rw [List.foldl_cons, ih _ fun edit among => unset edit (List.mem_cons_of_mem _ among)]
      exact Value.lookup_store_of_ne (unset edit List.mem_cons_self) edit.2 done

/-- A plain version shows its own backlinks. -/
theorem Edited.IsPlain.value_requiredBy {e : Edited Version} (plain : e.IsPlain) :
    e.value Version.requiredByField.name = .list (e.base.requiredBy.map AddonId.toValue) := by
  have shown : e.value? Version.requiredByField.name =
      Value.lookup Version.requiredByField.name (Record.named e.base) := by
    rw [Edited.value?, Edited.attributes, plain.whole]
    exact Edited.lookup_foldl_store e.edits _ plain.unset
  rw [Edited.value, shown]
  rfl

namespace Selection

/-- The versions of a selection are plain ones of its store. -/
structure IsKept (s : Selection) : Prop where
  plain : ∀ e ∈ s.store.versions, e.IsPlain
  known : ∀ e ∈ s.entries, e.version < s.store.versions.length

/-- The naming table has a readable name for every provider that a selection has a pack of. -/
def IsNamed (naming : Naming) (s : Selection) : Prop :=
  ∀ e ∈ s.entries, ∃ name, naming.readable e.pack.provider = .ok name

instance (s : Selection) : Decidable s.IsKept :=
  decidable_of_iff
    ((∀ e ∈ s.store.versions, e.IsPlain) ∧ ∀ e ∈ s.entries, e.version < s.store.versions.length)
    ⟨fun ⟨plain, known⟩ => ⟨plain, known⟩, fun ⟨plain, known⟩ => ⟨plain, known⟩⟩

instance (naming : Naming) (s : Selection) : Decidable (s.IsNamed naming) :=
  decidable_of_iff (∀ e ∈ s.entries, (naming.readable e.pack.provider).isOk = true) <| by
    refine forall₂_congr fun e _ => ?_
    cases naming.readable e.pack.provider with
    | ok name => simp [Except.isOk, Except.toBool]
    | error f => simp [Except.isOk, Except.toBool]

variable {s : Selection}

theorem length_flag (id : VersionId) (selected : Bool) (store : Store) :
    (store.flag id selected).versions.length = store.versions.length :=
  Store.length_versions_modify id _ store

theorem plain_modify {store : Store} (plain : ∀ e ∈ store.versions, e.IsPlain) (id : VersionId)
    {f : Edited Version → Edited Version} (keeps : ∀ e, e.IsPlain → (f e).IsPlain) :
    ∀ e ∈ (store.modify id f).versions, e.IsPlain := by
  intro e among
  obtain ⟨before, known, rfl | rfl⟩ := exists_of_mem_modify among
  · exact plain _ known
  · exact keeps before (plain before known)

theorem plain_flag {store : Store} (plain : ∀ e ∈ store.versions, e.IsPlain) (id : VersionId)
    (selected : Bool) : ∀ e ∈ (store.flag id selected).versions, e.IsPlain :=
  plain_modify plain id fun _ plain =>
    ⟨fun edit among => plain.unset edit (List.mem_filter.mp among).1, plain.whole⟩

theorem mem_entries_without {pack : Pack} {version : VersionId} {e : Entry} :
    e ∈ (s.without pack version).entries ↔ e ∈ s.entries ∧ e.pack.name ≠ pack.name := by
  simp [without]

theorem mem_entries_having {pack : Pack} {version : VersionId} {indexed : Value} {e : Entry} :
    e ∈ (s.having pack version indexed).entries ↔
      (e ∈ s.entries ∧ e.pack.name ≠ pack.name) ∨ e = { pack, version, indexed } := by
  simp [having, mem_entries_without]

theorem mem_names_without {pack : Pack} {version : VersionId} {name : String} :
    name ∈ (s.without pack version).names ↔ name ∈ s.names ∧ name ≠ pack.name := by
  simp only [names, List.mem_map, mem_entries_without]
  constructor
  · rintro ⟨e, ⟨known, differs⟩, rfl⟩
    exact ⟨⟨e, known, rfl⟩, differs⟩
  · rintro ⟨⟨e, known, rfl⟩, differs⟩
    exact ⟨e, ⟨known, differs⟩, rfl⟩

theorem names_having (pack : Pack) (version : VersionId) (indexed : Value) :
    (s.having pack version indexed).names = (s.without pack version).names ++ [pack.name] := by
  simp [names, having]

theorem nodup_names_without (nodup : s.names.Nodup) (pack : Pack) (version : VersionId) :
    (s.without pack version).names.Nodup :=
  nodup.sublist (List.filter_sublist.map _)

/-- A pack is selected under a name that no other entry has any more. -/
theorem nodup_names_having (nodup : s.names.Nodup) (pack : Pack) (version : VersionId)
    (indexed : Value) : (s.having pack version indexed).names.Nodup := by
  rw [names_having]
  refine List.nodup_append.mpr ⟨nodup_names_without nodup pack version, by simp, ?_⟩
  rintro _ known _ last rfl
  exact (mem_names_without.mp known).2 (List.mem_singleton.mp last)

theorem length_store_without (pack : Pack) (version : VersionId) :
    (s.without pack version).store.versions.length = s.store.versions.length := by
  rw [without]
  cases s.get? pack.name with
  | none => exact length_flag version false s.store
  | some previous =>
      exact (length_flag previous.version false _).trans (length_flag version false _)

theorem isKept_without (kept : s.IsKept) (pack : Pack) (version : VersionId) :
    (s.without pack version).IsKept := by
  refine ⟨?_, fun e among => ?_⟩
  · have plain := plain_flag kept.plain version false
    rw [without]
    cases s.get? pack.name with
    | none => exact plain
    | some previous => exact plain_flag plain previous.version false
  · rw [length_store_without]
    exact kept.known e (mem_entries_without.mp among).1

theorem isKept_having (kept : s.IsKept) (pack : Pack) {version : VersionId}
    (known : version < s.store.versions.length) (indexed : Value) :
    (s.having pack version indexed).IsKept := by
  have without := isKept_without kept pack version
  refine ⟨plain_flag without.plain version true, fun e among => ?_⟩
  have same : (s.having pack version indexed).store.versions.length = s.store.versions.length :=
    (length_flag version true _).trans (length_store_without pack version)
  rw [same]
  rcases mem_entries_having.mp among with ⟨before, -⟩ | rfl
  · exact kept.known e before
  · exact known

/-- If no name has two entries, the entry under a name is the one that has the name. -/
theorem get?_eq_some_iff (distinct : s.names.Nodup) {name : String} {e : Entry} :
    s.get? name = some e ↔ e ∈ s.entries ∧ e.pack.name = name := by
  constructor
  · intro found
    exact ⟨List.mem_of_find?_eq_some found, by simpa using List.find?_some found⟩
  · rintro ⟨known, rfl⟩
    cases found : s.get? e.pack.name with
    | none =>
        have missing := List.find?_eq_none.mp found e known
        simp at missing
    | some e' =>
        have same : e'.pack.name = e.pack.name := by simpa using List.find?_some found
        have one : e' = e :=
          List.inj_on_of_nodup_map distinct (List.mem_of_find?_eq_some found) known same
        rw [one]

/-- The row of an entry of a kept selection can be made. -/
theorem exists_row (kept : s.IsKept) {naming : Naming} (named : s.IsNamed naming) {e : Entry}
    (among : e ∈ s.entries) : ∃ r, s.row naming e = .ok r := by
  obtain ⟨name, readable⟩ := named e among
  have inside := kept.known e among
  have plain := kept.plain _ (List.getElem_mem inside)
  have backlinks : s.store.value e.version Version.requiredByField =
      .list (s.store.versions[e.version].base.requiredBy.map AddonId.toValue) := by
    rw [Store.value, Store.get?, List.getElem?_eq_getElem inside]
    exact plain.value_requiredBy
  rw [row, readable, backlinks]
  exact ⟨_, rfl⟩

/-- A row stands under the name of its pack, and shows whom the version is recorded to be required
by. -/
theorem shows_of_row {naming : Naming} {e : Entry} {r : ReviewRow}
    (made : s.row naming e = .ok r) : r.name = .str e.pack.name ∧
      ∃ names, s.requirers (s.store.value e.version Version.requiredByField) = .ok names ∧
        r.requiredBy = .strings names := by
  rw [row] at made
  cases readable : naming.readable e.pack.provider with
  | error f =>
      rw [readable] at made
      exact nomatch made
  | ok provider =>
      rw [readable] at made
      cases listed : s.requirers (s.store.value e.version Version.requiredByField) with
      | error f =>
          rw [listed] at made
          exact nomatch made
      | ok requirers =>
          rw [listed] at made
          cases made
          exact ⟨rfl, requirers, rfl, rfl⟩

theorem name_of_row {naming : Naming} {e : Entry} {r : ReviewRow}
    (made : s.row naming e = .ok r) : r.name = .str e.pack.name :=
  (shows_of_row made).1

/-- The rows of entries are all appended if each of them can be made. -/
theorem appendRows_fst {naming : Naming} (entries : List Entry) (box : ReviewBox)
    (made : ∀ e ∈ entries, ∃ r, s.row naming e = .ok r) :
    (s.appendRows naming entries box).1 = .ok () := by
  induction entries generalizing box with
  | nil => rfl
  | cons e later ih =>
      obtain ⟨r, row⟩ := made e List.mem_cons_self
      rw [appendRows, row]
      exact ih _ fun e among => made e (List.mem_cons_of_mem _ among)

/-- A kept selection whose providers have names can be presented. -/
theorem review_fst (kept : s.IsKept) {naming : Naming} (named : s.IsNamed naming)
    (box : ReviewBox) : (s.review naming box).1 = .ok () := by
  refine appendRows_fst _ box fun e among => ?_
  exact exists_row kept named (List.mem_mergeSort.mp among)

end Selection

namespace ReviewBox

/-- Every row stands under a name that can be looked up. -/
def IsNamed (b : ReviewBox) : Prop :=
  ∀ r ∈ b.rows, r.name.isHashable = true

theorem isNamed_put {b : ReviewBox} (named : b.IsNamed) {r : ReviewRow}
    (hashable : r.name.isHashable = true) : (b.put r).IsNamed := by
  intro row among
  rw [put] at among
  dsimp only at among
  split at among
  · obtain ⟨old, known, rfl⟩ := List.mem_map.mp among
    split
    · exact hashable
    · exact named old known
  · rcases List.mem_append.mp among with known | new
    · exact named row known
    · rw [List.mem_singleton.mp new]
      exact hashable

theorem isNamed_mark {b : ReviewBox} (named : b.IsNamed) (name enabled : Value) :
    (b.mark name enabled).IsNamed := by
  intro row among
  obtain ⟨old, known, rfl⟩ := List.mem_map.mp among
  split
  · exact named old known
  · exact named old known

theorem isNamed_untick {b : ReviewBox} (named : b.IsNamed) (position : Nat) :
    (b.untick position).IsNamed := by
  rw [untick]
  split
  · exact isNamed_mark named _ _
  · exact named

theorem isNamed_appendRows (s : Selection) (naming : Naming) (entries : List Entry)
    {box : ReviewBox} (named : box.IsNamed) : (s.appendRows naming entries box).2.IsNamed := by
  induction entries generalizing box with
  | nil => exact named
  | cons e later ih =>
      rw [Selection.appendRows]
      split
      · rename_i r made
        refine ih (isNamed_put named ?_)
        rw [Selection.name_of_row made]
        rfl
      · exact named

end ReviewBox

end AddonPicker
