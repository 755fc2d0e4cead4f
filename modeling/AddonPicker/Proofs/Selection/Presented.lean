import AddonPicker.Proofs.Selection.Requirers
import AddonPicker.Rehearsal.SelectionScene
import Mathlib.Data.List.Forall2

/-!
# What a review presents

A review has one row for each entry, in the order of the folded names. Different names may fold
alike, and so the rows are told apart by their names, while their order is that of the entries as
far as folding does not tell names apart. Every row shows what its own entry holds, and it names the
earliest entries with the ids that are recorded to require the version.

Whether there is a row for every entry hangs on two things that are not up to the review: the table
that names the providers, and that what is recorded of a version can be gone through.
-/

namespace AddonPicker.Selection

variable {s : Selection} {naming : Naming}

/-- An entry comes before another one in a review if its folded name does. -/
theorem comesFirst_iff {a b : String} : comesFirst a b = true ↔ Text.fold a ≤ Text.fold b := by
  rw [comesFirst, Bool.not_eq_true', decide_eq_false_iff_not, String.not_lt]

/-- The entry is the earliest one whose pack has an id. -/
def IsEarliest (s : Selection) (id : Value) (e : Entry) : Prop :=
  ∃ before after, s.entries = before ++ e :: after ∧ e.pack.addonId.toValue.agrees id = true ∧
    ∀ e' ∈ before, e'.pack.addonId.toValue.agrees id = false

/-- Names for ids in order: that of the earliest entry with the id, and none if there is no entry
with it. -/
inductive NamesOf (s : Selection) : List Value → List String → Prop
  | nil : NamesOf s [] []
  | named {id : Value} {e : Entry} {ids : List Value} {names : List String}
      (earliest : s.IsEarliest id e) (later : NamesOf s ids names) :
      NamesOf s (id :: ids) (e.pack.name :: names)
  | skipped {id : Value} {ids : List Value} {names : List String}
      (absent : ∀ e ∈ s.entries, e.pack.addonId.toValue.agrees id = false)
      (later : NamesOf s ids names) : NamesOf s (id :: ids) names

/-- The requirers that are looked up are the names for the ids. -/
theorem namesOf_filterMap (s : Selection) (ids : List Value) :
    s.NamesOf ids (ids.filterMap s.nameOf?) := by
  induction ids with
  | nil => exact .nil
  | cons id later ih =>
      rw [List.filterMap_cons, nameOf?]
      cases found : s.entries.find? (·.pack.addonId.toValue.agrees id) with
      | none =>
          refine .skipped (fun e among => ?_) ih
          simpa using List.find?_eq_none.mp found e among
      | some e =>
          obtain ⟨agrees, before, after, split, unlike⟩ := List.find?_eq_some_iff_append.mp found
          refine .named ⟨before, after, split, agrees, fun e' early => ?_⟩ ih
          simpa using unlike e' early

/-- What the row of an entry shows. -/
structure ShownBy (s : Selection) (naming : Naming) (e : Entry) (r : ReviewRow) : Prop where
  name : r.name = .str e.pack.name
  fileName : r.fileName = s.store.value e.version Version.fileNameField
  customPath : r.customPath = if (s.store.value e.version Version.customFolderField).isTrue then
    s.store.value e.version Version.customFolderField else .str ""
  provider : naming.readable e.pack.provider = .ok r.provider
  requiredBy : ∃ ids names,
    (s.store.value e.version Version.requiredByField).members? = some ids ∧ s.NamesOf ids names ∧
      r.requiredBy = .strings names
  enabled : r.enabled = .bool true

/-- The row that is made of an entry shows it. -/
theorem shownBy_of_row {e : Entry} {r : ReviewRow} (made : s.row naming e = .ok r) :
    s.ShownBy naming e r := by
  rw [row] at made
  cases readable : naming.readable e.pack.provider with
  | error f =>
      rw [readable] at made
      cases made
  | ok provider =>
      rw [readable, requirers] at made
      cases members : (s.store.value e.version Version.requiredByField).members? with
      | none =>
          rw [members] at made
          cases made
      | some ids =>
          rw [members] at made
          cases made
          exact ⟨rfl, rfl, rfl, readable, ⟨ids, _, members, s.namesOf_filterMap ids, rfl⟩, rfl⟩

/-- What is recorded to require the versions of the entries can be gone through. -/
def RecordsIds (s : Selection) : Prop :=
  ∀ e ∈ s.entries, ((s.store.value e.version Version.requiredByField).members?).isSome = true

instance : Decidable s.RecordsIds := inferInstanceAs (Decidable (∀ e ∈ s.entries, _))

/-- The row of an entry can be made if its provider has a name and its requirers can be looked
up. -/
theorem exists_row_of_isNamed (named : s.IsNamed naming) (records : s.RecordsIds) {e : Entry}
    (among : e ∈ s.entries) : ∃ r, s.row naming e = .ok r := by
  obtain ⟨provider, readable⟩ := named e among
  obtain ⟨ids, members⟩ := Option.isSome_iff_exists.mp (records e among)
  rw [row, readable, requirers, members]
  exact ⟨_, rfl⟩

/-- The rows of entries with different names come after those that are there, one for each entry and
in the same order. -/
theorem exists_rows_appendRows {entries : List Entry} {box : ReviewBox} {names : List String}
    (lists : box.Lists names) (nodup : (names ++ entries.map (·.pack.name)).Nodup)
    (made : ∀ e ∈ entries, ∃ r, s.row naming e = .ok r) :
    ∃ rows, s.appendRows naming entries box = (.ok (), { box with rows := box.rows ++ rows }) ∧
      List.Forall₂ (s.ShownBy naming) entries rows := by
  induction entries generalizing box names with
  | nil => exact ⟨[], by rw [appendRows, List.append_nil], .nil⟩
  | cons e later ih =>
      obtain ⟨r, row⟩ := made e List.mem_cons_self
      have new := not_mem_of_nodup_append_cons nodup
      have put : box.put r = { box with rows := box.rows ++ [r] } := by
        rw [← ReviewBox.rows_put lists (name_of_row row) new]
        rfl
      rw [List.map_cons, List.append_cons] at nodup
      obtain ⟨rows, appended, shown⟩ := ih (ReviewBox.lists_put lists (name_of_row row) new) nodup
        fun e among => made e (List.mem_cons_of_mem _ among)
      refine ⟨r :: rows, ?_, .cons (shownBy_of_row row) shown⟩
      rw [appendRows, row]
      dsimp only
      rw [appended, put]
      dsimp only
      rw [List.append_assoc]
      rfl

/-- Entries in the order of a review: that of the folded names, and that of the selection among
names that fold alike. -/
structure Orders (s : Selection) (presented : List Entry) : Prop where
  all : presented.Perm s.entries
  sorted : presented.Pairwise fun e e' => Text.fold e.pack.name ≤ Text.fold e'.pack.name
  stable : ∀ folded, presented.filter (fun e => Text.fold e.pack.name == folded) =
    s.entries.filter fun e => Text.fold e.pack.name == folded

theorem orders_sortedEntries (s : Selection) : s.Orders s.sortedEntries := by
  have trans (a b c : Entry) (first : comesFirst a.pack.name b.pack.name = true)
      (second : comesFirst b.pack.name c.pack.name = true) :
      comesFirst a.pack.name c.pack.name = true := by
    rw [comesFirst_iff] at first second ⊢
    exact String.le_trans first second
  have total (a b : Entry) :
      (comesFirst a.pack.name b.pack.name || comesFirst b.pack.name a.pack.name) = true := by
    rw [Bool.or_eq_true, comesFirst_iff, comesFirst_iff]
    exact String.le_total _ _
  have all : s.sortedEntries.Perm s.entries := List.mergeSort_perm _ _
  refine ⟨all, ?_, fun folded => ?_⟩
  · exact (List.pairwise_mergeSort trans total s.entries).imp fun first => comesFirst_iff.mp first
  · -- Entries whose names fold alike are in order as they stand, so that sorting keeps them so.
    let alike (e : Entry) : Bool := Text.fold e.pack.name == folded
    have ordered : (s.entries.filter alike).Pairwise
        fun e e' => comesFirst e.pack.name e'.pack.name = true := by
      refine List.pairwise_of_forall_mem_list fun e among e' among' => ?_
      have same : Text.fold e.pack.name = folded := by simpa [alike] using (List.mem_filter.mp among).2
      have same' : Text.fold e'.pack.name = folded := by
        simpa [alike] using (List.mem_filter.mp among').2
      refine comesFirst_iff.mpr ?_
      exact same.trans same'.symm ▸ String.le_refl (Text.fold e.pack.name)
    have kept : (s.entries.filter alike).Sublist s.sortedEntries :=
      List.sublist_mergeSort trans total ordered List.filter_sublist
    have inside := kept.filter alike
    simp only [List.filter_filter, Bool.and_self] at inside
    exact (inside.eq_of_length (all.filter alike).length_eq.symm).symm

open Rehearsal in
/-- A review into an empty box has one row for each entry and no other, in the order of the folded
names and then of the selection, and each row shows its own entry. Nothing else changes but the
box. -/
theorem presents_of_review (scene : SelectionScene) (distinct : scene.selection.names.Nodup)
    (named : scene.selection.IsNamed scene.naming) (records : scene.selection.RecordsIds)
    (blank : scene.box.rows = []) :
    ∃ presented rows, scene.selection.Orders presented ∧
      List.Forall₂ (scene.selection.ShownBy scene.naming) presented rows ∧
      scene.selection.review scene.naming scene.box = (.ok (), { scene.box with rows }) ∧
      (SelectionScene.step .buildReview).perform scene =
        (.ok (.bool true), { scene with box := { scene.box with rows } }) := by
  have orders := scene.selection.orders_sortedEntries
  have lists : scene.box.Lists [] := congrArg (List.map _) blank
  have nodup : ([] ++ scene.selection.sortedEntries.map fun e : Entry => e.pack.name).Nodup :=
    scene.selection.perm_names_sortedEntries.nodup_iff.mpr distinct
  obtain ⟨rows, appended, shown⟩ := exists_rows_appendRows lists nodup fun e among =>
    exists_row_of_isNamed named records (orders.all.mem_iff.mp among)
  rw [blank, List.nil_append] at appended
  have reviewed : scene.selection.review scene.naming scene.box =
      (.ok (), { scene.box with rows }) := appended
  refine ⟨_, rows, orders, shown, reviewed, ?_⟩
  rw [SelectionScene.step, Act.perform_bind, Act.perform_get]
  dsimp only
  rw [reviewed]
  rfl

/-- A version with a file of its own that some packs are recorded to require. -/
def filed (i : Int) (fileName : String) (requiredBy : List AddonId) : Version where
  addonId := .number i
  fileId := .number i
  fileName := fileName
  requiredBy := requiredBy

/-- Two packs whose names fold alike, after one whose name comes before theirs. The id seven belongs
to both of them, and nobody has the id nine. -/
def streets : Rehearsal.SelectionScene where
  pool := ⟨[], []⟩
  naming := .standard
  selection := {
    store := { versions := [.ofBase (filed 8 "lane.jar" [.number 9, .number 7, .number 8]),
      .ofBase (filed 7 "strasse.jar" []), .ofBase (filed 7 "street.zip" [.number 8])] }
    entries := [⟨⟨.number 7, "straße", "", .modrinth, "", none, []⟩, 1, .bool false⟩,
      ⟨⟨.number 7, "STRASSE", "", .curseForge, "", none, []⟩, 2, .bool false⟩,
      ⟨⟨.number 8, "Lane", "", .modrinth, "", none, []⟩, 0, .bool true⟩] }
  box := { title := .str "Confirm" }

/-- Folding does not tell the two apart, and each of them has a row. -/
theorem presents_of_review_streets :
    streets.selection.names.Nodup ∧ streets.selection.IsNamed streets.naming ∧
      streets.selection.RecordsIds ∧ streets.box.rows = [] ∧
      Text.fold "straße" = Text.fold "STRASSE" ∧
      ∃ presented rows, streets.selection.Orders presented ∧
        List.Forall₂ (streets.selection.ShownBy streets.naming) presented rows ∧
        streets.selection.review streets.naming streets.box =
          (.ok (), { streets.box with rows }) ∧
        (Rehearsal.SelectionScene.step .buildReview).perform streets =
          (.ok (.bool true), { streets with box := { streets.box with rows } }) := by
  have distinct : streets.selection.names.Nodup := by decide
  have named : streets.selection.IsNamed streets.naming := by decide
  have records : streets.selection.RecordsIds := by decide
  exact ⟨distinct, named, records, rfl, by decide +kernel,
    presents_of_review streets distinct named records rfl⟩

end AddonPicker.Selection
