import AddonPicker.Proofs.Selection.Ending
import AddonPicker.Proofs.Selection.Merged
import Mathlib.Logic.Function.Basic

/-!
# Versions that mirror the selection

A version has a flag that says whether it is selected, for pages to render. The flag is set in one
place and cleared in two, and between these places others are asked who may refuse. It is right all
the same wherever an operation stops, as long as no version goes by two names: what is unflagged is
dropped before anyone is told, and so is what is flagged entered.
-/

namespace AddonPicker

/-- A version shows whether it is selected: it has its attributes, and that among them. -/
structure Edited.Shows (e : Edited Version) (selected : Bool) : Prop where
  whole : e.isStripped = false
  value : e.value Version.isSelectedField.name = .bool selected

/-- A version that has its attributes shows what its flag is set to. -/
theorem Edited.shows_flagged {e : Edited Version} (whole : e.isStripped = false)
    (selected : Bool) : (e.flagged selected).Shows selected := by
  refine ⟨whole, ?_⟩
  have unset : ∀ edit ∈ (e.flagged selected).edits, edit.1 ≠ Version.isSelectedField.name := by
    intro edit among
    simpa using (List.mem_filter.mp among).2
  have whole : (e.flagged selected).isStripped = false := whole
  rw [Edited.value, Edited.value?, Edited.attributes, whole]
  exact congrArg (Option.getD · .null) (lookup_foldl_store (e.flagged selected).edits _ unset)

/-- Every version of a store shows whether it is selected. -/
def Store.Shows (s : Store) (selected : VersionId → Bool) : Prop :=
  ∀ id v, s.get? id = some v → v.Shows (selected id)

/-- Setting the flag of a version shows, and changes nothing for the others. -/
theorem Store.Shows.flag {s : Store} {selected : VersionId → Bool} (shows_ : s.Shows selected)
    (id : VersionId) (flag : Bool) :
    (s.flag id flag).Shows (Function.update selected id flag) := by
  intro other v stored
  by_cases same : other = id
  · subst same
    rw [Selection.get?_flag_self, Option.map_eq_some_iff] at stored
    obtain ⟨before, known, rfl⟩ := stored
    rw [Function.update_self]
    exact Edited.shows_flagged (shows_ other before known).whole flag
  · rw [Selection.get?_flag_of_ne (Ne.symm same)] at stored
    rw [Function.update_of_ne same]
    exact shows_ other v stored

namespace Selection

/-- Something that is asked of a selection. -/
inductive Change
  | add (pack : Pack) (version : VersionId) (indexed : Value)
  | remove (pack : Pack) (version : VersionId)
  | removeByName (name : Value)

/-- What a change makes of a selection, whether or not it fails. -/
def Change.make (s : Selection) : Change → Selection
  | .add pack version indexed => ((Selection.add pack version indexed).perform s).2
  | .remove pack version => ((Selection.remove pack version).perform s).2
  | .removeByName name => ((Selection.removeByName name).perform s).2

/-- What changes make of a selection, one after the other. -/
def after (s : Selection) (changes : List Change) : Selection :=
  changes.foldl Change.make s

/-- A change that brings a version together with a pack brings it under its name. -/
def Change.KeepsNames (nameOf : VersionId → String) : Change → Prop
  | .add pack version _ => pack.name = nameOf version
  | .remove pack version => pack.name = nameOf version
  | .removeByName _ => True

/-- Whether a version is that of an entry. -/
def isChosen (s : Selection) (id : VersionId) : Bool :=
  s.entries.any (·.version == id)

/-- Versions show whether they are those of entries. A name has one entry at most, and a version
goes by one name. -/
structure Mirrors (nameOf : VersionId → String) (s : Selection) : Prop where
  names : s.names.Nodup
  named : ∀ e ∈ s.entries, e.pack.name = nameOf e.version
  flags : s.store.Shows s.isChosen

variable {nameOf : VersionId → String} {s s' : Selection} {pack : Pack} {version : VersionId}

theorem isChosen_iff {id : VersionId} :
    s.isChosen id = true ↔ ∃ e ∈ s.entries, e.version = id := by
  simp [isChosen]

/-- A version that goes by the name of a dropped pack is not chosen. -/
theorem isChosen_without_of_name (mirrors : s.Mirrors nameOf) {id : VersionId}
    (name : nameOf id = pack.name) : (s.without pack version).isChosen id = false := by
  rw [Bool.eq_false_iff]
  intro chosen
  obtain ⟨e, among, rfl⟩ := isChosen_iff.mp chosen
  obtain ⟨known, differs⟩ := mem_entries_without.mp among
  exact differs ((mirrors.named e known).trans name)

/-- A version that is not that of the dropped entry is chosen if it was before. -/
theorem isChosen_without_of_ne (mirrors : s.Mirrors nameOf) {id : VersionId}
    (other : ∀ e, s.get? pack.name = some e → e.version ≠ id) :
    (s.without pack version).isChosen id = s.isChosen id := by
  rw [Bool.eq_iff_iff, isChosen_iff, isChosen_iff]
  constructor
  · rintro ⟨e, among, same⟩
    exact ⟨e, (mem_entries_without.mp among).1, same⟩
  · rintro ⟨e, among, same⟩
    refine ⟨e, mem_entries_without.mpr ⟨among, fun name => ?_⟩, same⟩
    cases found : s.get? pack.name with
    | none =>
        have unknown := List.find?_eq_none.mp found e among
        simp [name] at unknown
    | some e' =>
        have known := List.mem_of_find?_eq_some found
        have name' : e'.pack.name = pack.name := by simpa using List.find?_some found
        have one : e = e' := List.inj_on_of_nodup_map mirrors.names among known
          (name.trans name'.symm)
        exact other e' found (one ▸ same)

/-- Without an entry to drop, the given version is not chosen, and the others are as before. -/
theorem isChosen_without_of_none (mirrors : s.Mirrors nameOf) (name : pack.name = nameOf version)
    (unknown : s.get? pack.name = none) :
    (s.without pack version).isChosen = Function.update s.isChosen version false := by
  funext id
  by_cases own : id = version
  · rw [own, Function.update_self]
    exact isChosen_without_of_name mirrors name.symm
  · rw [Function.update_of_ne own]
    refine isChosen_without_of_ne mirrors fun e found => ?_
    rw [unknown] at found
    cases found

/-- Otherwise this goes for the version of the dropped entry too. -/
theorem isChosen_without_of_some (mirrors : s.Mirrors nameOf) (name : pack.name = nameOf version)
    {previous : Entry} (known : s.get? pack.name = some previous) :
    (s.without pack version).isChosen =
      Function.update (Function.update s.isChosen version false) previous.version false := by
  funext id
  by_cases dropped : id = previous.version
  · rw [dropped, Function.update_self]
    have name' : previous.pack.name = pack.name := by simpa using List.find?_some known
    refine isChosen_without_of_name mirrors ?_
    rw [← mirrors.named previous (List.mem_of_find?_eq_some known), name']
  rw [Function.update_of_ne dropped]
  by_cases own : id = version
  · rw [own, Function.update_self]
    exact isChosen_without_of_name mirrors name.symm
  · rw [Function.update_of_ne own]
    refine isChosen_without_of_ne mirrors fun e found => ?_
    rw [known] at found
    cases found
    exact Ne.symm dropped

theorem Mirrors.without (mirrors : s.Mirrors nameOf) (name : pack.name = nameOf version) :
    (s.without pack version).Mirrors nameOf where
  names := nodup_names_without mirrors.names pack version
  named e among := mirrors.named e (mem_entries_without.mp among).1
  flags := by
    cases found : s.get? pack.name with
    | none =>
        rw [isChosen_without_of_none mirrors name found, without_of_none found]
        exact mirrors.flags.flag version false
    | some previous =>
        rw [isChosen_without_of_some mirrors name found, without_of_some found]
        exact (mirrors.flags.flag version false).flag previous.version false

theorem isChosen_having (s : Selection) (pack : Pack) (version : VersionId) (indexed : Value) :
    (s.having pack version indexed).isChosen =
      Function.update (s.without pack version).isChosen version true := by
  funext id
  rw [Bool.eq_iff_iff, isChosen_iff]
  by_cases own : id = version
  · rw [own, Function.update_self]
    exact ⟨fun _ => rfl, fun _ => ⟨_, mem_entries_having.mpr (.inr rfl), rfl⟩⟩
  · rw [Function.update_of_ne own, isChosen_iff]
    constructor
    · rintro ⟨e, among, same⟩
      rcases mem_entries_having.mp among with before | rfl
      · exact ⟨e, mem_entries_without.mpr before, same⟩
      · exact absurd same.symm own
    · rintro ⟨e, among, same⟩
      exact ⟨e, mem_entries_having.mpr (.inl (mem_entries_without.mp among)), same⟩

theorem Mirrors.having (mirrors : s.Mirrors nameOf) (name : pack.name = nameOf version)
    (indexed : Value) : (s.having pack version indexed).Mirrors nameOf where
  names := nodup_names_having mirrors.names pack version indexed
  named e among := by
    rcases mem_entries_having.mp among with ⟨before, -⟩ | rfl
    · exact mirrors.named e before
    · exact name
  flags := by
    rw [isChosen_having]
    exact (mirrors.without name).flags.flag version true

/-- The journal and the marks have no part in it. -/
theorem Mirrors.of_fades {name : String} (mirrors : s.Mirrors nameOf) (fades : s.Fades name s') :
    s'.Mirrors nameOf := by
  obtain ⟨pages, j, -, rfl⟩ := fades
  exact ⟨mirrors.names, mirrors.named, mirrors.flags⟩

/-- However it ends, versions mirror the selection after a pack is deselected. -/
theorem Mirrors.remove (mirrors : s.Mirrors nameOf) (name : pack.name = nameOf version) :
    ((Selection.remove pack version).perform s).2.Mirrors nameOf :=
  keeps_remove (fun _ _ fades mirrors => mirrors.of_fades fades)
    (fun _ mirrors => mirrors.without name) s mirrors

/-- However it ends, they do after a version is selected. -/
theorem Mirrors.add (mirrors : s.Mirrors nameOf) (name : pack.name = nameOf version)
    (indexed : Value) : ((Selection.add pack version indexed).perform s).2.Mirrors nameOf :=
  keeps_add (fun _ _ fades mirrors => mirrors.of_fades fades)
    (fun _ mirrors => mirrors.without name) (fun _ mirrors => mirrors.having name indexed)
    s mirrors

/-- An entry that is looked up is one of those that are there. -/
theorem mem_of_lookUp {name : Value} {e : Entry} (looked : s.lookUp name = .ok (some e)) :
    e ∈ s.entries := by
  unfold lookUp at looked
  split at looked
  · exact List.mem_of_find?_eq_some (Except.ok.inj looked)
  · split at looked <;> cases looked

/-- What is dropped by name goes by that name. -/
theorem Mirrors.removeByName (mirrors : s.Mirrors nameOf) (name : Value) :
    ((Selection.removeByName name).perform s).2.Mirrors nameOf := by
  rw [Selection.removeByName, Act.perform_bind, Act.perform_get]
  dsimp only
  rw [Act.perform_bind, Act.perform_check]
  cases looked : s.lookUp name with
  | error f => exact mirrors
  | ok found =>
      cases found with
      | none => exact mirrors
      | some e =>
          exact mirrors.remove (mirrors.named e (mem_of_lookUp looked))

/-- So they do after every change. -/
theorem Mirrors.make (mirrors : s.Mirrors nameOf) {c : Change} (keeps : c.KeepsNames nameOf) :
    (c.make s).Mirrors nameOf := by
  cases c with
  | add pack version indexed => exact mirrors.add keeps indexed
  | remove pack version => exact mirrors.remove keeps
  | removeByName name => exact mirrors.removeByName name

theorem Mirrors.after (mirrors : s.Mirrors nameOf) {changes : List Change}
    (keeps : ∀ c ∈ changes, c.KeepsNames nameOf) : (s.after changes).Mirrors nameOf := by
  induction changes generalizing s with
  | nil => exact mirrors
  | cons c later ih =>
      exact ih (mirrors.make (keeps c List.mem_cons_self))
        fun c among => keeps c (List.mem_cons_of_mem _ among)

/-- Whatever is asked of a selection that begins with nothing selected, and whoever refuses it, a
version shows that it is selected just if it is that of an entry. -/
theorem shows_after (empty : s.entries = []) (unselected : ∀ v ∈ s.store.versions, v.Shows false)
    {changes : List Change} (keeps : ∀ c ∈ changes, c.KeepsNames nameOf) :
    (s.after changes).store.Shows fun id =>
      decide (∃ e ∈ (s.after changes).entries, e.version = id) := by
  have mirrors : s.Mirrors nameOf := by
    refine ⟨?_, ?_, fun id v stored => ?_⟩
    · rw [Selection.names, empty]
      exact List.nodup_nil
    · rw [empty]
      exact fun e among => absurd among List.not_mem_nil
    · rw [isChosen, empty]
      exact unselected v (List.mem_of_getElem? stored)
  have same : (fun id => decide (∃ e ∈ (s.after changes).entries, e.version = id)) =
      (s.after changes).isChosen := by
    funext id
    rw [Bool.eq_iff_iff, decide_eq_true_iff, isChosen_iff]
  rw [same]
  exact (mirrors.after keeps).flags

/-- A page that keeps its mark of one name, and a listener that wants nothing to be selected. -/
def contested : Selection where
  store := ⟨List.replicate 3
    (.ofBase { addonId := .text "a", fileId := .text "f", fileName := "a.jar" })⟩
  pages := [{ refusal := fun _ name =>
    if name = "Fixed" then some (.raised "RuntimeError" "page failed") else none }]
  listeners := [{
    note := fun _ _ => none
    refusal := fun _ empty =>
      if empty then none else some (.raised "RuntimeError" "listener failed") }]

/-- A pack, and one of the name that the page keeps. -/
def contestedPack (name : String) : Pack where
  addonId := .text "a"
  name := name
  provider := .modrinth

/-- Two versions of a pack are selected, one after the other, and the pack of the other name is
deselected. All three are refused, by the listener after the versions are entered and by the page
before anything happens. -/
def contestedChanges : List Change :=
  [.add (contestedPack "Loose") 0 (.bool false), .add (contestedPack "Loose") 1 (.bool false),
    .remove (contestedPack "Fixed") 2]

/-- The second version is that of the entry, so it is the one that shows to be selected. -/
theorem shows_after_contested :
    (contested.entries = [] ∧ (∀ v ∈ contested.store.versions, v.Shows false) ∧
      ∀ c ∈ contestedChanges, c.KeepsNames fun id => if id = 2 then "Fixed" else "Loose") ∧
      ((contested.after contestedChanges).store.Shows fun id =>
        decide (∃ e ∈ (contested.after contestedChanges).entries, e.version = id)) ∧
      (contested.after contestedChanges).entries.map (·.version) = [1] := by
  have unselected : ∀ v ∈ contested.store.versions, v.Shows false := by
    intro v among
    rw [List.eq_of_mem_replicate among]
    exact ⟨rfl, rfl⟩
  have keeps : ∀ c ∈ contestedChanges,
      c.KeepsNames fun id => if id = 2 then "Fixed" else "Loose" := by
    simp [contestedChanges, Change.KeepsNames, contestedPack]
  exact ⟨⟨rfl, unselected, keeps⟩, shows_after rfl unselected keeps, rfl⟩

end Selection

end AddonPicker
