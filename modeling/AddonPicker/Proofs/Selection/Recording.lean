import AddonPicker.Proofs.Selection.Ending
import AddonPicker.Proofs.Selection.Merged

/-!
# What stays with a version

A merge takes a version into the store for every choice. From then on a selection changes nothing
about the version but whether it is selected, and the record of what requires it only grows. So what
is recorded with it stays for good, whatever becomes of the entry that the version was taken in for,
and wherever the merge stops.
-/

namespace AddonPicker

/-- A property of versions that is kept when one is selected or unselected, and when more packs are
recorded to require it. -/
structure Edited.Lasting (P : Edited Version → Prop) : Prop where
  flagged : ∀ e selected, P e → P (e.flagged selected)
  linked : ∀ e ids, P e → P (e.linkAll ids)

/-- The store has a version with a property. -/
def Store.HasAt (store : Store) (id : VersionId) (P : Edited Version → Prop) : Prop :=
  ∃ e, store.get? id = some e ∧ P e

/-- A version shows that it is required by some packs at least. -/
def Edited.Records (ids : List AddonId) (e : Edited Version) : Prop :=
  e.IsPlain ∧ ids ⊆ e.base.requiredBy

/-- What is recorded with a version stays. -/
theorem Edited.lasting_records (ids : List AddonId) : Lasting (Records ids) where
  flagged _ _ records :=
    ⟨⟨fun edit among => records.1.unset edit (List.mem_filter.mp among).1, records.1.whole⟩,
      records.2⟩
  linked e more records := by
    refine ⟨⟨records.1.unset, records.1.whole⟩, List.Subset.trans records.2 ?_⟩
    obtain ⟨added, linked, -⟩ := Version.foldl_link more e.base
    rw [Edited.linkAll, linked]
    exact List.subset_append_left _ _

/-- An entry is of the pack of some choice, and what is recorded with the choice is recorded with
its version. -/
def Entry.StandsFor (cs : List Choice) (store : Store) (e : Entry) : Prop :=
  ∃ d ∈ cs, d.pack = e.pack ∧ store.HasAt e.version (Edited.Records d.version.requiredBy)

namespace Selection

open Act

variable {s s' : Selection} {store store' : Store} {id : VersionId} {ids : List AddonId}
  {cs : List Choice} {old : List Entry} {e : Entry} {P : Edited Version → Prop}

/-- Any version may be changed in a way that keeps the property. -/
theorem hasAt_modify (has : store.HasAt id P) (other : VersionId)
    {f : Edited Version → Edited Version} (keeps : ∀ e, P e → P (f e)) :
    (store.modify other f).HasAt id P := by
  obtain ⟨kept, stored, holds⟩ := has
  by_cases same : other = id
  · subst same
    refine ⟨f kept, ?_, keeps kept holds⟩
    rw [Store.get?_modify_self, stored]
    rfl
  · exact ⟨kept, (Store.get?_modify_of_ne same f store).trans stored, holds⟩

section

variable (lasting : Edited.Lasting P)

include lasting

theorem hasAt_flag (has : store.HasAt id P) (other : VersionId) (selected : Bool) :
    (store.flag other selected).HasAt id P :=
  hasAt_modify has other fun e => lasting.flagged e selected

theorem hasAt_without (has : s.store.HasAt id P) (pack : Pack) (version : VersionId) :
    (s.without pack version).store.HasAt id P := by
  have unselected := hasAt_flag lasting has version false
  rw [without]
  cases s.get? pack.name with
  | none => exact unselected
  | some previous => exact hasAt_flag lasting unselected previous.version false

theorem hasAt_having (has : s.store.HasAt id P) (pack : Pack) (version : VersionId)
    (indexed : Value) : (s.having pack version indexed).store.HasAt id P :=
  hasAt_flag lasting (hasAt_without lasting has pack version) version true

theorem hasAt_storeFor (has : s.store.HasAt id P) (c : Choice) : (s.storeFor c).HasAt id P := by
  have taken : (s.store.take c.toHeld).2.HasAt id P := by
    obtain ⟨kept, stored, holds⟩ := has
    have inside : id < s.store.versions.length := (List.getElem?_eq_some_iff.mp stored).1
    exact ⟨kept, (Store.get?_take_of_lt _ inside).trans stored, holds⟩
  exact hasAt_modify taken (s.idFor c) fun e => lasting.linked e _

/-- The version of a choice comes into the store as the choice has it, but for what it inherits. -/
theorem hasAt_storeFor_self {c : Choice} (apart : s.IsApart [c]) (holds : P (.ofBase c.version)) :
    (s.storeFor c).HasAt (s.idFor c) P := by
  refine ⟨_, apart.get?_storeFor_self, ?_⟩
  rw [inherited, ← Edited.linkAll_ofBase]
  exact lasting.linked _ _ holds

/-- What versions have stays when choices are taken in. -/
theorem hasAt_takenInAll (has : s.store.HasAt id P) (cs : List Choice) :
    (s.takenInAll cs).store.HasAt id P := by
  induction cs generalizing s with
  | nil => exact has
  | cons c later ih =>
      have taken : ({ s with store := s.storeFor c } : Selection).store.HasAt id P :=
        hasAt_storeFor lasting has c
      exact ih (hasAt_having lasting taken c.pack (s.idFor c) (.bool true))

end

/-- Each entry after a merge was one before, or it has the version of a choice. -/
theorem exists_choice_takenInAll (apart : s.IsApart cs) (stands : e ∈ (s.takenInAll cs).entries) :
    e ∈ s.entries ∨ ∃ d ∈ cs, d.pack = e.pack ∧ ∀ P, Edited.Lasting P → P (.ofBase d.version) →
      (s.takenInAll cs).store.HasAt e.version P := by
  induction cs generalizing s with
  | nil => exact .inl stands
  | cons c later ih =>
      rcases ih apart.takenIn stands with before | ⟨d, among, own, has⟩
      · rcases (mem_entries_takenIn apart.head).mp before with ⟨before, -⟩ | rfl
        · exact .inl before
        · refine .inr ⟨c, List.mem_cons_self, rfl, fun P lasting holds => ?_⟩
          have taken : ({ s with store := s.storeFor c } : Selection).store.HasAt (s.idFor c) P :=
            hasAt_storeFor_self lasting apart.head holds
          rw [apart.head.version_entryOf]
          exact hasAt_takenInAll lasting (hasAt_having lasting taken c.pack _ _) later
      · exact .inr ⟨d, List.mem_cons_of_mem _ among, own, has⟩

/-- Each entry is one of before or stands for a choice. -/
def GrowsBy (old : List Entry) (cs : List Choice) (s : Selection) : Prop :=
  ∀ e ∈ s.entries, e ∈ old ∨ e.StandsFor cs s.store

/-- Entries go on to stand for choices as long as the records stay. -/
theorem standsFor_mono (stays : ∀ id ids, store.HasAt id (Edited.Records ids) →
      store'.HasAt id (Edited.Records ids)) (stands : e.StandsFor cs store) :
    e.StandsFor cs store' := by
  obtain ⟨d, carried, own, records⟩ := stands
  exact ⟨d, carried, own, stays _ _ records⟩

theorem GrowsBy.mono (grows : s.GrowsBy old cs) (entries : ∀ e ∈ s'.entries, e ∈ s.entries)
    (stays : ∀ id ids, s.store.HasAt id (Edited.Records ids) →
      s'.store.HasAt id (Edited.Records ids)) : s'.GrowsBy old cs := by
  intro e among
  exact (grows e (entries e among)).imp_right (standsFor_mono stays)

/-- A choice comes into the store, and the entry that is to be made stands for it. -/
theorem GrowsBy.storeFor (grows : s.GrowsBy old cs) {c : Choice} (carried : c ∈ cs)
    (apart : s.IsApart [c]) :
    ({ s with store := s.storeFor c } : Selection).GrowsBy old cs ∧
      (Entry.mk c.pack (s.idFor c) (.bool true)).StandsFor cs (s.storeFor c) := by
  constructor
  · exact grows.mono (fun _ among => among) fun _ ids records =>
      hasAt_storeFor (Edited.lasting_records ids) records c
  · exact ⟨c, carried, rfl, hasAt_storeFor_self (Edited.lasting_records _) apart
      ⟨Edited.isPlain_ofBase _, List.Subset.refl _⟩⟩

/-- Wherever the selection of a version stops, each entry is old or stands for a choice, if the
entry that is made does. -/
theorem keeps_growsBy_add (old : List Entry) (cs : List Choice) (pack : Pack) (id : VersionId)
    (indexed : Value) : Keeps (fun s => s.GrowsBy old cs ∧
        (Entry.mk pack id indexed).StandsFor cs s.store) (add pack id indexed) := by
  refine keeps_add ?_ ?_ ?_
  · rintro s s' ⟨pages, j, -, rfl⟩ holds
    exact holds
  · rintro s ⟨grows, stands⟩
    have stays (i : VersionId) (links : List AddonId)
        (records : s.store.HasAt i (Edited.Records links)) :=
      hasAt_without (Edited.lasting_records links) records pack id
    exact ⟨grows.mono (fun e among => (mem_entries_without.mp among).1) stays,
      standsFor_mono stays stands⟩
  · rintro s ⟨grows, stands⟩
    have stays (i : VersionId) (links : List AddonId)
        (records : s.store.HasAt i (Edited.Records links)) :=
      hasAt_having (Edited.lasting_records links) records pack id indexed
    have stands := standsFor_mono stays stands
    refine ⟨fun e among => ?_, stands⟩
    rcases mem_entries_having.mp among with ⟨before, -⟩ | rfl
    · exact (grows e before).imp_right (standsFor_mono stays)
    · exact .inr stands

end Selection

end AddonPicker
