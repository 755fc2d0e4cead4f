import AddonPicker.Proofs.Dialog.Heard
import AddonPicker.Proofs.Dialog.Lasting
import AddonPicker.Proofs.Selection.Flags

/-!
# Versions on the shelf

A dialog flags the versions that are handed to it and those of its entries, and it selects those
that its runs have found, which are the runs' own. All others are spared, whatever happens: they are
never those of entries, and they stay in the store as they are.
-/

namespace AddonPicker

/-- An event that hands in no version but those that may be handed in. -/
def DialogEvent.IsHanded (handed : VersionId → Prop) : DialogEvent → Prop
  | .add _ version _ => handed version
  | .remove _ version => handed version
  | .pick _ _ version => handed version
  | _ => True

namespace Selection

open Act

/-- No entry is of a version, and the store has it as it is given. -/
structure Shelves (id : VersionId) (v : Edited Version) (s : Selection) : Prop where
  apart : ∀ e ∈ s.entries, e.version ≠ id
  stored : s.store.get? id = some v

variable {id : VersionId} {v : Edited Version} {s s' : Selection} {pack : Pack}
  {version : VersionId} {indexed : Value}

theorem Shelves.of_same (shelves : s.Shelves id v) (entries : s'.entries = s.entries)
    (store : s'.store = s.store) : s'.Shelves id v :=
  ⟨entries ▸ shelves.apart, store ▸ shelves.stored⟩

theorem Shelves.of_fades {name : String} (shelves : s.Shelves id v) (fades : s.Fades name s') :
    s'.Shelves id v := by
  obtain ⟨pages, j, -, rfl⟩ := fades
  exact shelves.of_same rfl rfl

/-- A choice comes into the store whose version nobody else holds. -/
theorem Shelves.storeFor (shelves : s.Shelves id v) {c : Choice} (own : c.shared = none) :
    s.idFor c ≠ id ∧ ({ s with store := s.storeFor c } : Selection).Shelves id v := by
  obtain ⟨inside, -⟩ := List.getElem?_eq_some_iff.mp shelves.stored
  have other : id ≠ s.idFor c := idFor_of_own own ▸ Nat.ne_of_lt inside
  exact ⟨other.symm, shelves.apart, (get?_storeFor_of_ne inside other).trans shelves.stored⟩

theorem Shelves.without (shelves : s.Shelves id v) (other : version ≠ id) :
    (s.without pack version).Shelves id v := by
  refine ⟨fun e among => shelves.apart e (mem_entries_without.mp among).1, ?_⟩
  cases found : s.get? pack.name with
  | none =>
      rw [without_of_none found]
      exact (get?_flag_of_ne other false _).trans shelves.stored
  | some previous =>
      have apart := shelves.apart previous (List.mem_of_find?_eq_some found)
      rw [without_of_some found]
      exact (get?_flag_of_ne apart false _).trans
        ((get?_flag_of_ne other false _).trans shelves.stored)

theorem Shelves.having (shelves : s.Shelves id v) (other : version ≠ id) :
    (s.having pack version indexed).Shelves id v := by
  have without : (s.without pack version).Shelves id v := shelves.without other
  refine ⟨fun e among => ?_, (get?_flag_of_ne other true _).trans without.stored⟩
  rcases mem_entries_having.mp among with ⟨before, -⟩ | rfl
  · exact shelves.apart e before
  · exact other

/-- A version is spared by deselecting a pack with another version. -/
theorem keeps_shelves_remove (other : version ≠ id) : Keeps (Shelves id v) (remove pack version) :=
  keeps_remove (fun _ _ fades shelves => shelves.of_fades fades) fun _ shelves =>
    shelves.without other

theorem keeps_shelves_add (other : version ≠ id) :
    Keeps (Shelves id v) (add pack version indexed) :=
  keeps_add (fun _ _ fades shelves => shelves.of_fades fades)
    (fun _ shelves => shelves.without other) fun _ shelves => shelves.having other

/-- What is dropped by its name is an entry of another version. -/
theorem keeps_shelves_removeByName (name : Value) : Keeps (Shelves id v) (removeByName name) := by
  intro s shelves
  rw [removeByName, perform_bind, perform_get]
  dsimp only
  rw [perform_bind, perform_check]
  cases looked : s.lookUp name with
  | error f => exact shelves
  | ok found =>
      cases found with
      | none => exact shelves
      | some e => exact keeps_shelves_remove (shelves.apart e (mem_of_lookUp looked)) s shelves

end Selection

namespace Session

open Act

variable {id : VersionId} {v : Edited Version} {s : Session}

/-- A version is on the shelf of a dialog, and no user of a review hands it in. -/
structure Shelves (id : VersionId) (v : Edited Version) (s : Session) : Prop where
  selection : s.selection.Shelves id v
  plans : ∀ n, (s.reviewPlan n).IsHanded (· ≠ id)
  stages : ∀ k ∈ s.confirmations, k.stage.IsHanded (· ≠ id)

theorem keeps_shelves_onSelection {α : Type} {a : Act Selection α}
    (keeps : Keeps (Selection.Shelves id v) a) : Keeps (Shelves id v) (onSelection a) :=
  fun s shelves => ⟨keeps s.selection shelves.selection, shelves.plans, shelves.stages⟩

theorem keeps_shelves_edit (f : Journal → Journal) :
    Keeps (Shelves id v) (Journaled.edit f : Act Session Unit) :=
  keeps_modify fun _ shelves => ⟨shelves.selection.of_same rfl rfl, shelves.plans, shelves.stages⟩

/-- A merge selects versions that nobody else holds. -/
theorem keeps_shelves_mergeOne {c : Choice} (own : c.shared = none) :
    Keeps (Shelves id v) (mergeOne c) := by
  intro s shelves
  obtain ⟨other, taken⟩ := shelves.selection.storeFor own
  have adds : Keeps (Selection.Shelves id v)
      (Selection.add c.pack (s.selection.idFor c) (.bool true)) :=
    Selection.keeps_shelves_add other
  have selects := (keeps_shelves_onSelection adds).bind fun _ => keeps_pure ()
  exact selects { s with selection := { s.selection with store := s.selection.storeFor c } }
    ⟨taken, shelves.plans, shelves.stages⟩

theorem tended_shelves : Tended (Shelves id v) where
  say _ _ := keeps_shelves_edit _
  note _ _ _ := keeps_shelves_edit _
  adopt _ _ _ shelves := ⟨shelves.selection, shelves.plans, shelves.stages⟩
  start _ := keeps_start fun _ _ _ _ _ shelves => ⟨shelves.selection, shelves.plans, shelves.stages⟩
  abort _ := keeps_abort (fun _ _ => keeps_shelves_edit _) fun _ _ _ shelves =>
    ⟨shelves.selection, shelves.plans, shelves.stages⟩

/-- As long as it is not handed in, a version is spared by everything that a dialog does. -/
theorem sustained_shelves : Sustained (· ≠ id) (fun _ _ _ => True)
    fun s => s.Shelves id v ∧ s.HeardOf fun _ _ => True := by
  have heard := sustained_heardOf (P := fun _ _ => True)
  have shelved : Tended (Shelves id v) := tended_shelves
  have tended := shelved.and heard.tended
  exact
    { say := tended.say
      note := fun e _ => (keeps_shelves_edit _).and (keeps_modify fun _ heardOf => heardOf)
      keepSetting := fun _ _ => keeps_modify fun _ holds =>
        ⟨⟨holds.1.selection, holds.1.plans, holds.1.stages⟩, holds.2⟩
      add := fun pack version indexed other => (keeps_shelves_onSelection
        (Selection.keeps_shelves_add other)).and (heard.add pack version indexed trivial)
      remove := fun pack version other => (keeps_shelves_onSelection
        (Selection.keeps_shelves_remove other)).and (heard.remove pack version trivial)
      removeByName := fun name => (keeps_shelves_onSelection
        (Selection.keeps_shelves_removeByName name)).and (heard.removeByName name)
      merge := fun s i holds => ⟨keeps_forM_of_mem (fun c among => keeps_shelves_mergeOne
        (holds.2.own among)) s holds.1, heard.merge s i holds.2⟩
      counted := keeps_modify fun _ holds =>
        ⟨⟨holds.1.selection, holds.1.plans, holds.1.stages⟩, holds.2⟩
      plans := fun _ holds => holds.1.plans
      adopt := tended.adopt
      start := tended.start
      abort := tended.abort
      move := fun s i m _ holds => ⟨shelved.transition holds.1
        (fun _ _ => ⟨holds.1.selection, holds.1.plans, holds.1.stages⟩)
        fun _ shelves => ⟨shelves.selection, shelves.plans, shelves.stages⟩,
        heard.move s i m (fun _ _ _ => trivial) holds.2⟩
      lookup := fun l => (keeps_shelves_edit _).and (heard.lookup l)
      pick := fun page pack version other => by
        have adds : Keeps (Selection.Shelves id v) (Selection.add pack version (.bool false)) :=
          Selection.keeps_shelves_add other
        have marks : Keeps (Selection.Shelves id v) (Selection.markPage page pack.name) :=
          keeps_modify fun _ shelves => shelves.of_same rfl rfl
        exact ((keeps_shelves_onSelection adds).bind fun _ =>
          keeps_shelves_onSelection marks).and (heard.pick page pack version trivial)
      search := fun page term => by
        have searches : Keeps (Shelves id v) (search page term) :=
          keeps_shelves_onSelection (keeps_modify fun _ shelves => shelves.of_same rfl rfl)
        exact searches.and (heard.search page term)
      shown := fun _ _ holds => ⟨⟨holds.1.selection, holds.1.plans, holds.1.stages⟩, holds.2⟩
      container := fun _ _ holds => ⟨⟨holds.1.selection, holds.1.plans, holds.1.stages⟩, holds.2⟩
      confirming := fun _ _ holds => ⟨⟨holds.1.selection, holds.1.plans, holds.1.stages⟩, holds.2⟩
      confirmations := fun _ _ handed holds => ⟨⟨holds.1.selection, holds.1.plans, handed⟩, holds.2⟩
      stages := fun _ holds => holds.1.stages }

/-- Events that hand in no version but those that may be handed in are fit wherever they happen. -/
theorem admits_of_isHanded {handed : VersionId → Prop} {events : List DialogEvent}
    (fits : ∀ e ∈ events, e.IsHanded handed) (s : Session) :
    s.Admits (IsFit handed fun _ _ _ => True) events := by
  refine admits_of_forall (fun e among s => ?_) s
  have fit := fits e among
  unfold IsFit
  split <;> first | exact fit | trivial

/-- Whatever happens, a version that is that of no entry and is not handed in stays as it is. -/
theorem Shelves.through {events : List DialogEvent} (shelves : s.Shelves id v)
    (unchecked : s.runs = []) (fits : ∀ e ∈ events, e.IsHanded (· ≠ id)) :
    (s.through events).Shelves id v := by
  have heardOf : s.HeardOf fun _ _ => True := fun i r known => by
    rw [unchecked] at known
    cases known
  exact (sustained_shelves.through (admits_of_isHanded fits s) ⟨shelves, heardOf⟩).1

end Session

end AddonPicker
