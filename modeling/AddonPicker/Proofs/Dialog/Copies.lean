import AddonPicker.Proofs.Dialog.Opening
import AddonPicker.Proofs.Dialog.Spared
import AddonPicker.Proofs.Dialog.Steady
import AddonPicker.Proofs.Selection.Fresh

/-!
# Copies

A run takes copies of the versions that it is answered, which others hold, and only these copies
come into the selection by a merge. What a run records goes to them alone. Until a check is answered
nothing is changed but runs and the journal, and a merge selects what is the run's own. So the
versions that a catalogue answers with stay as they are, however often they are resolved.
-/

namespace AddonPicker

namespace Session

open Act

/-- Wherever a merge of choices stops whose versions nobody else holds, the entries that it has made
have versions that are new to the selection. -/
theorem keeps_merging {cs : List Choice} {sel : Selection}
    (known : ∀ e ∈ sel.entries, e.version < sel.store.versions.length)
    (own : ∀ c ∈ cs, c.shared = none) : Keeps (Has (sel.Merging cs)) (merge cs) := by
  refine keeps_forM_of_mem fun c carried s merging => ?_
  have taken := merging.storeFor known carried (own c carried)
  have adds : Keeps (sel.Selects cs c.pack (s.selection.idFor c))
      (Selection.add c.pack (s.selection.idFor c) (.bool true)) :=
    Selection.keeps_selects_add
  have selects := (keeps_onSelection adds).bind fun _ => keeps_pure ()
  exact (selects { s with selection := { s.selection with store := s.selection.storeFor c } }
    taken).1

/-- The check of a confirmation before its answer, in a dialog to which events have happened. -/
structure ChecksCopies (events : List DialogEvent) (s t : Session) : Prop where
  /-- Nothing has been done to any version. -/
  untouched : Journaled.setJournal {} t.selection = Journaled.setJournal {} s.selection
  /-- What a run hands out are copies of versions that it was told of, with the packs that take part
  in this run and require them. -/
  copies : ∀ i, ∀ d ∈ t.runDependencies i, ∃ (r : Run DialogHandler) (v : Held) (key : PackKey),
    t.runs[i]? = some r ∧ r.state = .succeeded ∧ Tells events i v ∧
      d.toHeld = v.detached.withRequirers
        (((r.selected ++ r.dependencies).filter (·.requires key)).map (·.pack.addonId)).eraseDups
  /-- The entries that a merge makes have versions that are new to the selection, and begin as
  these. -/
  fresh : (∀ e ∈ s.selection.entries, e.version < s.selection.store.versions.length) →
    ∀ i, s.selection.Merging (t.runDependencies i)
      ((merge (t.runDependencies i)).perform t).2.selection

/-- What a dialog does to versions by its checks, when events have happened to it. -/
structure WorksOnCopies (b : Session) (events : List DialogEvent) : Prop where
  /-- Whatever a run has found, nobody else holds, so what the run records there shows for nobody
  else. -/
  own : ∀ r ∈ (b.through events).runs, ∀ d ∈ r.found, d.shared = none
  /-- Whatever happens to a confirmation or a run, nothing is done to a version until the check is
  answered or broken off. -/
  untouched : ∀ c i (e : CheckEvent), (e = .resume → ∀ k,
    ((b.through events).happen c i e).confirmations[c]? = some k → k.stage.isPast = false) →
      Journaled.setJournal {} ((b.through events).happen c i e).selection =
        Journaled.setJournal {} (b.through events).selection
  checks : ∀ c, GoesOn (ChecksCopies events (b.through events)) c (b.through events)
    ((b.through events).resume c)
  /-- A version that was neither selected nor handed in since is as it was. -/
  spared : ∀ id v, b.selection.Shelves id v → (∀ n, (b.reviewPlan n).IsHanded (· ≠ id)) →
    (∀ k ∈ b.confirmations, k.stage.IsHanded (· ≠ id)) → (∀ e ∈ events, e.IsHanded (· ≠ id)) →
      (b.through events).selection.Shelves id v

theorem HeardOf.checksCopies {events : List DialogEvent} {s t : Session}
    (heardOf : t.HeardOf (Tells events))
    (same : Journaled.setJournal {} t.selection = Journaled.setJournal {} s.selection) :
    ChecksCopies events s t where
  untouched := same
  copies i d among := by
    rw [runDependencies] at among
    split at among
    · rename_i r known
      obtain ⟨succeeded, v, key, told, copy⟩ := (heardOf i r known).exists_copy among
      exact ⟨r, v, key, known, succeeded, told, copy⟩
    · exact absurd among List.not_mem_nil
  fresh known i := by
    refine keeps_merging known (fun d => heardOf.own) t ?_
    rw [Has, Selection.eq_setJournal same]
    exact (Selection.merging_refl _ _).of_same rfl fun _ among => among

/-- Checks and merges work on copies: whatever has happened to a dialog, no version that was there
before is changed by them, but for those of entries that a merge replaces. -/
theorem worksOnCopies_through {b : Session} (unchecked : b.runs = [])
    (events : List DialogEvent) : b.WorksOnCopies events where
  own r known d found := by
    obtain ⟨i, at_⟩ := List.getElem?_of_mem known
    exact (heardOf_through unchecked events i r at_).own found
  untouched c i _ checking := (steady_selection _).happen c i checking rfl
  checks c := by
    have heardOf := heardOf_through unchecked events
    generalize b.through events = s at heardOf ⊢
    have tended := (tended_heardOf (P := Tells events)).and (tended_selection s.selection)
    exact (tended.goesOn c ⟨heardOf, rfl⟩ ⟨heardOf, rfl⟩).imp fun t holds =>
      holds.1.checksCopies holds.2
  spared id v shelves plans stages fits :=
    (Shelves.through ⟨shelves, plans, stages⟩ unchecked fits).selection

/-- The version that a catalogue holds of the mod which the selected one requires. -/
def sought : Version where
  addonId := .number 2
  fileId := .number 20
  fileName := "lanterns.jar"
  dependencies := [{ addonId := .number 1 }]

/-- A catalogue that hands out that very version. -/
def holder : Catalogue :=
  { twins with version := fun _ _ => .ok (some { version := sought, shared := some 1 }) }

/-- A dialog with that version in its store, where nobody has selected it. -/
def shelved : Session :=
  { lanterns with selection := { lanterns.selection with
      store := ⟨lanterns.selection.store.versions ++ [.ofBase sought]⟩ } }

/-- A check that finds the mod, with the version that the catalogue holds. -/
def handedOut : List ConfirmEvent :=
  [.check .resume, .check (.move .begin),
    .check (.move (.answerPack false (holder.pack .modrinth (.number 2)))),
    .check (.move (.answerVersion false (holder.version .modrinth { addonId := .number 2 })))]

/-- The mod is found and declined, the first one is selected once more, and the mod is found
again. -/
def again : List DialogEvent :=
  .request :: handedOut.map (.confirm 0 0) ++
    [.confirm 0 0 (.check .resume), .confirm 0 0 (.check .resume),
      .add { addonId := .number 1, name := "Lanterns", provider := .modrinth } 0 (.bool false),
      .request] ++ handedOut.map (.confirm 1 1) ++ [.confirm 1 1 (.check .resume)]

/-- Each time the mod has a version of its own, and the version that the catalogue holds stays as it
is. -/
theorem worksOnCopies_through_again :
    shelved.runs = [] ∧ shelved.WorksOnCopies again ∧
      holder.version .modrinth { addonId := .number 2 } =
        .ok (some { version := sought, shared := some 1 }) ∧
      shelved.selection.store.get? 1 = some (.ofBase sought) ∧
      (shelved.through again).selection.Shelves 1 (.ofBase sought) ∧
      (shelved.through again).selection.entries.map (·.version) = [3] ∧
      ((shelved.through again).selection.store.versions.map fun v =>
        (v.base.addonId, v.base.isSelected, v.base.requiredBy)) =
          [(.number 1, false, []), (.number 2, false, []), (.number 2, false, [.number 1]),
            (.number 2, true, [.number 1])] := by
  have works := worksOnCopies_through (b := shelved) rfl again
  have apart : shelved.selection.Shelves 1 (.ofBase sought) := by
    refine ⟨fun e among => ?_, rfl⟩
    rw [List.mem_singleton.mp among]
    exact Nat.zero_ne_one
  have spared := works.spared 1 _ apart (fun _ => nofun) nofun
    (by simp [again, handedOut, DialogEvent.IsHanded])
  exact ⟨rfl, works, rfl, rfl, spared, by decide +kernel, by decide +kernel⟩

/-- Without a copy the merge would select what the catalogue holds. -/
example :
    let pack : Pack := { addonId := .number 2, name := "Lanterns", provider := .modrinth }
    let merged := ((merge [{ pack, version := sought, shared := some 1 }]).perform shelved).2
    merged.selection.store.versions.map (·.base.isSelected) = [false, true] := by
  decide +kernel

end Session

end AddonPicker
