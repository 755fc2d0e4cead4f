import AddonPicker.Proofs.Dialog.Lasting
import AddonPicker.Proofs.Dialog.Opening
import AddonPicker.Proofs.Selection.Marks

/-!
# Marks in a dialog

A dialog comes up with pages that mark nothing, and from then on its pages mark entries only and no
name twice: entries come by being added or picked, by the merge of what a check has found and by
moves in a review, and they go by being replaced or removed and by the commit of a review; all of
this goes through the same two operations of the selection, and a page marks only what it has picked
after that has come to its end.
-/

namespace AddonPicker

namespace Selection

/-- Marks hang on the names of the entries and on what each page marks. -/
theorem IsMarked.of_marks {s s' : Selection} (marked : s.IsMarked) (names : s'.names = s.names)
    (marks : s'.pages.map (·.marked) = s.pages.map (·.marked)) : s'.IsMarked := by
  refine ⟨fun p' among name shown => ?_, ?_⟩
  · have before : p'.marked ∈ s.pages.map (·.marked) := marks ▸ List.mem_map_of_mem among
    obtain ⟨p, known, same⟩ := List.mem_map.mp before
    rw [names]
    exact marked.selected p known name (same ▸ shown)
  · have apart := marked.apart
    rw [Page.MarkApart, ← List.pairwise_map (f := Page.marked)
      (R := fun m m' => ∀ name ∈ m, name ∉ m')] at apart ⊢
    rwa [marks]

theorem lasting_isMarked : Lasting IsMarked where
  write _ _ _ marked := marked.of_journal _
  lookup _ _ marked := marked.of_journal _
  note _ _ _ marked := marked.of_journal _
  store _ _ marked := marked.of_marks rfl rfl
  term s position term marked := by
    have marks := map_modify_pages Page.marked (f := fun p => { p with searchTerm := term })
      (fun _ => rfl) position s.pages
    exact marked.of_marks rfl marks
  add := keeps_isMarked_add
  remove := keeps_isMarked_remove
  pick := keeps_isMarked_pick

/-- Pages that mark nothing mark entries only. -/
theorem isMarked_of_unmarked {s : Selection} (unmarked : ∀ p ∈ s.pages, p.marked = []) :
    s.IsMarked := by
  refine ⟨fun p among name shown => ?_, ?_⟩
  · rw [unmarked p among] at shown
    exact absurd shown List.not_mem_nil
  · refine List.pairwise_iff_forall_sublist.mpr fun {p p'} pair name shown => ?_
    rw [unmarked p (pair.subset List.mem_cons_self)] at shown
    exact absurd shown List.not_mem_nil

end Selection

namespace Session

open Act

/-- The pages of a dialog mark nothing when they are made, and take no part in what happens. -/
theorem exists_of_makePage {s : Session} {provider : Provider} {p : Page}
    (made : s.makePage provider = .ok p) : ∃ id title, p = { id, title, provider } := by
  rw [makePage] at made
  cases id : s.naming.id provider with
  | error f =>
      rw [id] at made
      exact nomatch made
  | ok id' =>
      cases readable : s.naming.readable provider with
      | error f =>
          rw [id, readable] at made
          exact nomatch made
      | ok name =>
          rw [id, readable] at made
          cases made
          exact ⟨_, _, rfl⟩

/-- A dialog has a page at least. -/
theorem providers_ne_nil (type : DialogType) (flameEnabled : Bool) :
    type.providers flameEnabled ≠ [] := by
  cases type <;> cases flameEnabled <;> exact List.cons_ne_nil _ _

/-- What holds of a dialog with pages that were just made is ensured by making them. -/
theorem ensures_openPages_of {J : Session → Prop}
    (holds : ∀ (s : Session) (pages : List Page), pages ≠ [] →
      (∀ p ∈ pages, ∃ id title provider, p = { id, title, provider }) →
      J { s with
        selection := { s.selection with pages }
        container := .ofIds (pages.map (·.id))
        shown := (Container.ofIds (pages.map (·.id))).selected }) :
    Ensures J openPages := by
  refine ensures_bind fun s => ?_
  have made (provider : Provider) : Yields (fun p => ∃ id title provider, p = { id, title, provider })
      (Act.check (s.makePage provider) : Act Session Page) := by
    refine yields_check fun p made => ?_
    obtain ⟨id, title, rfl⟩ := exists_of_makePage made
    exact ⟨id, title, provider, rfl⟩
  refine (yields_mapM made _).bind_ensures fun pages all => ensures_modify fun s' => ?_
  have there : pages ≠ [] := by
    rintro rfl
    exact providers_ne_nil _ _ (List.length_eq_zero_iff.mp all.1.symm)
  exact holds s' pages there all.2

theorem ensures_openPages : Ensures (Has Selection.IsMarked) openPages := by
  refine ensures_openPages_of fun s pages _ blank => ?_
  refine Selection.isMarked_of_unmarked fun p among => ?_
  obtain ⟨id, title, provider, rfl⟩ := blank p among
  rfl

/-- A dialog that comes up marks entries only. -/
theorem ensures_openDialog : Ensures (Has Selection.IsMarked) openDialog :=
  ensures_bind fun _ => ensures_bind fun _ => ensures_bind fun _ => ensures_bind fun _ =>
    ensures_openPages.bind fun _ =>
      (upheld_of_lasting Selection.lasting_isMarked).spoken.restoreGeometry

/-- Whatever happens to a dialog that has come up, and wherever the user interface fails, its pages
mark entries of the selection only, and no two of them mark the same name. -/
theorem isMarked_through {b : Session} (opened : (openDialog.perform b).1 = .ok ())
    (events : List DialogEvent) :
    ((openDialog.perform b).2.through events).selection.IsMarked :=
  has_through Selection.lasting_isMarked events (ensures_openDialog b () opened)

/-- A user interface that cannot enable the confirm button any more once a review was shown. -/
def weary : Ui where
  refusal events c :=
    if c.method = .setConfirmEnabled ∧ events.any (fun e => e matches .ui (.execReview _)) then
      some (.raised "RuntimeError" "no button")
    else none

/-- A dialog with a version to pick, the review of which is approved. -/
def shop : Session :=
  { lanterns with
    ui := weary
    reviewPlan := fun _ => {}
    selection := { store := lanterns.selection.store } }

/-- The pack that is picked first. -/
def lanternPack : Pack where
  addonId := .number 1
  name := "Lanterns"
  provider := .modrinth

/-- A mod is picked on the first page. What it requires is found under its name and replaces it. -/
def shopping : List DialogEvent :=
  [.pick 0 lanternPack 0, .request] ++ lit.map (.confirm 0 0) ++ [.confirm 0 0 (.check .resume)]

/-- A mark is set with a pick, and it goes with the entry that a merge replaces. It is not set again
when the pick fails with the confirm button. -/
theorem isMarked_through_shopping :
    (openDialog.perform shop).1 = .ok () ∧
      ((openDialog.perform shop).2.through shopping).selection.IsMarked ∧
      (((openDialog.perform shop).2.through (shopping.take 1)).selection.pages.map (·.marked),
        ((openDialog.perform shop).2.through shopping).selection.pages.map (·.marked)) =
          ([["Lanterns"], []], [[], []]) ∧
      ((openDialog.perform shop).2.through shopping).selection.names = ["Lanterns"] ∧
      ((openDialog.perform shop).2.through
          (shopping ++ [.pick 1 lanternPack 0])).selection.pages.map (·.marked) = [[], []] := by
  have opened : (openDialog.perform shop).1 = .ok () := rfl
  exact ⟨opened, isMarked_through opened shopping, by decide +kernel, by decide +kernel,
    by decide +kernel⟩

end Session

end AddonPicker
