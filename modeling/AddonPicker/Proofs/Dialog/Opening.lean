import AddonPicker.Proofs.Dialog.Steps
import AddonPicker.Resolution.Catalogue

/-!
# What a review is opened over

When a review is opened after a check that was not aborted, what the run has found has been merged
into the selection. A merge that fails opens no review.
-/

namespace AddonPicker

namespace Session

open Act

/-- A confirmation that goes on opens a review, and this is the dialog that the review is opened
over. -/
structure Opens (c : Nat) (s t : Session) : Prop where
  goes : s.resume c = settle c (openReview.perform t).1 (openReview.perform t).2
  /-- It has not been opened before. -/
  first : t.reviews = s.reviews

theorem reviews_settle (c : Nat) (result : Except Fault Step) (s : Session) :
    (s.settle c result).reviews = s.reviews :=
  part_settle (fun _ _ _ => rfl) c result s

/-- The answer to a check opens a review only once the merge has come to its end. -/
theorem exists_merged_of_afterCheck (t : Session) (i : Nat)
    (opened : ((afterCheck i).perform t).2.reviews ≠ t.reviews) :
    ∃ t', (merge (t.runDependencies i)).perform t = (.ok (), t') ∧
      (afterCheck i).perform t = openReview.perform t' := by
  by_cases skipped : t.runState i = .skipped
  · rw [afterCheck, perform_bind, perform_get] at opened
    dsimp only at opened
    rw [if_pos skipped] at opened
    -- The dialog is closed without a review.
    refine absurd ?_ opened
    exact ((leaves_editJournal isAside_reviews _).bind fun _ =>
      (leaves_reject isAside_reviews).bind fun _ => leaves_pure _) t
  · have answer : (afterCheck i).perform t =
        (merge (t.runDependencies i) >>= fun _ => openReview).perform t := by
      rw [afterCheck, perform_bind, perform_get]
      dsimp only
      rw [if_neg skipped, perform_bind, perform_get]
    have reviews := leaves_merge isAside_reviews (t.runDependencies i) t
    rw [answer, perform_bind] at opened ⊢
    generalize (merge (t.runDependencies i)).perform t = performed at opened reviews ⊢
    obtain ⟨result, t'⟩ := performed
    cases result with
    | error f => exact absurd reviews opened
    | ok _ => exact ⟨t', rfl, rfl⟩

/-- What choices are merged into is left as it was but for the selection, and this has taken them
in. -/
theorem exists_takenInAll_of_merge {t t' : Session} {cs : List Choice}
    (merged : (merge cs).perform t = (.ok (), t')) :
    ∃ j, t' = Journaled.setJournal j { t with selection := t.selection.takenInAll cs } := by
  have meets := meets_merge (t := .lax True) (Selection.on_lax (.inl trivial)) cs
    t.selection.journal (s := t)
  have same : Journaled.setJournal t.selection.journal t = t := rfl
  rw [same, merged] at meets
  rcases meets with ⟨j, performed, -⟩ | ⟨-, f, t'', failed⟩
  · exact ⟨j, congrArg Prod.snd performed⟩
  · exact nomatch failed

/-- A catalogue with two mods that go by the same name and require each other. -/
def twins : Catalogue where
  pack provider id := .ok <|
    if provider = .modrinth ∧ id ∈ [.number 1, .number 2] then
      some { addonId := id, name := "Lanterns", provider := .modrinth }
    else none
  version _ d := .ok (some { version := {
    addonId := d.addonId, fileId := .number 20, fileName := "lanterns.jar"
    dependencies := [{ addonId := if d.addonId = .number 1 then .number 2 else .number 1 }] } })

/-- A dialog in which one of the two is selected. -/
def lanterns : Session where
  type := .mods
  target := {}
  config := {}
  naming := .standard
  served := [.modrinth]
  settings := []
  ui := {}
  surface := .standard
  reviewPlan _ := { waits := true }
  selection := {
    store := ⟨[.ofBase {
      addonId := .number 1, fileId := .number 10, fileName := "lanterns.jar"
      dependencies := [{ addonId := .number 2 }] }]⟩
    entries := [{
      pack := { addonId := .number 1, name := "Lanterns", provider := .modrinth }
      version := 0 }] }

/-- The check of the selection asks for the other one, and finds it. -/
def lit : List ConfirmEvent :=
  [.check .resume, .check (.move .begin),
    .check (.move (.answerPack false (twins.pack .modrinth (.number 2)))),
    .check (.move (.answerVersion false (twins.version .modrinth { addonId := .number 2 })))]

end Session

end AddonPicker
