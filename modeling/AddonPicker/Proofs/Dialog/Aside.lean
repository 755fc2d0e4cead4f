import AddonPicker.Proofs.Dialog.Pieces

/-!
# What a confirmation leaves alone

What follows on a check changes the selection, writes into the journal and keeps settings. Whatever
else belongs to a dialog is as before: its runs, its confirmations and, but for the opening of a
review, the number of reviews. This is so wherever a collaborator fails.
-/

namespace AddonPicker

namespace Session

open Act

variable {ι : Type} {part : Session → ι}

/-- A part of a dialog that does not hang on the selection. -/
def IsUnselected (part : Session → ι) : Prop :=
  ∀ sel s, part { s with selection := sel } = part s

namespace IsUnselected

variable (unselected : IsUnselected part)

include unselected

/-- Such a part is left alone by what is written, by calls of the user interface and by all that is
done to the selection. -/
theorem edit (f : Journal → Journal) : Leaves part (Journaled.edit f) :=
  leaves_edit (fun _ s => unselected _ s) f

theorem call (ui : Ui) (c : UiCall) : Leaves part (ui.call c) :=
  leaves_iff.mpr fun x => keeps_call ui (leaves_iff.mp (unselected.edit _) x)

theorem callUi (c : UiCall) : Leaves part (callUi c) :=
  leaves_get_bind fun s => unselected.call s.ui c

theorem onSelection {α : Type} (a : Act Selection α) : Leaves part (onSelection a) :=
  leaves_onPart unselected a

theorem mergeOne (c : Choice) : Leaves part (mergeOne c) :=
  leaves_get_bind fun _ => leaves_get_bind fun _ => (unselected.onSelection _).bind fun _ =>
    (unselected.onSelection _).bind fun _ => leaves_pure ()

theorem merge (cs : List Choice) : Leaves part (merge cs) :=
  leaves_forM unselected.mergeOne cs

end IsUnselected

/-- A part of a dialog that is neither the selection nor the settings. -/
structure IsAside (part : Session → ι) : Prop where
  selection : ∀ sel s, part { s with selection := sel } = part s
  settings : ∀ kept s, part { s with settings := kept } = part s

theorem isAside_runs : IsAside Session.runs := ⟨fun _ _ => rfl, fun _ _ => rfl⟩

theorem isAside_confirmations : IsAside Session.confirmations := ⟨fun _ _ => rfl, fun _ _ => rfl⟩

theorem isAside_reviews : IsAside Session.reviews := ⟨fun _ _ => rfl, fun _ _ => rfl⟩

section

variable (aside : IsAside part)

include aside

theorem IsAside.isUnselected : IsUnselected part := aside.selection

theorem leaves_editJournal (f : Journal → Journal) : Leaves part (Journaled.edit f) :=
  aside.isUnselected.edit f

theorem leaves_onSelection {α : Type} (a : Act Selection α) : Leaves part (onSelection a) :=
  aside.isUnselected.onSelection a

/-- Selecting a version on a page is two actions on the selection. -/
theorem leaves_pick (page : Nat) (pack : Pack) (version : VersionId) :
    Leaves part (pick page pack version) :=
  (leaves_onSelection aside _).bind fun _ => leaves_onSelection aside _

/-- What hangs on such a part alone is upheld. -/
theorem IsAside.upheld_of (K : ι → Prop) : Upheld fun s => K (part s) where
  say _ _ := (leaves_editJournal aside _).keeps_of K
  note _ _ := (leaves_editJournal aside _).keeps_of K
  keepSetting _ _ := (leaves_modify fun s => aside.settings _ s).keeps_of K
  add _ _ _ := (leaves_onSelection aside _).keeps_of K
  remove _ _ := (leaves_onSelection aside _).keeps_of K
  mergeOne c := (aside.isUnselected.mergeOne c).keeps_of K

/-- Each of its values is upheld. -/
theorem IsAside.upheld (x : ι) : Upheld fun s => part s = x :=
  aside.upheld_of (· = x)

theorem leaves_reject : Leaves part reject :=
  leaves_iff.mpr fun x => (aside.upheld x).spoken.reject

theorem leaves_merge (cs : List Choice) : Leaves part (merge cs) :=
  aside.isUnselected.merge cs

/-- So does a review that was waited for, whether or not it was cancelled. -/
theorem leaves_continueReview (cancelled : Bool) (box : ReviewBox) (plan : ReviewPlan) :
    Leaves part (continueConfirm cancelled (.reviewing box plan)) :=
  leaves_iff.mpr fun x =>
    ((aside.upheld x).revised.continueReview cancelled box plan.isHanded_all).keeps

variable (uncounted : ∀ n s, part { s with reviews := n } = part s)

include uncounted

omit aside in
theorem leaves_counting : Leaves part (modify fun s => { s with reviews := s.reviews + 1 }) :=
  leaves_modify fun s => uncounted _ s

theorem IsAside.answered (x : ι) : Answered (fun _ => True) fun s => part s = x :=
  (aside.upheld x).answered (leaves_iff.mp (leaves_counting uncounted) x)

theorem leaves_openReview : Leaves part openReview :=
  leaves_iff.mpr fun x => (aside.answered uncounted x).openReview.keeps

theorem leaves_afterCheck (i : Nat) : Leaves part (afterCheck i) :=
  leaves_iff.mpr fun x => ((aside.answered uncounted x).afterCheck i).keeps

end

end Session

/-- Whether the check of a confirmation is over: it has been given its answer or broken off. -/
def Stage.isPast : Stage → Bool
  | .reviewing _ _ => true
  | .ended _ => true
  | _ => false

/-- A piece of the workflow that waits for the user alone, if it waits. -/
def Step.IsPast (step : Step) : Prop :=
  ∀ stage, step = .waits stage → stage.isPast = true

namespace Session

open Act

/-- The answer to a check waits for the user alone. -/
theorem isPast_of_answers {handed : VersionId → Prop} {step : Step}
    (answers : step.Answers handed) : step.IsPast := by
  rintro stage ⟨⟩
  cases answers with
  | reviews box fits => rfl

theorem yields_continueReview (cancelled : Bool) (box : ReviewBox) (plan : ReviewPlan) :
    Yields Step.IsPast (continueConfirm cancelled (.reviewing box plan)) :=
  ((upheld_trivial.revised.continueReview cancelled box plan.isHanded_all).imp
    fun _ => isPast_of_answers).yields

theorem yields_openReview : Yields Step.IsPast openReview :=
  ((upheld_trivial.answered fun _ _ => trivial).openReview.imp fun _ => isPast_of_answers).yields

theorem yields_afterCheck (i : Nat) : Yields Step.IsPast (afterCheck i) :=
  (((upheld_trivial.answered fun _ _ => trivial).afterCheck i).imp
    fun _ => isPast_of_answers).yields

end Session

end AddonPicker
