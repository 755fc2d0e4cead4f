import AddonPicker.Dialog.Confirmation
import AddonPicker.Proofs.Frame

/-!
# What the pieces of a workflow uphold

What follows on a check is made of few kinds of steps: the journal is written, settings are kept,
packs are selected and deselected, and the user interface is called. Whatever these uphold is upheld
by every piece of the workflow that is made of them, wherever a collaborator fails. For some things
it matters which versions a user hands in during a review, so the pieces are gone through for the
versions that may be handed in.

The confirm button is called as the selection changes and at no other time, so its calls are left
out of what the journal is asked for.
-/

namespace AddonPicker

/-- Whether an event is a call of the confirm button. -/
def Event.isButton : Event → Bool
  | .ui (.setConfirmEnabled _) => true
  | _ => false

/-- If a move of a user hands in a version, it is one of those that may be handed in. -/
def ReviewMove.IsHanded (handed : VersionId → Prop) : ReviewMove → Prop
  | .remove _ version => handed version
  | .add _ version => handed version
  | _ => True

/-- What a user does in a review hands in no version but those that may be handed in. -/
def ReviewPlan.IsHanded (handed : VersionId → Prop) (plan : ReviewPlan) : Prop :=
  ∀ m ∈ plan.moves, m.IsHanded handed

theorem ReviewPlan.isHanded_all (plan : ReviewPlan) : plan.IsHanded fun _ => True := by
  intro m _
  cases m <;> trivial

/-- How the answer to a check ends: with a result, or in a review that is waited for. -/
inductive Step.Answers (handed : VersionId → Prop) : Step → Prop
  | returns (accepted : Bool) : Answers handed (.returns accepted)
  | reviews (box : ReviewBox) {plan : ReviewPlan} (fits : plan.IsHanded handed) :
      Answers handed (.waits (.reviewing box plan))

namespace Session

open Act

/-- What noting a call upholds, making it does, whether or not it is refused. -/
theorem keeps_call {J : Session → Prop} (ui : Ui) {c : UiCall}
    (noted : Keeps J (Journaled.note (.ui c))) : Keeps J (ui.call c) := by
  rw [Ui.call]
  split
  · exact noted.bind fun _ => keeps_get_bind fun _ => keeps_failOn _
  · exact keeps_pure ()

theorem keeps_callUi {J : Session → Prop} {c : UiCall} (noted : Keeps J (Journaled.note (.ui c))) :
    Keeps J (callUi c) :=
  keeps_get_bind fun s => keeps_call s.ui noted

/-- What is upheld as long as nothing is done but to write, to call the user interface and to keep
settings. -/
structure Spoken (J : Session → Prop) : Prop where
  say : ∀ level message, Keeps J (Journaled.say level message)
  note : ∀ e : Event, e.isButton = false → Keeps J (Journaled.note e)
  keepSetting : ∀ key v, Keeps J (modify (keepSetting key v))

namespace Spoken

variable {J : Session → Prop} (spoken : Spoken J)

include spoken

theorem callUi {c : UiCall} (other : Event.isButton (.ui c) = false) : Keeps J (callUi c) :=
  keeps_callUi (spoken.note _ other)

theorem saveGeometry : Keeps J saveGeometry := by
  refine keeps_get_bind fun s => ?_
  dsimp only
  split
  · refine keeps_get_bind fun s => ?_
    have asked : Keeps J (s.ui.saveGeometry : Act Session (List UInt8)) :=
      (keeps_call s.ui (spoken.note _ rfl)).bind fun _ => keeps_get.bind fun _ => keeps_pure _
    refine asked.bind fun bytes => ?_
    split
    · exact (keeps_throw _).bind fun _ => spoken.keepSetting _ _
    · exact spoken.keepSetting _ _
  · exact keeps_pure ()

theorem restoreGeometry : Keeps J restoreGeometry := by
  have restored (v : Value) : Keeps J (do
      Session.callUi (.restoreGeometry (← Act.check (decodeGeometry v)))) :=
    (keeps_check _).bind fun _ => spoken.callUi rfl
  refine keeps_get_bind fun s => ?_
  dsimp only
  split
  · split
    · refine (keeps_throw _).bind fun _ => ?_
      split
      · exact restored _
      · exact keeps_pure ()
    · split
      · exact restored _
      · exact keeps_pure ()
  · exact keeps_pure ()

theorem accept : Keeps J accept :=
  spoken.saveGeometry.bind fun _ => spoken.callUi rfl

theorem reject : Keeps J reject :=
  spoken.saveGeometry.bind fun _ => spoken.callUi rfl

end Spoken

/-- The selection is left alone by what only speaks, but for its journal. -/
theorem spoken_selection (sel : Selection) :
    Spoken fun s => Journaled.setJournal {} s.selection = Journaled.setJournal {} sel where
  say _ _ := keeps_modify fun _ here => here
  note _ _ := keeps_modify fun _ here => here
  keepSetting _ _ := keeps_modify fun _ here => here

/-- What every step upholds of which a review is made, when no versions are handed in but those that
may be. -/
structure Revised (handed : VersionId → Prop) (J : Session → Prop) : Prop extends Spoken J where
  add : ∀ pack version indexed, handed version → Keeps J (add pack version indexed)
  remove : ∀ pack version, handed version → Keeps J (remove pack version)
  removeByName : ∀ name, Keeps J (onSelection (Selection.removeByName name))

namespace Revised

variable {handed : VersionId → Prop} {J : Session → Prop} (revised : Revised handed J)

include revised

theorem reviewMove (box : ReviewBox) {m : ReviewMove} (fits : m.IsHanded handed) :
    Keeps J (reviewMove box m) := by
  cases m with
  | untick position => exact keeps_pure _
  | setEnabled name enabled => exact keeps_check _
  | remove pack version => exact (revised.remove pack version fits).bind fun _ => keeps_pure _
  | add pack version => exact (revised.add pack version _ fits).bind fun _ => keeps_pure _

theorem reviewMoves (box : ReviewBox) {moves : List ReviewMove}
    (fits : ∀ m ∈ moves, m.IsHanded handed) : Keeps J (moves.foldlM Session.reviewMove box) :=
  keeps_foldlM_of_mem (fun m among box => revised.reviewMove box (fits m among)) box

theorem commit (box : ReviewBox) : Keeps J (commit box) := by
  refine (keeps_forM revised.removeByName _).bind fun _ => ?_
  exact keeps_get_bind fun _ => (revised.say _ _).bind fun _ => revised.accept

theorem finishReview (box : ReviewBox) {plan : ReviewPlan} (fits : plan.IsHanded handed) :
    Secures J (Step.Answers handed) (finishReview box plan) := by
  refine (revised.reviewMoves box fits).bind_secures fun box => ?_
  split
  · exact (revised.commit box).bind_secures fun _ => secures_pure (.returns true)
  · exact secures_pure (.returns false)

/-- A review that was waited for is gone through, or it was cancelled. -/
theorem continueReview (cancelled : Bool) (box : ReviewBox) {plan : ReviewPlan}
    (fits : plan.IsHanded handed) :
    Secures J (Step.Answers handed) (continueConfirm cancelled (.reviewing box plan)) := by
  cases cancelled with
  | true => exact secures_throw _
  | false => exact revised.finishReview box fits

end Revised

/-- What every step upholds of which the answer to a check is made. -/
structure Answered (handed : VersionId → Prop) (J : Session → Prop) : Prop
    extends Revised handed J where
  merge : ∀ s i, J s → J ((merge (s.runDependencies i)).perform s).2
  counted : Keeps J (modify fun s => { s with reviews := s.reviews + 1 })
  plans : ∀ s, J s → ∀ n, (s.reviewPlan n).IsHanded handed

namespace Answered

variable {handed : VersionId → Prop} {J : Session → Prop} (answered : Answered handed J)

include answered

/-- The opening of a review is counted as well. -/
theorem openReview : Secures J (Step.Answers handed) openReview := by
  refine secures_get_bind fun s holds => ?_
  have fits := answered.plans s holds s.reviews
  dsimp only
  refine (keeps_check _).bind_secures fun _ => answered.counted.bind_secures fun _ => ?_
  refine (answered.callUi rfl).bind_secures fun _ => ?_
  split
  · exact secures_pure (.reviews _ fits)
  · exact answered.finishReview _ fits

theorem afterCheck (i : Nat) : Secures J (Step.Answers handed) (afterCheck i) := by
  refine secures_get_bind fun s _ => ?_
  split
  · refine (answered.say _ _).bind_secures fun _ => answered.reject.bind_secures fun _ => ?_
    exact secures_pure (.returns false)
  · have merged : Keeps J (get >>= fun s => Session.merge (s.runDependencies i)) :=
      fun s holds => answered.merge s i holds
    have opened := merged.bind_secures fun _ => answered.openReview
    rw [bind_assoc] at opened
    exact opened

end Answered

/-- Dropping the entry under a name is deselecting its pack, if anything. -/
theorem keeps_removeByName {J : Session → Prop}
    (remove : ∀ pack version, Keeps J (remove pack version)) (name : Value) :
    Keeps J (onSelection (Selection.removeByName name)) := by
  intro s holds
  rw [onSelection, perform_onPart, Selection.removeByName, perform_bind, perform_get]
  dsimp only
  rw [perform_bind, perform_check]
  cases s.selection.lookUp name with
  | error f => exact holds
  | ok found =>
      cases found with
      | none => exact holds
      | some e => exact remove e.pack e.version s holds

/-- What every step upholds of which the answer to a check is made, whatever versions are handed
in. -/
structure Upheld (J : Session → Prop) : Prop where
  say : ∀ level message, Keeps J (Journaled.say level message)
  note : ∀ e : Event, e.isButton = false → Keeps J (Journaled.note e)
  keepSetting : ∀ key v, Keeps J (modify (keepSetting key v))
  add : ∀ pack version indexed, Keeps J (add pack version indexed)
  remove : ∀ pack version, Keeps J (remove pack version)
  mergeOne : ∀ c, Keeps J (mergeOne c)

namespace Upheld

variable {J : Session → Prop} (upheld : Upheld J)

include upheld

theorem spoken : Spoken J where
  say := upheld.say
  note := upheld.note
  keepSetting := upheld.keepSetting

theorem merge (cs : List Choice) : Keeps J (merge cs) :=
  keeps_forM upheld.mergeOne cs

theorem revised : Revised (fun _ => True) J where
  toSpoken := upheld.spoken
  add pack version indexed _ := upheld.add pack version indexed
  remove pack version _ := upheld.remove pack version
  removeByName := keeps_removeByName upheld.remove

theorem answered (counted : Keeps J (modify fun s => { s with reviews := s.reviews + 1 })) :
    Answered (fun _ => True) J where
  toRevised := upheld.revised
  merge s i := upheld.merge (s.runDependencies i) s
  counted := counted
  plans s _ n := (s.reviewPlan n).isHanded_all

end Upheld

/-- There is always nothing that may be broken. -/
theorem upheld_trivial : Upheld fun _ => True where
  say _ _ _ _ := trivial
  note _ _ _ _ := trivial
  keepSetting _ _ _ _ := trivial
  add _ _ _ _ _ := trivial
  remove _ _ _ _ := trivial
  mergeOne _ _ _ := trivial

end Session

end AddonPicker
