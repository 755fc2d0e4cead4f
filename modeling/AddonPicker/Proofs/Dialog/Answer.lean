import AddonPicker.Proofs.Dialog.Surface

/-!
# The answer to a check

When the run of a confirmation has ended and the surface is gone, a skipped run closes the dialog.
After any other run, what it found is merged into the selection and the selection is presented for
review.
-/

namespace AddonPicker

namespace Session

open Act

/-- The selection that is presented after a run, with what the run found merged into it. -/
def presented (b : Session) (r : Run DialogHandler) : Selection :=
  b.selection.takenInAll r.dependencies

/-- The plan of the review that is opened next. -/
def nextPlan (b : Session) : ReviewPlan :=
  b.reviewPlan b.reviews

/-- A dialog with a review that was opened over a selection. -/
def reviewed (sel : Selection) (b : Session) : Session :=
  { b with selection := sel, reviews := b.reviews + 1 }

/-- A dialog with a confirmation under way, which may have kept settings. -/
def engaged (kept : List (Value × Value)) (b : Session) : Session :=
  { b with settings := kept, confirming := true }

/-- How a confirmation goes on after a run, what it then tells, and the dialog that it leaves. -/
inductive Answer (b : Session) (r : Run DialogHandler) :
    Except Fault Step → List UiCall → Session → Prop
  | closed (skipped : r.state = .skipped) :
      Answer b r (.ok (.returns false)) (b.ui.shown [.reject]) b
  | waits {box : ReviewBox} (unskipped : r.state ≠ .skipped)
      (built : (b.presented r).review b.naming b.emptyBox = (.ok (), box)) :
      Answer b r (.ok (.waits (.reviewing box b.nextPlan))) (b.ui.shown [.execReview box])
        (b.reviewed (b.presented r))
  | answered {box box' : ReviewBox} (unskipped : r.state ≠ .skipped)
      (built : (b.presented r).review b.naming b.emptyBox = (.ok (), box))
      (made : b.nextPlan.moves.foldlM ReviewBox.moved box = .ok box') :
      Answer b r (.ok (.returns b.nextPlan.approves))
        (b.ui.shown [.execReview box] ++
          if b.nextPlan.approves then b.ui.shown [.accept] else [])
        (b.reviewed (b.nextPlan.concluded box' (b.presented r)))
  /-- The selection cannot be presented. -/
  | unbuilt {box : ReviewBox} {f : Fault} (unskipped : r.state ≠ .skipped)
      (failed : (b.presented r).review b.naming b.emptyBox = (.error f, box)) :
      Answer b r (.error f) [] { b with selection := b.presented r }
  /-- A move of the user fails. -/
  | broken {box : ReviewBox} {f : Fault} (after : Selection) (unskipped : r.state ≠ .skipped)
      (built : (b.presented r).review b.naming b.emptyBox = (.ok (), box))
      (failed : b.nextPlan.moves.foldlM ReviewBox.moved box = .error f) :
      Answer b r (.error f) (b.ui.shown [.execReview box] ++ []) (b.reviewed after)

variable {b : Session} {r : Run DialogHandler} {stage : Stage}

/-- An answer concerns no other confirmation. -/
theorem Answer.confirmations {result : Except Fault Step} {told : List UiCall} {b' : Session}
    (answer : Answer b r result told b') : b'.confirmations = b.confirmations := by
  cases answer <;> rfl

theorem runDependencies_amid {k : Confirmation} (j : Journal) :
    (Journaled.setJournal j (b.amid r k)).runDependencies b.runs.length = r.dependencies := by
  have known : (Journaled.setJournal j (b.amid r k)).runs[b.runs.length]? = some r :=
    List.getElem?_concat_length
  rw [runDependencies, known]

theorem IsPatient.engaged (patient : b.IsPatient) (kept : List (Value × Value)) :
    (b.engaged kept).IsPatient :=
  ⟨patient.ui, patient.selection, patient.key⟩

theorem IsPatient.amid (patient : b.IsPatient) : (b.amid r stage).IsPatient :=
  ⟨patient.ui, patient.selection, patient.key⟩

theorem IsPatient.reviewed (patient : b.IsPatient) {sel : Selection} (calm : sel.IsCalm) :
    (b.reviewed sel).IsPatient :=
  ⟨patient.ui, calm, patient.key⟩

/-- The box of a review has names only that can be looked up. -/
theorem isNamed_of_review {sel : Selection} {outcome : Except Fault Unit} {box : ReviewBox}
    (built : sel.review b.naming b.emptyBox = (outcome, box)) : box.IsNamed := by
  have empty : b.emptyBox.IsNamed := fun r among => absurd among List.not_mem_nil
  have named := ReviewBox.isNamed_appendRows sel b.naming sel.sortedEntries empty
  have same : box = (sel.appendRows b.naming sel.sortedEntries b.emptyBox).2 :=
    (congrArg Prod.snd built).symm
  rw [same]
  exact named

/-- A review over the selection that is to be presented leads to an answer. -/
theorem closes_openReview_amid (patient : b.IsPatient) (unskipped : r.state ≠ .skipped) :
    ∃ result told b', Answer b r result told b' ∧
      Closes openReview result told ({ b with selection := b.presented r }.amid r stage)
        (b'.amid r stage) := by
  have calm := Selection.isCalm_takenInAll patient.selection r.dependencies
  have patient' : ({ b with selection := b.presented r }.amid r stage).IsPatient :=
    (patient.of_isCalm calm).amid
  cases built : (b.presented r).review b.naming b.emptyBox with
  | mk outcome box =>
      cases outcome with
      | error f =>
          exact ⟨_, _, _, .unbuilt unskipped built, closes_of_does (does_openReview_of_error built)⟩
      | ok =>
          have opened : ((b.reviewed (b.presented r)).amid r stage).IsPatient :=
            (patient.reviewed calm).amid
          have named := isNamed_of_review built
          have opens {result : Except Fault Step} {told : List UiCall} {s' : Session}
              (later : Closes (if b.nextPlan.waits then
                  pure (Step.waits (.reviewing box b.nextPlan)) else finishReview box b.nextPlan)
                result told ((b.reviewed (b.presented r)).amid r stage) s') :=
            closes_openReview patient' built later
          cases waiting : b.nextPlan.waits with
          | true =>
              refine ⟨_, _, _, .waits unskipped built, ?_⟩
              rw [← List.append_nil (b.ui.shown _)]
              refine opens ?_
              rw [waiting]
              exact closes_of_does (does_pure _)
          | false =>
              cases made : b.nextPlan.moves.foldlM ReviewBox.moved box with
              | error f =>
                  obtain ⟨after, done⟩ := does_finishReview_of_error opened made
                  refine ⟨_, _, _, .broken after unskipped built made, opens ?_⟩
                  rw [waiting]
                  exact closes_of_does done
              | ok box' =>
                  refine ⟨_, _, _, .answered unskipped built made, opens ?_⟩
                  rw [waiting]
                  exact closes_finishReview opened named made

/-- A run that has ended leads to an answer. -/
theorem closes_afterCheck (patient : b.IsPatient) (r : Run DialogHandler) (stage : Stage) :
    ∃ result told b', Answer b r result told b' ∧
      Closes (afterCheck b.runs.length) result told (b.amid r stage) (b'.amid r stage) := by
  by_cases skipped : r.state = .skipped
  · refine ⟨_, _, _, .closed skipped, ?_⟩
    have rejected := closes_reject (s := b.amid r stage) patient.ui patient.key
    have said := closes_bind (f := fun _ => reject >>= fun _ => pure (Step.returns false))
      (does_say .info "Dependency check aborted, closing the dialog")
      (rejected.return (Step.returns false))
    apply closes_get_bind
    intro j
    rw [runState_amid, if_pos skipped]
    exact said j
  · obtain ⟨result, told, b', answer, opened⟩ := closes_openReview_amid patient skipped
    refine ⟨result, told, b', answer, ?_⟩
    have merged := does_merge (s := b.amid r stage) patient.selection r.dependencies
    have done := closes_bind (f := fun _ => openReview) merged opened
    apply closes_get_bind
    intro j
    rw [runState_amid, if_neg skipped]
    refine closes_get_bind (s := b.amid r stage) (fun j => ?_) j
    rw [runDependencies_amid]
    exact done j

/-- Where moves of a surface take a confirmation. -/
inductive Course (b : Session) (moves : List SurfaceMove) (r : Run DialogHandler) :
    Except Fault Step → List UiCall → Session → Prop
  | waits {wait : SurfaceWait} {later : List SurfaceMove}
      (fit : SurfaceMove.fit r.state later = true) (fewer : later.length < moves.length) :
      Course b moves r (.ok (.waits (.surface b.runs.length wait later))) [] b
  /-- The surface went away early, and the run was aborted. -/
  | settles (started : r.state ≠ .idle) :
      Course b moves r (.ok (.waits (.settling b.runs.length))) [] b
  | answers {result : Except Fault Step} {told : List UiCall} {b' : Session}
      (finished : r.state.isFinished = true) (answer : Answer b r result told b') :
      Course b moves r result told b'

theorem Course.confirmations {moves : List SurfaceMove} {result : Except Fault Step}
    {told : List UiCall} {b' : Session} (course : Course b moves r result told b') :
    b'.confirmations = b.confirmations := by
  cases course with
  | answers finished answer => exact answer.confirmations
  | _ => rfl

/-- A surface that is gone leads on to an answer, or the run is aborted first. -/
theorem closes_afterSurface (patient : b.IsPatient) (stage : Stage) (own : r.IsOwn)
    (started : r.state ≠ .idle) (moves : List SurfaceMove) :
    ∃ r' result told b', Run.Onward r r' ∧ Course b moves r' result told b' ∧
      Closes (afterSurface b.runs.length) result told (b.amid r stage) (b'.amid r' stage) := by
  by_cases finished : r.state.isFinished = true
  · obtain ⟨result, told, b', answer, done⟩ := closes_afterCheck patient r stage
    refine ⟨r, result, told, b', .refl own, .answers finished answer, ?_⟩
    apply closes_get_bind
    intro j
    rw [runState_amid, if_pos finished]
    exact done j
  · have onward := Run.Onward.abort own
    have state : r.abort.2.state = r.state := congrArg RunView.state (onward.view started)
    have settled : Does (do
        let _ ← Owner.abort b.runs.length
        Owner.requireStarted b.runs.length
        return Step.waits (.settling b.runs.length)) (.ok (.waits (.settling b.runs.length))) []
        (b.amid r stage) (b.amid r.abort.2 stage) :=
      does_abort.bind (f := fun _ => _) ((does_requireStarted (state ▸ started)).bind
        (f := fun _ => pure _) (does_pure _))
    refine ⟨r.abort.2, _, _, _, onward, .settles (state ▸ started), ?_⟩
    apply closes_get_bind
    intro j
    rw [runState_amid, if_neg finished]
    exact closes_of_does settled j

/-- Proper moves of a surface take a confirmation to its next wait or to an answer. -/
theorem closes_inSurface (patient : b.IsPatient) (stage : Stage) (own : r.IsOwn)
    {moves : List SurfaceMove} (fit : SurfaceMove.fit r.state moves = true) :
    ∃ r' result told b', Run.Onward r r' ∧ Course b moves r' result told b' ∧
      Closes (inSurface b.runs.length moves) result told (b.amid r stage) (b'.amid r' stage) := by
  obtain ⟨step, comes, onward, lands⟩ := exists_course own fit
  have moved := does_surfaceMoves b stage moves r
  rw [comes] at moved
  generalize (SurfaceMove.course moves r).2 = r' at onward lands moved
  cases step with
  | waits wait later =>
      exact ⟨r', _, _, _, onward, .waits lands.1 lands.2,
        closes_of_does (moved.outcome.bind (f := fun _ => _) (does_pure _))⟩
  | closed result =>
      obtain ⟨r'', outcome, told, b', onward', course, done⟩ :=
        closes_afterSurface patient stage onward.own lands moves
      have noted : Closes (do
          if (← get).surface.noted then
            Journaled.note (.surfaceClosed result)
          afterSurface b.runs.length) outcome told (b.amid r' stage) (b'.amid r'' stage) := by
        apply closes_get_bind
        intro j
        have same : (Journaled.setJournal j (b.amid r' stage)).surface.noted = b.surface.noted := rfl
        rw [same]
        cases b.surface.noted with
        | false => exact done j
        | true => exact closes_bind (f := fun _ => _) (does_note_quiet rfl) done j
      exact ⟨r'', outcome, told, b', onward.trans onward', course,
        closes_bind (f := fun _ => _) moved.outcome noted⟩

end Session

end AddonPicker
