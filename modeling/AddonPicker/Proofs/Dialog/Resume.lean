import AddonPicker.Proofs.Dialog.Standing

/-!
# Going on with a confirmation

A confirmation that goes on comes to a place where it may stand, and each time it is closer to its
end: a surface waits with fewer moves to come than before, and what follows on the surface can wait
for the aborted run and for the user only. `Stage.toll` counts this. So a confirmation keeps its
place through every event, and goes on a bounded number of times once its run has ended.
-/

namespace AddonPicker

/-- How a confirmation ends on a fault. -/
def Verdict.ofFault : Fault → Verdict
  | .cancelled => .cancelled
  | f => .failed f

namespace Stage

/-- The stage that a piece of the workflow leads to. -/
def after : Except Fault Step → Stage
  | .ok (.waits stage) => stage
  | .ok (.returns accepted) => .ended (.returned accepted)
  | .error f => .ended (.ofFault f)

/-- Whether a confirmation that stands there has begun and not ended. -/
def isUnderWay : Stage → Bool
  | .scheduled => false
  | .ended _ => false
  | _ => true

/-- A bound on how often a confirmation goes on before it ends, once its run has ended. -/
def toll : Stage → Nat
  | .scheduled => 0
  | .surface _ _ later => later.length + 3
  | .abandoning _ => 1
  | .settling _ => 2
  | .reviewing _ _ => 1
  | .ended _ => 0

end Stage

namespace Session

open Act

variable {b : Session} {r r' : Run DialogHandler} {stage : Stage} {told : List UiCall}

/-- A dialog once a piece of the workflow has come to a result. -/
def left (result : Except Fault Step) (b : Session) : Session :=
  match result with
  | .ok (.waits _) => b
  | _ => { b with confirming := false }

/-- What a piece of the workflow comes to is taken over into the confirmation. -/
theorem settle_amid {k : Confirmation} (result : Except Fault Step) (j : Journal) :
    settle b.confirmations.length result (Journaled.setJournal j (b.amid r k)) =
      Journaled.setJournal j ((b.left result).amid r (Stage.after result)) := by
  have set (stage' : Stage) :
      (b.confirmations ++ [k]).set b.confirmations.length { stage := stage' } =
        b.confirmations ++ [{ stage := stage' }] := by
    rw [List.set_append_right _ _ (Nat.le_refl _), Nat.sub_self]
    rfl
  have put (stage' : Stage) : setStage b.confirmations.length stage'
      (Journaled.setJournal j (b.amid r k)) = Journaled.setJournal j (b.amid r stage') :=
    congrArg (fun all => { Journaled.setJournal j (b.amid r k) with confirmations := all })
      (set stage')
  have ends (v : Verdict) : endConfirm b.confirmations.length v
      (Journaled.setJournal j (b.amid r k)) =
        Journaled.setJournal j ({ b with confirming := false }.amid r (Stage.ended v)) :=
    congrArg (fun s : Session => { s with confirming := false }) (put (.ended v))
  cases result with
  | ok step =>
      cases step with
      | waits stage' => exact put stage'
      | returns accepted => exact ends _
  | error f => cases f <;> exact ends _

/-- A review whose moves pass concludes a confirmation. -/
theorem concluded_of_made {box box' : ReviewBox} (unskipped : r.state ≠ .skipped)
    (built : (b.presented r).review b.naming b.emptyBox = (.ok (), box))
    (made : b.nextPlan.moves.foldlM ReviewBox.moved box = .ok box') :
    Concluded b r (.returned b.nextPlan.approves)
      (b.ui.shown r.report ++ (b.ui.shown [.execReview box] ++
        if b.nextPlan.approves then b.ui.shown [.accept] else []))
      (b.nextPlan.concluded box' (b.presented r)) := by
  refine ⟨fun skipped => absurd skipped unskipped, ?_⟩
  intro _ other other' built' made'
  cases built.symm.trans built'
  cases made.symm.trans made'
  have accepted : (if b.nextPlan.approves then b.ui.shown [.accept] else []) =
      b.ui.shown (if b.nextPlan.approves then [.accept] else []) := by
    cases b.nextPlan.approves <;> rfl
  refine ⟨rfl, ?_, rfl⟩
  rw [Ui.shown_append, Ui.shown_append, List.append_assoc, accepted]

/-- Of a review in which a move fails nothing is said. -/
theorem concluded_of_broken {box : ReviewBox} {f : Fault} {v : Verdict} {after : Selection}
    (unskipped : r.state ≠ .skipped)
    (built : (b.presented r).review b.naming b.emptyBox = (.ok (), box))
    (failed : b.nextPlan.moves.foldlM ReviewBox.moved box = .error f) :
    Concluded b r v told after := by
  refine ⟨fun skipped => absurd skipped unskipped, ?_⟩
  intro _ other other' built' made
  cases built.symm.trans built'
  exact nomatch failed.symm.trans made

/-- An answer ends a confirmation or lets it wait for the user. -/
theorem stands_of_answer {kept : List (Value × Value)} (kept' : List (Value × Value))
    {result : Except Fault Step} {b' : Session} (answer : Answer (b.engaged kept) r result told b')
    (finished : r.state.isFinished = true) :
    Stands b r (b.ui.shown r.report ++ told) ({ b' with settings := kept' }.left result)
      (Stage.after result) := by
  cases answer with
  | closed skipped =>
      have unreported : r.report = [] := by rw [Run.report, skipped]
      rw [unreported]
      exact .ended finished ⟨fun _ => ⟨rfl, rfl, rfl⟩, fun unskipped => absurd skipped unskipped⟩
        rfl rfl
  | waits unskipped built => exact .reviewing finished unskipped built
  | answered unskipped built made =>
      exact .ended finished (concluded_of_made unskipped built made) rfl rfl
  | unbuilt unskipped failed =>
      refine .ended finished ⟨fun skipped => absurd skipped unskipped, ?_⟩ rfl rfl
      intro _ box box' built made
      cases failed.symm.trans built
  | broken after unskipped built failed =>
      exact .ended finished (concluded_of_broken unskipped built failed) rfl rfl

theorem toll_of_answer {result : Except Fault Step} {b' : Session}
    (answer : Answer b r result told b') : (Stage.after result).toll ≤ 1 := by
  cases answer with
  | waits => exact Nat.le_refl 1
  | _ => exact Nat.zero_le 1

/-- A course leads to where a confirmation may stand, closer to its end than all its moves. -/
theorem stands_of_course {kept : List (Value × Value)} (kept' : List (Value × Value))
    {moves : List SurfaceMove} {result : Except Fault Step} {b' : Session}
    (course : Course (b.engaged kept) moves r result told b') :
    Stands b r (b.ui.shown r.report ++ told) ({ b' with settings := kept' }.left result)
        (Stage.after result) ∧
      (Stage.after result).toll < moves.length + 3 := by
  cases course with
  | waits fit fewer =>
      rw [List.append_nil]
      exact ⟨.surface fit, Nat.add_lt_add_right fewer 3⟩
  | settles started =>
      rw [List.append_nil]
      refine ⟨.settling started, ?_⟩
      show 2 < moves.length + 3
      omega
  | answers finished answer =>
      have toll := toll_of_answer answer
      exact ⟨stands_of_answer kept' answer finished, by omega⟩

/-- A confirmation begins if no other one is under way. -/
theorem resume_of_scheduled {c : Nat} {s : Session} (known : s.confirmations[c]? = some {})
    (free : s.confirming = false) :
    s.resume c = settle c (beginConfirm.perform { s with confirming := true }).1
      (beginConfirm.perform { s with confirming := true }).2 := by
  rw [resume, known]
  dsimp only
  rw [if_neg Bool.false_ne_true, free, if_neg Bool.false_ne_true]

/-- While another one is under way, it is turned down. -/
theorem resume_of_busy {c : Nat} {s : Session} (known : s.confirmations[c]? = some {})
    (busy : s.confirming = true) : s.resume c = s.turnDown c := by
  rw [resume, known]
  dsimp only
  rw [if_neg Bool.false_ne_true, busy, if_pos rfl]

/-- A confirmation without a check begins with the review. -/
theorem perform_beginConfirm_of_none {s : Session} (unchecked : s.newRun? = none) :
    beginConfirm.perform s = openReview.perform s := by
  rw [beginConfirm, perform_bind, perform_get]
  dsimp only
  rw [unchecked]

theorem resume_of_isUnderWay {c : Nat} {s : Session} (known : s.confirmations[c]? = some { stage })
    (underWay : stage.isUnderWay = true) :
    s.resume c = settle c ((continueConfirm false stage).perform s).1
      ((continueConfirm false stage).perform s).2 := by
  rw [resume, known]
  cases stage with
  | scheduled => exact absurd underWay Bool.false_ne_true
  | ended v => exact absurd underWay Bool.false_ne_true
  | _ => rfl

/-- A confirmation that is under way goes on from its stage. -/
theorem resume_amid {b'' : Session} {result : Except Fault Step}
    (underWay : stage.isUnderWay = true)
    (done : Closes (continueConfirm false stage) result told (b.amid r stage) (b''.amid r' stage))
    (same : b''.confirmations.length = b.confirmations.length) (j : Journal) :
    ∃ (j' : Journal) (kept : List (Value × Value)),
      resume b.confirmations.length (Journaled.setJournal j (b.amid r stage)) =
        Journaled.setJournal j' (({ b'' with settings := kept }.left result).amid r'
          (Stage.after result)) ∧
      j'.news = j.news ++ told := by
  obtain ⟨j', kept, performed, news⟩ := done j
  refine ⟨j', kept, ?_, news⟩
  have known : (Journaled.setJournal j (b.amid r stage)).confirmations[b.confirmations.length]? =
      some { stage } := confirmation?_amid rfl j
  have settled : settle b''.confirmations.length result
      (Journaled.setJournal j' ({ b'' with settings := kept }.amid r' stage)) = _ :=
    settle_amid result j'
  rw [← settled, same, resume_of_isUnderWay known underWay, performed]
  rfl

/-- Whatever the journal is, going on takes a confirmation to where it may stand next, which is
closer to its end if it has not ended yet. -/
def Resumes (b : Session) (told : List UiCall) (r : Run DialogHandler) (stage : Stage)
    (s : Session) : Prop :=
  ∀ j : Journal, ∃ (j' : Journal) (told' : List UiCall) (r' : Run DialogHandler) (b' : Session)
    (stage' : Stage),
    resume b.confirmations.length (Journaled.setJournal j s) =
        Journaled.setJournal j' (b'.amid r' stage') ∧
      j'.news = j.news ++ told' ∧ Run.Onward r r' ∧ Stands b r' (told ++ told') b' stage' ∧
      stage'.toll ≤ stage.toll - 1

/-- A confirmation goes on inside the surface. -/
theorem resumes_surface (patient : b.IsPatient) (own : r.IsOwn) (kept : List (Value × Value))
    (wait : SurfaceWait) {later : List SurfaceMove} (fit : SurfaceMove.fit r.state later = true) :
    Resumes b (b.ui.shown r.report) r (.surface b.runs.length wait later)
      ((b.engaged kept).amid r (Stage.surface b.runs.length wait later)) := by
  intro j
  obtain ⟨r', result, told, b', onward, course, done⟩ :=
    closes_inSurface (patient.engaged kept) (.surface b.runs.length wait later) own fit
  have going : Closes (continueConfirm false (.surface b.runs.length wait later)) result told
      ((b.engaged kept).amid r (Stage.surface b.runs.length wait later))
      (b'.amid r' (Stage.surface b.runs.length wait later)) := done
  have same : b'.confirmations.length = b.confirmations.length :=
    congrArg List.length course.confirmations
  obtain ⟨j', kept', resumed, news⟩ := resume_amid rfl going same j
  obtain ⟨stands, closer⟩ := stands_of_course kept' course
  rw [onward.report] at stands
  exact ⟨j', told, r', _, _, resumed, news, onward, stands, Nat.le_pred_of_lt closer⟩

/-- A confirmation goes on once the run has ended that was aborted after the surface. -/
theorem resumes_settling (patient : b.IsPatient) (own : r.IsOwn) (kept : List (Value × Value))
    (finished : r.state.isFinished = true) :
    Resumes b (b.ui.shown r.report) r (.settling b.runs.length)
      ((b.engaged kept).amid r (Stage.settling b.runs.length)) := by
  intro j
  obtain ⟨result, told, b', answer, done⟩ :=
    closes_afterCheck (patient.engaged kept) r (.settling b.runs.length)
  have going : Closes (continueConfirm false (.settling b.runs.length)) result told
      ((b.engaged kept).amid r (Stage.settling b.runs.length))
      (b'.amid r (Stage.settling b.runs.length)) := done
  have same : b'.confirmations.length = b.confirmations.length :=
    congrArg List.length answer.confirmations
  obtain ⟨j', kept', resumed, news⟩ := resume_amid rfl going same j
  exact ⟨j', told, r, _, _, resumed, news, .refl own, stands_of_answer kept' answer finished,
    toll_of_answer answer⟩

/-- A confirmation goes on with the answer of the user. -/
theorem resumes_reviewing (patient : b.IsPatient) (own : r.IsOwn) (kept : List (Value × Value))
    {box : ReviewBox} (finished : r.state.isFinished = true) (unskipped : r.state ≠ .skipped)
    (built : (b.presented r).review b.naming b.emptyBox = (.ok (), box)) :
    Resumes b (b.ui.shown r.report ++ b.ui.shown [.execReview box]) r (.reviewing box b.nextPlan)
      (((b.engaged kept).reviewed (b.presented r)).amid r (Stage.reviewing box b.nextPlan)) := by
  intro j
  have calm := Selection.isCalm_takenInAll patient.selection r.dependencies
  have reviewed : (((b.engaged kept).reviewed (b.presented r)).amid r
      (Stage.reviewing box b.nextPlan)).IsPatient := ((patient.engaged kept).reviewed calm).amid
  have named := isNamed_of_review built
  cases made : b.nextPlan.moves.foldlM ReviewBox.moved box with
  | error f =>
      obtain ⟨after, done⟩ := does_finishReview_of_error reviewed made
      have going : Closes (continueConfirm false (.reviewing box b.nextPlan)) (.error f) []
          (((b.engaged kept).reviewed (b.presented r)).amid r (Stage.reviewing box b.nextPlan))
          (((b.engaged kept).reviewed after).amid r (Stage.reviewing box b.nextPlan)) :=
        closes_of_does done
      obtain ⟨j', kept', resumed, news⟩ := resume_amid rfl going rfl j
      exact ⟨j', [], r, _, _, resumed, news, .refl own,
        .ended finished (concluded_of_broken unskipped built made) rfl rfl, Nat.zero_le _⟩
  | ok box' =>
      have done := closes_finishReview reviewed named made
      have going : Closes (continueConfirm false (.reviewing box b.nextPlan))
          (.ok (.returns b.nextPlan.approves))
          (if b.nextPlan.approves then b.ui.shown [.accept] else [])
          (((b.engaged kept).reviewed (b.presented r)).amid r (Stage.reviewing box b.nextPlan))
          (((b.engaged kept).reviewed (b.nextPlan.concluded box' (b.presented r))).amid r
            (Stage.reviewing box b.nextPlan)) := done
      obtain ⟨j', kept', resumed, news⟩ := resume_amid rfl going rfl j
      refine ⟨j', _, r, _, _, resumed, news, .refl own, ?_, Nat.zero_le _⟩
      rw [List.append_assoc]
      exact .ended finished (concluded_of_made unskipped built made) rfl rfl

/-- A confirmation that has ended does not go on. -/
theorem resumes_ended {b' : Session} {v : Verdict} (own : r.IsOwn)
    (stands : Stands b r told b' (.ended v)) :
    Resumes b told r (.ended v) (b'.amid r (Stage.ended v)) := by
  intro j
  refine ⟨j, [], r, b', .ended v, ?_, (List.append_nil _).symm, .refl own, ?_, Nat.zero_le _⟩
  · rw [resume, confirmation?_amid stands.confirmations]
  · rw [List.append_nil]
    exact stands

/-- A confirmation that does not wait for the run goes on. -/
theorem Stands.resumes {b' : Session} (stands : Stands b r told b' stage) (patient : b.IsPatient)
    (own : r.IsOwn) (due : ∀ i, stage = .settling i → r.state.isFinished = true) :
    Resumes b told r stage (b'.amid r stage) := by
  cases stands with
  | surface fit => exact resumes_surface patient own _ _ fit
  -- Only here does going on rely on the end of the run.
  | settling started => exact resumes_settling patient own _ (due _ rfl)
  | reviewing finished unskipped built =>
      exact resumes_reviewing patient own _ finished unskipped built
  | ended finished concluded runs confirmations =>
      exact resumes_ended own (.ended finished concluded runs confirmations)

/-- A confirmation can go on unless it waits for a run that is still to end. -/
theorem Stands.isReady_eq {b' : Session} (stands : Stands b r told b' stage) (j : Journal) :
    (Journaled.setJournal j (b'.amid r stage)).isReady b.confirmations.length =
      ((Rehearsal.awaitedRun? { stage }).isNone || r.state.isFinished) := by
  have state : (Journaled.setJournal j (b'.amid r stage)).runState b.runs.length = r.state := by
    rw [← stands.runs]
    exact runState_amid j
  rw [Session.isReady, confirmation?_amid stands.confirmations]
  cases stands with
  | @surface kept wait later fit =>
      cases wait with
      | quiet => rfl
      | runEnd => exact congrArg RunState.isFinished state
  | settling => exact congrArg RunState.isFinished state
  | reviewing => rfl
  | ended => rfl

theorem advances_resume_under {b' : Session} (patient : b.IsPatient) (own : r.IsOwn)
    (stands : Stands b r told b' stage) :
    Advances b told (b'.amid r stage) (happen b.confirmations.length b.runs.length .resume) := by
  intro j
  have ready := stands.isReady_eq j
  cases going : (Journaled.setJournal j (b'.amid r stage)).isReady b.confirmations.length with
  | false =>
      refine ⟨j, [], b'.amid r stage, ?_, (List.append_nil _).symm, ?_⟩
      · rw [happen, going]
        rfl
      · rw [List.append_nil]
        exact .under own stands
  | true =>
      rw [going] at ready
      have due (i : Nat) (settling : stage = .settling i) : r.state.isFinished = true := by
        rw [settling] at ready
        exact ready.symm
      obtain ⟨j', told', r', b'', stage', resumed, news, onward, stands', -⟩ :=
        stands.resumes patient own due j
      refine ⟨j', told', b''.amid r' stage', ?_, news, .under onward.own stands'⟩
      rw [happen, going]
      exact resumed

/-- A dialog with a check ahead: no other confirmation is under way, nothing keeps the check from
coming up, its surface starts the run, and the selection can be presented. -/
structure Prepared (b : Session) (run : Run DialogHandler) : Prop where
  patient : b.IsPatient
  free : b.confirming = false
  checks : b.newRun? = some run
  comesUp : b.surface.creation = none
  starts : SurfaceMove.startOnce b.surface.moves = true
  kept : b.selection.IsKept
  named : b.selection.IsNamed b.naming

/-- The run of a confirmation with the handlers of a dialog. -/
def handled (run : Run DialogHandler) : Run DialogHandler :=
  (run.on .failed .showError).on .succeeded .showWarnings

/-- A run as a confirmation takes it on is an own one that was not started. -/
theorem isOwn_handled {run : Run DialogHandler} (checks : b.newRun? = some run) :
    (handled run).IsOwn ∧ (handled run).state = .idle := by
  rw [newRun?] at checks
  split at checks
  · cases checks
    have made : ({
        selected := b.choices, scope := b.scope
        timeout := b.config.resolutionTimeout } : Run DialogHandler).Consistent :=
      Run.consistent_new _ _ _ _
    exact ⟨⟨made.of_view rfl rfl, rfl⟩, rfl⟩
  · exact nomatch checks

/-- Which run a confirmation makes does not hang on the journal. -/
theorem newRun?_requested (j : Journal) :
    (Journaled.setJournal j { b.request.2 with confirming := true }).newRun? = b.newRun? := rfl

/-- Taking in a run for a confirmation that begins. -/
theorem does_adopt (r : Run DialogHandler) :
    Does (Owner.adopt r) (.ok b.runs.length) [] { b.request.2 with confirming := true }
      ((b.engaged b.settings).amid r Stage.scheduled) := by
  have taken : Does (modify (Owner.setRuns (b.runs ++ [r])) >>= fun _ => pure b.runs.length)
      (.ok b.runs.length) [] { b.request.2 with confirming := true }
      ((b.engaged b.settings).amid r Stage.scheduled) :=
    (does_modify fun _ => rfl).bind (f := fun _ => pure _) (does_pure _)
  exact does_get_bind fun j => taken j

/-- The surface comes up for the run at a position. -/
def comeUp (i : Nat) : Act Session Step := do
  let surface := (← get).surface
  Act.failOn surface.creation
  if surface.noted then
    Journaled.note (.surfaceShown "Checking for dependencies..." true "Abort")
  inSurface i surface.moves

/-- A surface that comes up tells nothing by itself. -/
theorem closes_comeUp {result : Except Fault Step} {s s' : Session} (i : Nat)
    (comesUp : s.surface.creation = none)
    (done : Closes (inSurface i s.surface.moves) result told s s') :
    Closes (comeUp i) result told s s' := by
  have noted : Closes (do
      if s.surface.noted then
        Journaled.note (.surfaceShown "Checking for dependencies..." true "Abort")
      inSurface i s.surface.moves) result told s s' := by
    cases s.surface.noted with
    | false => exact done
    | true => exact closes_bind (f := fun _ => _) (does_note_quiet rfl) done
  apply closes_get_bind
  intro j
  have same : (Journaled.setJournal j s).surface = s.surface := rfl
  dsimp only
  rw [same, comesUp]
  exact closes_bind (f := fun _ => _) does_failOn_none noted j

/-- A confirmation begins with a run of its own and brings up the surface. -/
theorem closes_beginConfirm {run : Run DialogHandler} (prepared : b.Prepared run) :
    ∃ r' result told b', r'.IsOwn ∧ r'.report = [] ∧
      Course (b.engaged b.settings) b.surface.moves r' result told b' ∧
      Closes beginConfirm result told { b.request.2 with confirming := true }
        (b'.amid r' Stage.scheduled) := by
  obtain ⟨patient, free, checks, comesUp, starts, -, -⟩ := prepared
  obtain ⟨own, idle⟩ := isOwn_handled checks
  have fit : SurfaceMove.fit (handled run).state b.surface.moves = true := by
    rw [SurfaceMove.fit, if_pos idle]
    exact starts
  obtain ⟨r', result, told, b', onward, course, done⟩ :=
    closes_inSurface (patient.engaged b.settings) .scheduled own fit
  have unreported : r'.report = [] := by
    rw [onward.report, Run.report, idle]
  have surfaced : Closes (comeUp b.runs.length) result told
      ((b.engaged b.settings).amid (handled run) Stage.scheduled) (b'.amid r' Stage.scheduled) :=
    closes_comeUp b.runs.length comesUp done
  have adopted : Does (Owner.adopt ((run.on .failed .showError).on .succeeded .showWarnings))
      (.ok b.runs.length) [] { b.request.2 with confirming := true }
      ((b.engaged b.settings).amid (handled run) Stage.scheduled) := does_adopt (handled run)
  refine ⟨r', result, told, b', onward.own, unreported, course, closes_get_bind fun j => ?_⟩
  rw [newRun?_requested, checks]
  exact closes_bind (f := comeUp) adopted surfaced j

/-- A confirmation that was requested is still to begin. -/
theorem confirmation?_requested (j : Journal) :
    (Journaled.setJournal j b.request.2).confirmations[b.confirmations.length]? = some {} :=
  List.getElem?_concat_length

/-- A confirmation begins with a run of its own. -/
theorem resume_requested {run : Run DialogHandler} (prepared : b.Prepared run) (j : Journal) :
    ∃ (j' : Journal) (told' : List UiCall) (r' : Run DialogHandler) (b' : Session)
      (stage' : Stage),
      resume b.confirmations.length (Journaled.setJournal j b.request.2) =
          Journaled.setJournal j' (b'.amid r' stage') ∧
        j'.news = j.news ++ told' ∧ r'.IsOwn ∧ Stands b r' told' b' stage' := by
  obtain ⟨r', result, told, b', own, unreported, course, done⟩ := closes_beginConfirm prepared
  obtain ⟨j', kept, performed, news⟩ := done j
  obtain ⟨stands, -⟩ := stands_of_course kept course
  rw [unreported] at stands
  have same : b'.confirmations.length = b.confirmations.length :=
    congrArg List.length course.confirmations
  refine ⟨j', told, r', _, _, ?_, news, own, stands⟩
  have known := confirmation?_requested (b := b) j
  have free : (Journaled.setJournal j b.request.2).confirming = false := prepared.free
  have settled : settle b'.confirmations.length result
      (Journaled.setJournal j' ({ b' with settings := kept }.amid r' Stage.scheduled)) = _ :=
    settle_amid result j'
  have begun : beginConfirm.perform { Journaled.setJournal j b.request.2 with confirming := true } =
      (result, Journaled.setJournal j' ({ b' with settings := kept }.amid r' Stage.scheduled)) :=
    performed
  rw [← settled, same, resume_of_scheduled known free, begun]

/-- Going on keeps a confirmation where it may stand. -/
theorem advances_resume {run : Run DialogHandler} (prepared : b.Prepared run) {s : Session}
    (standing : Standing b told s) :
    Advances b told s (happen b.confirmations.length b.runs.length .resume) := by
  cases standing with
  | requested =>
      intro j
      obtain ⟨j', told', r', b', stage', resumed, news, own, stands⟩ := resume_requested prepared j
      refine ⟨j', told', b'.amid r' stage', ?_, news, .under own stands⟩
      have ready : (Journaled.setJournal j b.request.2).isReady b.confirmations.length = true := by
        rw [isReady, confirmation?_requested]
        rfl
      rw [happen, ready]
      exact resumed
  | under own stands => exact advances_resume_under prepared.patient own stands

/-- Every event keeps a confirmation where it may stand. -/
theorem Standing.advances {run : Run DialogHandler} (prepared : b.Prepared run) {s : Session}
    (standing : Standing b told s) (e : CheckEvent) :
    Advances b told s (happen b.confirmations.length b.runs.length e) := by
  cases e with
  | resume => exact advances_resume prepared standing
  | abort => exact advances_abort standing
  | move m => exact advances_move standing m
  | lookup l => exact advances_lookup standing l

end Session

end AddonPicker
