import AddonPicker.Proofs.Dialog.Steps

/-!
# The standard surface

The standard surface starts a run, waits for the end of it and goes away. So a confirmation stands
at a few places only, and what it does there is known whatever else its dialog is about: it begins,
it goes on to the answer, it has its run aborted when it was cancelled, and it ends when that run
has ended.
-/

namespace AddonPicker.Session

open Act

variable {s : Session} {r : Run DialogHandler} {k : Confirmation} {c i : Nat}

/-- Waiting for a run that was started is allowed, and changes nothing. -/
theorem perform_requireStarted (known : s.runs[i]? = some r) (started : r.state ≠ .idle) :
    (Owner.requireStarted i : Act Session Unit).perform s = (.ok (), s) :=
  have here : Owner.run? s i = some r := known
  Owner.perform_requireStarted here started

/-- The standard surface starts a run that was not started, and waits for it. -/
theorem perform_standard (known : s.runs[i]? = some r) (idle : r.state = .idle) :
    (surfaceMoves i Surface.standard.moves).perform s =
      (.ok (.waits .runEnd [.closeByOutcome]), { s with
        runs := s.runs.set i { r with state := .running, phase := .scheduled } }) := by
  have here : Owner.run? s i = some r := known
  have waits : s.runState i = .idle := by
    rw [runState, known]
    exact idle
  have put : (Owner.setRun i { r with state := .running, phase := .scheduled }).perform s =
      (.ok (), { s with runs := s.runs.set i { r with state := .running, phase := .scheduled } }) :=
    rfl
  rw [Surface.standard, surfaceMoves, perform_bind, perform_get]
  dsimp only
  rw [if_pos waits, perform_bind, Owner.perform_start_of_idle here idle, put]
  dsimp only
  rw [surfaceMoves, perform_bind, perform_requireStarted (r := { r with
    state := .running, phase := .scheduled }) (List.getElem?_set_self
      (List.getElem?_eq_some_iff.mp known).1) RunState.noConfusion]
  rfl

/-- On that surface a confirmation begins by waiting for a run of its own. -/
theorem perform_beginConfirm (standard : s.surface = .standard) {run : Run DialogHandler}
    (checks : s.newRun? = some run) :
    beginConfirm.perform s =
      (.ok (.waits (.surface s.runs.length .runEnd [.closeByOutcome])), { s with runs :=
        s.runs ++ [{ handled run with state := .running, phase := .scheduled }] }) := by
  have adopts : (Owner.adopt (handled run)).perform s =
    (.ok s.runs.length, { s with runs := s.runs ++ [handled run] }) := rfl
  have moved := perform_standard (s := { s with runs := s.runs ++ [handled run] })
    List.getElem?_concat_length (isOwn_handled checks).2
  rw [List.set_append_right _ _ (Nat.le_refl _), Nat.sub_self] at moved
  rw [beginConfirm, perform_bind, perform_get]
  dsimp only
  rw [checks]
  show (Owner.adopt (handled run) >>= _).perform s = _
  rw [perform_bind, adopts]
  dsimp only
  rw [perform_bind, perform_get]
  dsimp only
  rw [standard] at moved ⊢
  show (inSurface s.runs.length Surface.standard.moves).perform _ = _
  rw [inSurface, perform_bind, perform_outcome, moved]
  rfl

/-- A confirmation waits for the end of a run, as the standard surface does, and is not called
off. -/
def AwaitsEnd (c i : Nat) (s : Session) : Prop :=
  s.confirmations[c]? = some { stage := .surface i .runEnd [.closeByOutcome] }

instance : Decidable (s.AwaitsEnd c i) :=
  decidable_of_iff ((match s.confirmations[c]? with
    | some { stage := .surface j .runEnd [.closeByOutcome], cancelling := false } => j == i
    | _ => false) = true) <| by
    rw [AwaitsEnd]
    split <;> simp_all

/-- With the end of its run, a confirmation goes on to the answer. -/
theorem perform_afterSurface_of_isFinished (finished : (s.runState i).isFinished = true) :
    (afterSurface i).perform s = (afterCheck i).perform s := by
  rw [afterSurface, perform_bind, perform_get]
  dsimp only
  rw [if_pos finished]

/-- If nobody notes that the surface goes away, nothing comes before the answer. -/
theorem perform_inSurface_of_unnoted (finished : (s.runState i).isFinished = true)
    (unnoted : s.surface.noted = false) :
    (inSurface i [.closeByOutcome]).perform s = (afterCheck i).perform s := by
  have gone : (surfaceMoves i [.closeByOutcome]).perform s =
      (.ok (.closed (s.runState i == .succeeded)), s) := rfl
  rw [inSurface, perform_bind, perform_outcome, gone]
  dsimp only
  rw [perform_bind, perform_get]
  dsimp only
  rw [unnoted, if_neg Bool.false_ne_true]
  exact perform_afterSurface_of_isFinished finished

/-- A confirmation whose run has come to its end goes on to the answer. -/
theorem perform_inSurface_of_isFinished (finished : (s.runState i).isFinished = true) :
    ∃ j : Journal, (inSurface i [.closeByOutcome]).perform s =
      (afterCheck i).perform (Journaled.setJournal j s) := by
  have closed (j : Journal) : (afterSurface i).perform (Journaled.setJournal j s) =
      (afterCheck i).perform (Journaled.setJournal j s) :=
    perform_afterSurface_of_isFinished finished
  have gone : (surfaceMoves i [.closeByOutcome]).perform s =
      (.ok (.closed (s.runState i == .succeeded)), s) := rfl
  rw [inSurface, perform_bind, perform_outcome, gone]
  dsimp only
  rw [perform_bind, perform_get]
  dsimp only
  split
  · exact ⟨_, closed _⟩
  · exact ⟨s.selection.journal, closed s.selection.journal⟩

/-- A confirmation that is called off has its run aborted, if that was started. -/
theorem perform_abandon (known : s.runs[i]? = some r) (started : r.state ≠ .idle) :
    (abandon i).perform s =
      (.ok (.waits (.abandoning i)), ((Owner.abort i).perform s).2) := by
  obtain ⟨answer, answered⟩ := Owner.perform_abort_fst i s
  have aborted := Owner.run?_abort (s := s) known
  have started : r.abort.2.state ≠ .idle := r.abort_snd_eq.1 ▸ started
  rw [abandon, perform_bind]
  generalize (Owner.abort i).perform s = performed at answered aborted
  obtain ⟨result, t⟩ := performed
  obtain rfl : result = .ok answer := answered
  dsimp only
  rw [perform_bind, perform_requireStarted aborted started]
  rfl

/-- Whether a confirmation can go on that waits for the end of a run. -/
theorem isReady_of_awaits (known : s.confirmations[c]? = some k) (run : s.runs[i]? = some r)
    (awaits : Rehearsal.awaitedRun? k = some i) :
    s.isReady c = (k.cancelling || r.state.isFinished) := by
  rw [isReady, known]
  dsimp only
  rw [awaits]
  dsimp only
  rw [runState, run]

/-- Once its run has ended, a confirmation that had it aborted ends as cancelled. -/
theorem resume_of_abandoning {cancelling : Bool}
    (known : s.confirmations[c]? = some { stage := .abandoning i, cancelling }) :
    s.resume c = s.endConfirm c .cancelled :=
  resume_of_isChecking known (beq_self_eq_true i)

theorem resume_of_ended {v : Verdict} {cancelling : Bool}
    (known : s.confirmations[c]? = some { stage := .ended v, cancelling }) : s.resume c = s := by
  rw [Session.resume, known]

end AddonPicker.Session
