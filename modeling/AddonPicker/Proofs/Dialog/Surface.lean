import AddonPicker.Proofs.Dialog.Check

/-!
# The surface of a check

What the moves of a progress surface come to hangs on the run alone, and so does what they make of
it: `SurfaceMove.course`. None of it tells the user anything.

A proper surface starts the run once, before it waits for it or goes away, and does not fail. It may
abort the run, let others go first, wait for the end and go away early.
-/

namespace AddonPicker

namespace SurfaceMove

/-- Moves that go on with a run that was started: they neither start it again nor fail. -/
def goOn : List SurfaceMove → Bool
  | [] => true
  | .start :: _ => false
  | .fail _ :: _ => false
  | .close _ :: _ => true
  | .closeByOutcome :: _ => true
  | _ :: later => goOn later

/-- Moves that start an idle run once and go on with it. -/
def startOnce : List SurfaceMove → Bool
  | .start :: later => goOn later
  | .startIfIdle :: later => goOn later
  | .abort _ :: later => startOnce later
  | .pause :: later => startOnce later
  | _ => false

/-- Moves that are proper for a run in a state. -/
def fit (state : RunState) (moves : List SurfaceMove) : Bool :=
  if state = .idle then startOnce moves else goOn moves

/-- What moves of a surface come to with a run, and what they make of it. -/
def course : List SurfaceMove → Run DialogHandler →
    Except Fault SurfaceStep × Run DialogHandler
  | [], r => (.ok (.closed false), r)
  | .start :: later, r =>
    if r.state = .idle then course later { r with state := .running, phase := .scheduled }
    else (.error .alreadyStarted, r)
  | .startIfIdle :: later, r =>
    if r.state = .idle then course later { r with state := .running, phase := .scheduled }
    else course later r
  | .abort _ :: later, r => course later r.abort.2
  | .pause :: later, r => (.ok (.waits .quiet later), r)
  | .await :: later, r =>
    if r.state = .idle then (.error .notStarted, r) else (.ok (.waits .runEnd later), r)
  | .close result :: _, r => (.ok (.closed result), r)
  | .closeByOutcome :: _, r => (.ok (.closed (r.state == .succeeded)), r)
  | .fail f :: _, r => (.error f, r)

end SurfaceMove

/-- A run later on, as far as a surface takes it: it may have been started meanwhile. -/
structure Run.Onward (r r' : Run DialogHandler) : Prop where
  own : r'.IsOwn
  report : r'.report = r.report
  view : r.state ≠ .idle → r'.view = r.view

namespace Run.Onward

variable {r r' r'' : Run DialogHandler}

theorem refl (own : r.IsOwn) : Run.Onward r r := ⟨own, rfl, fun _ => rfl⟩

theorem of_view (own : r'.IsOwn) (view : r'.view = r.view) : Run.Onward r r' :=
  ⟨own, Run.report_congr view, fun _ => view⟩

theorem abort (own : r.IsOwn) : Run.Onward r r.abort.2 := by
  have stays := Run.stays_abort own.consistent
  exact of_view ⟨stays.consistent, stays.handlers.trans own.handlers⟩ stays.view

theorem start (own : r.IsOwn) (idle : r.state = .idle) :
    Run.Onward r { r with state := .running, phase := .scheduled } := by
  refine ⟨⟨own.consistent.started idle, own.handlers⟩, ?_, fun busy => absurd idle busy⟩
  rw [Run.report, Run.report, idle]

theorem trans (first : Run.Onward r r') (later : Run.Onward r' r'') : Run.Onward r r'' := by
  refine ⟨later.own, later.report.trans first.report, fun busy => ?_⟩
  have view := first.view busy
  have state : r'.state = r.state := congrArg RunView.state view
  exact (later.view (state ▸ busy)).trans view

end Run.Onward

namespace Session

open Act

variable {b : Session} {r : Run DialogHandler} {k : Confirmation}

/-- Where moves of a surface lead: to a wait with fewer moves to come that are proper again, or to
the end of a surface that has started the run. -/
def Lands (moves : List SurfaceMove) (r : Run DialogHandler) : SurfaceStep → Prop
  | .waits _ later => SurfaceMove.fit r.state later = true ∧ later.length < moves.length
  | .closed _ => r.state ≠ .idle

theorem Lands.cons {moves : List SurfaceMove} {step : SurfaceStep} (lands : Lands moves r step)
    (m : SurfaceMove) : Lands (m :: moves) r step := by
  cases step with
  | waits wait later => exact ⟨lands.1, Nat.lt_succ_of_lt lands.2⟩
  | closed result => exact lands

theorem runState_amid (j : Journal) :
    (Journaled.setJournal j (b.amid r k)).runState b.runs.length = r.state := by
  have known : (Journaled.setJournal j (b.amid r k)).runs[b.runs.length]? = some r :=
    List.getElem?_concat_length
  rw [runState, known]

/-- Proper moves lead to a wait or to the end of the surface. -/
theorem exists_course (own : r.IsOwn) {moves : List SurfaceMove}
    (fit : SurfaceMove.fit r.state moves = true) :
    ∃ step, (SurfaceMove.course moves r).1 = .ok step ∧
      Run.Onward r (SurfaceMove.course moves r).2 ∧
      Lands moves (SurfaceMove.course moves r).2 step := by
  induction moves generalizing r with
  | nil =>
      by_cases idle : r.state = .idle
      · simp [SurfaceMove.fit, SurfaceMove.startOnce, idle] at fit
      · exact ⟨.closed false, rfl, .refl own, idle⟩
  | cons m later ih =>
      cases m with
      | start =>
          by_cases idle : r.state = .idle
          · simp only [SurfaceMove.fit, SurfaceMove.startOnce, idle, if_true] at fit
            have begun := Run.Onward.start own idle
            obtain ⟨step, comes, onward, lands⟩ := ih begun.own fit
            rw [SurfaceMove.course, if_pos idle]
            exact ⟨step, comes, begun.trans onward, lands.cons _⟩
          · simp [SurfaceMove.fit, SurfaceMove.goOn, idle] at fit
      | startIfIdle =>
          by_cases idle : r.state = .idle
          · simp only [SurfaceMove.fit, SurfaceMove.startOnce, idle, if_true] at fit
            have begun := Run.Onward.start own idle
            obtain ⟨step, comes, onward, lands⟩ := ih begun.own fit
            rw [SurfaceMove.course, if_pos idle]
            exact ⟨step, comes, begun.trans onward, lands.cons _⟩
          · simp only [SurfaceMove.fit, SurfaceMove.goOn, idle, if_false] at fit
            obtain ⟨step, comes, onward, lands⟩ := ih own (by simpa [SurfaceMove.fit, idle])
            rw [SurfaceMove.course, if_neg idle]
            exact ⟨step, comes, onward, lands.cons _⟩
      | abort shown =>
          have aborted := Run.Onward.abort own
          have state : r.abort.2.state = r.state :=
            congrArg RunView.state (Run.stays_abort own.consistent).view
          have fit' : SurfaceMove.fit r.abort.2.state later = true := by
            rw [state]
            exact fit
          obtain ⟨step, comes, onward, lands⟩ := ih aborted.own fit'
          exact ⟨step, comes, aborted.trans onward, lands.cons _⟩
      | pause =>
          have fit' : SurfaceMove.fit r.state later = true := fit
          exact ⟨.waits .quiet later, rfl, .refl own, fit', Nat.lt_succ_self _⟩
      | await =>
          by_cases idle : r.state = .idle
          · simp [SurfaceMove.fit, SurfaceMove.startOnce, idle] at fit
          · have fit' : SurfaceMove.fit r.state later = true := by
              simpa [SurfaceMove.fit, SurfaceMove.goOn, idle] using fit
            rw [SurfaceMove.course, if_neg idle]
            exact ⟨.waits .runEnd later, rfl, .refl own, fit', Nat.lt_succ_self _⟩
      | close result =>
          by_cases idle : r.state = .idle
          · simp [SurfaceMove.fit, SurfaceMove.startOnce, idle] at fit
          · exact ⟨.closed result, rfl, .refl own, idle⟩
      | closeByOutcome =>
          by_cases idle : r.state = .idle
          · simp [SurfaceMove.fit, SurfaceMove.startOnce, idle] at fit
          · exact ⟨.closed (r.state == .succeeded), rfl, .refl own, idle⟩
      | fail f =>
          simp [SurfaceMove.fit, SurfaceMove.startOnce, SurfaceMove.goOn] at fit

/-- A run that was started cannot be started again. -/
theorem does_start_of_ne_idle (busy : r.state ≠ .idle) :
    Does (Owner.start b.runs.length) (.error .alreadyStarted) [] (b.amid r k) (b.amid r k) :=
  fun j => ⟨j, Owner.perform_start_of_ne_idle (run?_setJournal_amid j) busy,
    (List.append_nil _).symm⟩

/-- A run that was not started cannot be waited for. -/
theorem does_requireStarted_of_idle (idle : r.state = .idle) :
    Does (Owner.requireStarted b.runs.length) (.error .notStarted) [] (b.amid r k)
      (b.amid r k) := by
  apply does_get_bind
  intro j
  rw [run?_setJournal_amid]
  dsimp only
  rw [if_pos idle]
  exact does_check (.error .notStarted) j

/-- Moves of a surface come to what they make of the run, and tell nothing. -/
theorem does_surfaceMoves (b : Session) (k : Confirmation) (moves : List SurfaceMove)
    (r : Run DialogHandler) :
    Does (surfaceMoves b.runs.length moves) (SurfaceMove.course moves r).1 [] (b.amid r k)
      (b.amid (SurfaceMove.course moves r).2 k) := by
  induction moves generalizing r with
  | nil => exact does_pure _
  | cons m later ih =>
      cases m with
      | start =>
          rw [SurfaceMove.course]
          split
          · rename_i idle
            exact (does_start idle).bind (f := fun _ => surfaceMoves _ later) (ih _)
          · rename_i busy
            exact (does_start_of_ne_idle busy).bind_error
      | startIfIdle =>
          rw [SurfaceMove.course]
          apply does_get_bind
          intro j
          rw [runState_amid]
          split
          · rename_i idle
            exact (does_start idle).bind (f := fun _ => surfaceMoves _ later) (ih _) j
          · exact ih r j
      | abort shown =>
          refine (does_abort (r := r)).bind (f := fun answer => _) ?_
          cases shown with
          | false => exact ih r.abort.2
          | true =>
              exact (does_note_quiet rfl).bind (f := fun _ => surfaceMoves _ later) (ih r.abort.2)
      | pause => exact does_pure _
      | await =>
          rw [SurfaceMove.course]
          split
          · rename_i idle
            exact (does_requireStarted_of_idle idle).bind_error
          · rename_i started
            exact (does_requireStarted started).bind (f := fun _ => pure _) (does_pure _)
      | close result => exact does_pure _
      | closeByOutcome =>
          apply does_get_bind
          intro j
          rw [runState_amid]
          exact does_pure _ j
      | fail f => exact does_check (.error f)

end Session

end AddonPicker
