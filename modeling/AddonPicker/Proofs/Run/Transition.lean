import AddonPicker.Resolution.Run

/-!
# Transitions of a run

Every transition of a run does one of two things. Either the same can be asked of the run as
before, and nobody is called; or the run was running and is finished now, and the handlers that
were registered by then are called, those for its kind of end first and those for any end after
them. `Run.Stays` and `Run.Ends` say this of a transition, and every transition is shown to be one
or the other.
-/

namespace AddonPicker

/-- What can be asked of a run. -/
structure RunView where
  state : RunState
  dependencies : List Choice
  warnings : List String
  closure : Closure
  failure : Option String

namespace Effect

variable {η : Type}

/-- The call of a handler that an effect is, if it is one. -/
def call? : Effect η → Option (η × Notice)
  | .log _ _ => none
  | .notify handler notice => some (handler, notice)

/-- A log record in front adds no call. -/
@[simp] theorem filterMap_call?_log (level : Level) (message : String) (later : List (Effect η)) :
    (log level message :: later).filterMap call? = later.filterMap call? := rfl

end Effect

namespace RunState

variable {s : RunState}

theorem ne_idle_of_isFinished (finished : s.isFinished = true) : s ≠ .idle := by
  rintro rfl
  exact Bool.false_ne_true finished

theorem ne_running_of_isFinished (finished : s.isFinished = true) : s ≠ .running := by
  rintro rfl
  exact Bool.false_ne_true finished

end RunState

namespace Phase

/-- The public states that a run can be in at a phase. -/
def Fits : Phase → RunState → Prop
  | .idle, s => s = .idle
  | .closing, s => s.isFinished = true
  | .done, s => s.isFinished = true
  | _, s => s = .running

end Phase

namespace Deadline

/-- Only a run without a timeout has no deadline. -/
theorem ofTimeout_eq_never {v : Value} : ofTimeout v = .never ↔ v = .null := by
  constructor
  · intro never
    unfold ofTimeout at never
    split at never
    · rfl
    · repeat' split at never
      all_goals cases never
  · rintro rfl
    rfl

end Deadline

namespace Run

variable {η : Type}

/-- What can be asked of a run at the moment. -/
def view (r : Run η) : RunView :=
  ⟨r.state, r.dependencies, r.warnings, r.closure, r.failure⟩

/-- What a finished run has to tell, in order. -/
def notices (r : Run η) : List Notice :=
  match r.state with
  | .succeeded => [.succeeded, .finished]
  | .failed => [.failed (r.failure.getD ""), .finished]
  | .skipped => [.finished]
  | _ => []

/-- The calls with which a finished run tells it, in order. -/
def announcement (r : Run η) : List (η × Notice) :=
  r.notices.flatMap fun n => (r.handlers.filter (·.1 == n.occasion)).map fun h => (h.2, n)

/-- Only handlers of the run are called. -/
theorem exists_of_mem_announcement {r : Run η} {c : η × Notice} (due : c ∈ r.announcement) :
    ∃ h ∈ r.handlers, h.2 = c.1 := by
  simp only [announcement, List.mem_flatMap, List.mem_map, List.mem_filter] at due
  obtain ⟨n, -, h, ⟨registered, -⟩, rfl⟩ := due
  exact ⟨h, registered, rfl⟩

/-- What a run has to tell whom hangs on what it shows and on its handlers. -/
theorem announcement_congr {r r' : Run η} (view : r'.view = r.view)
    (handlers : r'.handlers = r.handlers) : r'.announcement = r.announcement := by
  simp only [Run.view, RunView.mk.injEq] at view
  obtain ⟨state, -, -, -, failure⟩ := view
  rw [announcement, announcement, notices, notices, state, failure, handlers]

/-- The phase of a run and what it shows go together. -/
structure Consistent (r : Run η) : Prop where
  phase : r.phase.Fits r.state
  /-- Only a success has something to show. -/
  empty : r.state ≠ .succeeded → r.closure = {} ∧ r.warnings = []
  warnings : r.state = .succeeded → r.warnings = r.closure.warnings
  failure : r.failure.isSome = true ↔ r.state = .failed

/-- A transition after which the same can be asked of a run. Nobody is called. -/
structure Stays (r : Run η) (t : Run η × List (Effect η)) : Prop where
  view : t.1.view = r.view
  handlers : t.1.handlers = r.handlers
  silent : t.2.filterMap Effect.call? = []
  consistent : t.1.Consistent

/-- A transition that ends a run. The handlers that are registered by then are called. -/
structure Ends (r : Run η) (t : Run η × List (Effect η)) : Prop where
  running : r.state = .running
  finished : t.1.state.isFinished = true
  handlers : t.1.handlers = r.handlers
  announced : t.2.filterMap Effect.call? = t.1.announcement
  consistent : t.1.Consistent

variable {r : Run η}

/-- A run that shows what a consistent one shows is consistent, if its phase fits. -/
theorem Consistent.of_view (h : r.Consistent) {r' : Run η} (same : r'.view = r.view)
    (fits : r'.phase.Fits r'.state) : r'.Consistent := by
  simp only [view, RunView.mk.injEq] at same
  obtain ⟨state, -, warnings, closure, failure⟩ := same
  refine ⟨fits, ?_, ?_, ?_⟩
  · rw [state, warnings, closure]
    exact h.empty
  · rw [state, warnings, closure]
    exact h.warnings
  · rw [state, failure]
    exact h.failure

theorem Consistent.failure_eq_none (h : r.Consistent) (running : r.state = .running) :
    r.failure = none := by
  have notFailed : r.state ≠ .failed := by rw [running]; exact RunState.noConfusion
  exact Option.not_isSome_iff_eq_none.mp fun some => notFailed (h.failure.mp some)

/-- A finished run is announcing its end or has done so. -/
theorem Consistent.phase_of_isFinished (h : r.Consistent) (finished : r.state.isFinished = true) :
    r.phase = .closing ∨ r.phase = .done := by
  have fits := h.phase
  cases phase : r.phase with
  | closing => exact .inl rfl
  | done => exact .inr rfl
  | _ =>
      rw [phase] at fits
      change r.state = _ at fits
      rw [fits] at finished
      exact absurd finished Bool.false_ne_true

/-- A run that does not announce its end is over or has not come to it. -/
theorem Consistent.state_of_phase (h : r.Consistent) {s : RunState} {p : Phase}
    (phase : r.phase = p) (only : ∀ s', p.Fits s' → s' = s) : r.state = s :=
  only _ (phase ▸ h.phase)

/-- A run that was just made has nothing to show. -/
theorem consistent_new (selected : List Choice) (scope : Scope) (timeout : Value)
    (conduct : Conduct) : ({ selected, scope, timeout, conduct } : Run η).Consistent :=
  ⟨rfl, fun _ => ⟨rfl, rfl⟩, RunState.noConfusion, by simp⟩

/-- A run that is started has nothing to show yet. -/
theorem Consistent.started (h : r.Consistent) (idle : r.state = .idle) :
    ({ r with state := .running, phase := .scheduled } : Run η).Consistent := by
  have unsuccessful : r.state ≠ .succeeded := by rw [idle]; exact RunState.noConfusion
  have notFailed : r.state ≠ .failed := by rw [idle]; exact RunState.noConfusion
  refine ⟨rfl, fun _ => h.empty unsuccessful, RunState.noConfusion, ?_⟩
  exact ⟨fun some => absurd (h.failure.mp some) notFailed, RunState.noConfusion⟩

/-- Asking for the cancellation of a finished run changes nothing. -/
theorem abort_of_isFinished (h : r.Consistent) (finished : r.state.isFinished = true) :
    r.abort.2 = r := by
  rcases h.phase_of_isFinished finished with phase | phase <;>
    simp only [abort, phase]

/-- A run that was not started yet stands at its beginning. -/
theorem Consistent.phase_of_idle (h : r.Consistent) (idle : r.state = .idle) :
    r.phase = .idle := by
  have fits := h.phase
  rw [idle] at fits
  cases phase : r.phase with
  | idle => rfl
  | _ => exact nomatch phase ▸ fits

/-- A run that was started has left its beginning. -/
theorem Consistent.phase_ne_idle (h : r.Consistent) (started : r.state ≠ .idle) :
    r.phase ≠ .idle := by
  intro idle
  have fits := h.phase
  rw [idle] at fits
  exact started fits

/-- Asking for the cancellation of a run that does not run changes nothing. -/
theorem abort_of_ne_running (h : r.Consistent) (still : r.state ≠ .running) : r.abort.2 = r := by
  cases state : r.state with
  | idle => rw [abort, h.phase_of_idle state]
  | running => exact absurd state still
  | succeeded | failed | skipped => exact abort_of_isFinished h (by rw [state]; rfl)

/-- Changing what does not show, to a phase that fits, lets the same be asked of a run. -/
theorem stays_of_view (h : r.Consistent) {r' : Run η} (same : r'.view = r.view)
    (handlers : r'.handlers = r.handlers) (fits : r'.phase.Fits r'.state) : Stays r (r', []) :=
  ⟨same, handlers, rfl, h.of_view same fits⟩

theorem stays_refl (h : r.Consistent) : Stays r (r, []) :=
  stays_of_view h rfl rfl h.phase

/-- The calls among the effects of a notice are those of the handlers for it. -/
theorem filterMap_call?_notifications (r : Run η) (n : Notice) :
    (r.notifications n).filterMap Effect.call? =
      (r.handlers.filter (·.1 == n.occasion)).map fun h => (h.2, n) := by
  simp [notifications, Effect.call?, List.filterMap_map, Function.comp_def]

/-- A success is announced to the handlers for it and then to those for any end. -/
theorem ends_succeed (h : r.Consistent) (running : r.state = .running) (closure : Closure) :
    Ends r (r.succeed closure) where
  running := running
  finished := rfl
  handlers := rfl
  announced := by
    simp [succeed, announcement, notices, filterMap_call?_notifications]
  consistent := by
    refine ⟨rfl, fun unsuccessful => absurd rfl unsuccessful, fun _ => rfl, ?_⟩
    show r.failure.isSome = true ↔ _
    rw [h.failure_eq_none running]
    simp [succeed]

/-- A failure is announced with its reason to the handlers for it and then to those for any end. -/
theorem ends_fail (h : r.Consistent) (running : r.state = .running) (reason : String) :
    Ends r (r.fail reason) where
  running := running
  finished := rfl
  handlers := rfl
  announced := by
    simp [fail, announcement, notices, filterMap_call?_notifications]
  consistent := by
    have unsuccessful : r.state ≠ .succeeded := by rw [running]; exact RunState.noConfusion
    exact ⟨rfl, fun _ => ⟨(h.empty unsuccessful).1, rfl⟩, RunState.noConfusion, by simp [fail]⟩

/-- That a run is skipped is announced to the handlers for any end. -/
theorem ends_of_skipped (h : r.Consistent) (running : r.state = .running) {phase : Phase}
    (fits : phase.Fits .skipped) :
    Ends r ({ r with state := .skipped, phase, warnings := [] }, r.skipEffects) where
  running := running
  finished := rfl
  handlers := rfl
  announced := by
    simp [skipEffects, announcement, notices, filterMap_call?_notifications]
  consistent := by
    have unsuccessful : r.state ≠ .succeeded := by rw [running]; exact RunState.noConfusion
    refine ⟨fits, fun _ => ⟨(h.empty unsuccessful).1, rfl⟩, RunState.noConfusion, ?_⟩
    show r.failure.isSome = true ↔ _
    rw [h.failure_eq_none running]
    simp

theorem ends_skip (h : r.Consistent) (running : r.state = .running) : Ends r r.skip :=
  ends_of_skipped h running rfl

/-- Whatever came of an inquiry ends the run. -/
theorem ends_finish (h : r.Consistent) (running : r.state = .running)
    (outcome : Except Fault Closure) : Ends r (r.finish outcome) := by
  unfold finish
  split
  · exact ends_succeed h running _
  · exact ends_skip h running
  · exact ends_fail h running _
  · exact ends_fail h running _

theorem ends_finishTimed (h : r.Consistent) (running : r.state = .running)
    (outcome : Except Fault Closure) : Ends r (r.finishTimed outcome) := by
  unfold finishTimed
  split
  · split
    · exact ends_fail h running _
    · exact ends_skip h running
  · exact ends_finish h running _

theorem ends_finishDismissed (h : r.Consistent) (running : r.state = .running)
    (cause : Dismissal) (outcome : Except Fault Closure) :
    Ends r (r.finishDismissed cause outcome) := by
  unfold finishDismissed
  split
  · exact ends_skip h running
  · exact ends_fail h running _
  · exact ends_finish h running _

/-- What does not show may be changed before a transition. -/
theorem Stays.of_view {t : Run η × List (Effect η)} {r' : Run η} (stays : Stays r' t)
    (same : r'.view = r.view) (handlers : r'.handlers = r.handlers) : Stays r t :=
  ⟨stays.view.trans same, stays.handlers.trans handlers, stays.silent, stays.consistent⟩

theorem Ends.of_view {t : Run η × List (Effect η)} {r' : Run η} (ends : Ends r' t)
    (same : r'.view = r.view) (handlers : r'.handlers = r.handlers) : Ends r t :=
  ⟨(congrArg RunView.state same).symm.trans ends.running, ends.finished,
    ends.handlers.trans handlers, ends.announced, ends.consistent⟩

/-- Taking the inquiry a step on lets a run stay, or ends it with the inquiry. -/
theorem stays_or_ends_inquire (h : r.Consistent) (f : Inquiry → Inquiry) :
    Stays r (r.inquire f) ∨ Ends r (r.inquire f) := by
  have consistent : ({ r with inquiry := f r.inquiry } : Run η).Consistent :=
    h.of_view rfl h.phase
  rw [inquire]
  dsimp only
  split
  · rename_i inquiring _
    have running := h.state_of_phase inquiring fun _ fits => fits
    exact .inr ((ends_finish consistent running _).of_view rfl rfl)
  · rename_i racing _
    have running := h.state_of_phase racing fun _ fits => fits
    exact .inr ((ends_finishTimed consistent running _).of_view rfl rfl)
  · exact .inl (stays_of_view h rfl rfl h.phase)

/-- Cancelling the inquiry and waiting for its end lets a run stay. -/
theorem stays_dismiss (h : r.Consistent) (running : r.state = .running) (cause : Dismissal) :
    Stays r (r.dismiss cause, []) :=
  stays_of_view h rfl rfl running

/-- A log record in front calls nobody. -/
theorem Stays.log {t : Run η × List (Effect η)} (stays : Stays r t) (level : Level)
    (message : String) : Stays r (t.1, .log level message :: t.2) :=
  ⟨stays.view, stays.handlers, stays.silent, stays.consistent⟩

theorem Ends.log {t : Run η × List (Effect η)} (ends : Ends r t) (level : Level)
    (message : String) : Ends r (t.1, .log level message :: t.2) :=
  ⟨ends.running, ends.finished, ends.handlers, ends.announced, ends.consistent⟩

/-- The first step of the inquiry lets a run stay that carries it out itself, or ends the run. -/
theorem stays_or_ends_beginInquiry (h : r.Consistent) (running : r.state = .running) (phase : Phase)
    (fits : phase.Fits .running) (level : Level) (message : String) :
    let t := ({ r with phase } : Run η).beginInquiry
    Stays r (t.1, .log level message :: t.2) ∨ Ends r (t.1, .log level message :: t.2) := by
  have fits : phase.Fits r.state := running ▸ fits
  have consistent : ({ r with phase } : Run η).Consistent := h.of_view rfl fits
  rcases stays_or_ends_inquire consistent (Inquiry.begin r.scope r.selected) with stays | ends
  · have stays : Stays r _ := stays.of_view rfl rfl
    exact .inl (stays.log level message)
  · have ends : Ends r _ := ends.of_view rfl rfl
    exact .inr (ends.log level message)

/-- The first step lets a run stay unless it comes to the end at once. -/
theorem stays_or_ends_begin (h : r.Consistent) (scheduled : r.phase = .scheduled) :
    Stays r r.begin ∨ Ends r r.begin := by
  have running : r.state = .running := h.state_of_phase scheduled fun _ fits => fits
  rw [begin]
  split
  · exact .inl (stays_of_view h rfl rfl running)
  · cases Deadline.ofTimeout r.timeout with
    | never => exact stays_or_ends_beginInquiry h running .inquiring rfl _ _
    | passed => exact .inl ((stays_dismiss h running .overdue).log _ _)
    | unusable f => exact .inr ((ends_fail h running f.reason).log _ _)
    | imminent | ahead =>
        dsimp only
        split
        · refine .inl (Stays.log (t := ({ r with phase := .watching }, [])) ?_ _ _)
          exact stays_of_view h rfl rfl running
        · exact stays_or_ends_beginInquiry h running .racing rfl _ _

/-- That a deadline passes does not show at once. -/
theorem stays_expire (h : r.Consistent) : Stays r (r.expire, []) := by
  rw [expire]
  split
  · exact stays_of_view h rfl rfl h.phase
  · split
    · exact stays_refl h
    · exact stays_of_view h rfl rfl h.phase
  · exact stays_refl h

/-- A run that wakes goes on waiting or ends. -/
theorem stays_or_ends_wake (h : r.Consistent) : Stays r r.wake ∨ Ends r r.wake := by
  have consistent : ({ r with cancelling := false } : Run η).Consistent :=
    h.of_view rfl h.phase
  rw [wake]
  dsimp only
  split
  · rename_i watching _
    have running := h.state_of_phase watching fun _ fits => fits
    exact .inr ((ends_finish consistent running _).of_view rfl rfl)
  · rename_i watching _
    have running := h.state_of_phase watching fun _ fits => fits
    split
    · exact .inl ((stays_dismiss consistent running .aborted).of_view rfl rfl)
    · split
      · exact .inl ((stays_dismiss consistent running .overdue).of_view rfl rfl)
      · exact .inl (stays_of_view h rfl rfl h.phase)
  · rename_i cause dismissing
    have running := h.state_of_phase dismissing fun _ fits => fits
    split
    · exact .inr ((ends_skip consistent running).of_view rfl rfl)
    · split
      · exact .inr ((ends_finishDismissed consistent running cause _).of_view rfl rfl)
      · exact .inl (stays_of_view h rfl rfl h.phase)
  · exact .inl (stays_of_view h rfl rfl h.phase)

/-- The end of a run that was cancelled before its first step is announced like any other. -/
theorem stays_or_ends_conclude (h : r.Consistent) : Stays r r.conclude ∨ Ends r r.conclude := by
  rw [conclude]
  split
  · rename_i dropped
    have running := h.state_of_phase dropped fun _ fits => fits
    exact .inr (ends_of_skipped h running rfl)
  · exact .inl (stays_refl h)

/-- Asking for a cancellation does not show at once. -/
theorem stays_abort (h : r.Consistent) : Stays r (r.abort.2, []) := by
  rw [abort]
  split
  case h_5 => exact stays_of_view h rfl rfl h.phase
  case h_6 => exact stays_of_view h rfl rfl h.phase
  case h_7 => exact stays_of_view h rfl rfl h.phase
  all_goals exact stays_refl h

/-- Leaving the last step behind does not show. -/
theorem consistent_close (h : r.Consistent) :
    r.close.view = r.view ∧ r.close.handlers = r.handlers ∧ r.close.Consistent := by
  rw [close]
  split
  · rename_i closing
    have finished : r.state.isFinished = true := by
      have fits := h.phase
      rw [closing] at fits
      exact fits
    exact ⟨rfl, rfl, h.of_view rfl finished⟩
  · exact ⟨rfl, rfl, h⟩

/-- Asking for a cancellation leaves the inquiry where it stands. -/
theorem phase_inquiry_abort (r : Run η) : r.abort.2.inquiry.phase = r.inquiry.phase := by
  unfold abort
  split <;> simp only [Inquiry.phase_cancel]

/-- So does a deadline that passes. -/
theorem phase_inquiry_expire (r : Run η) : r.expire.inquiry.phase = r.inquiry.phase := by
  unfold expire
  split
  · rfl
  · split
    · rfl
    · exact Inquiry.phase_cancel _
  · rfl

theorem inquiry_close (r : Run η) : r.close.inquiry = r.inquiry := by
  unfold close
  split <;> rfl

/-- What the first step makes of a run. -/
inductive Begins (r : Run η) : Run η → Prop
  | drops (cancelling : r.cancelling = true) : Begins r { r with phase := .dropped }
  | inquires (phase : Phase) (asking : phase = .inquiring ∨ phase = .racing)
      (within : r.timeout = .null ∨ r.conduct = .within) :
      Begins r ({ r with phase } : Run η).beginInquiry.1
  | watches (bounded : r.timeout ≠ .null) (apart : r.conduct = .apart) :
      Begins r { r with phase := .watching }
  | dismisses (passed : Deadline.ofTimeout r.timeout = .passed) : Begins r (r.dismiss .overdue)
  | fails (f : Fault) : Begins r (r.fail f.reason).1

theorem begins_begin (r : Run η) : Begins r r.begin.1 := by
  have bounded {d : Deadline} (deadline : Deadline.ofTimeout r.timeout = d) (other : d ≠ .never) :
      r.timeout ≠ .null := by
    intro null
    rw [null] at deadline
    exact other deadline.symm
  rw [begin]
  split
  · exact .drops ‹_›
  · cases deadline : Deadline.ofTimeout r.timeout with
    | never =>
        exact .inquires .inquiring (.inl rfl) (.inl (Deadline.ofTimeout_eq_never.mp deadline))
    | passed => exact .dismisses deadline
    | unusable f => exact .fails f
    | imminent | ahead =>
        dsimp only
        split
        · exact .watches (bounded deadline Deadline.noConfusion) ‹_›
        · exact .inquires .racing (.inr rfl) (.inr ‹_›)

/-- What waking makes of a run. -/
inductive Wakes (r : Run η) : Run η → Prop
  | hears {outcome : Except Fault Closure} (watching : r.phase = .watching)
      (ended : r.inquiry.outcome? = some outcome) :
      Wakes r (({ r with cancelling := false } : Run η).finish outcome).1
  | dismisses (cause : Dismissal) (watching : r.phase = .watching)
      (aborted : cause = .aborted ↔ r.cancelling = true) :
      Wakes r (({ r with cancelling := false } : Run η).dismiss cause)
  | skips {cause : Dismissal} (dismissing : r.phase = .dismissing cause)
      (cancelling : r.cancelling = true) :
      Wakes r ({ r with cancelling := false } : Run η).skip.1
  | ends {cause : Dismissal} {outcome : Except Fault Closure}
      (dismissing : r.phase = .dismissing cause) (uncalled : r.cancelling = false)
      (ended : r.inquiry.outcome? = some outcome) :
      Wakes r (({ r with cancelling := false } : Run η).finishDismissed cause outcome).1
  | waits (quiet : r.phase.isWaiting = true → r.cancelling = false) :
      Wakes r { r with cancelling := false }

theorem wakes_wake (r : Run η) : Wakes r r.wake.1 := by
  rw [wake]
  dsimp only
  split
  · exact .hears ‹_› ‹_›
  · rename_i watching _
    cases cancelling : r.cancelling with
    | true => exact .dismisses .aborted watching (by simp [cancelling])
    | false =>
        rw [if_neg Bool.false_ne_true]
        split
        · exact .dismisses .overdue watching (by simp [cancelling])
        · exact .waits fun _ => cancelling
  · rename_i dismissing
    cases cancelling : r.cancelling with
    | true => exact .skips dismissing cancelling
    | false =>
        rw [if_neg Bool.false_ne_true]
        split
        · exact .ends dismissing cancelling ‹_›
        · exact .waits fun _ => cancelling
  · rename_i notDismissing notEnded notWaiting
    refine .waits fun waiting => ?_
    cases phase : r.phase with
    | watching =>
        cases outcome : r.inquiry.outcome? with
        | none => exact (notWaiting phase outcome).elim
        | some outcome => exact (notEnded _ phase outcome).elim
    | dismissing cause => exact (notDismissing cause phase).elim
    | idle | scheduled | inquiring | racing | closing | dropped | done =>
        rw [phase] at waiting
        exact absurd waiting Bool.false_ne_true

end Run

/-- A step that a run takes by itself or on an answer. -/
inductive RunMove
  /-- The first step of a run that was started. -/
  | begin
  | beginInquiry
  | answerPack (intercepted : Bool) (answer : Except Fault (Option Pack))
  | answerVersion (intercepted : Bool) (answer : Except Fault (Option Held))
  | expire
  | wake
  | conclude

namespace RunMove

variable {η : Type}

/-- The transition of a run that a step is. -/
def apply : RunMove → Run η → Run η × List (Effect η)
  | .begin, r => if r.phase = .scheduled then r.begin else (r, [])
  | .beginInquiry, r => r.beginInquiry
  | .answerPack intercepted answer, r => r.inquire (Inquiry.answerPack intercepted answer)
  | .answerVersion intercepted answer, r =>
    r.inquire (Inquiry.answerVersion r.scope intercepted answer)
  | .expire, r => (r.expire, [])
  | .wake, r => r.wake
  | .conclude, r => r.conclude

/-- A step lets a run stay or ends it. -/
theorem stays_or_ends {r : Run η} (h : r.Consistent) (m : RunMove) :
    Run.Stays r (m.apply r) ∨ Run.Ends r (m.apply r) := by
  cases m with
  | begin =>
      by_cases scheduled : r.phase = .scheduled
      · rw [apply, if_pos scheduled]
        exact Run.stays_or_ends_begin h scheduled
      · rw [apply, if_neg scheduled]
        exact .inl (Run.stays_refl h)
  | beginInquiry => exact Run.stays_or_ends_inquire h _
  | answerPack intercepted answer => exact Run.stays_or_ends_inquire h _
  | answerVersion intercepted answer => exact Run.stays_or_ends_inquire h _
  | expire => exact .inl (Run.stays_expire h)
  | wake => exact Run.stays_or_ends_wake h
  | conclude => exact Run.stays_or_ends_conclude h

end RunMove

end AddonPicker
