import AddonPicker.Log.Level
import AddonPicker.Resolution.Inquiry
import AddonPicker.Value.Order

/-!
# Resolution runs

A run brings one search from its start to a terminal state. It can be aborted at any moment, and it
may have a deadline. The run itself is a pure machine: each event takes it to its next state and
yields the effects that its owner performs in order, log records and calls of handlers.

The state moves from idle to running and from there to exactly one of succeeded, failed and
skipped. A run without a timeout carries out its inquiry itself, so that an abort is a cancellation
of the inquiry. What a run with a timeout does is up to the runtime. It may carry out the inquiry
itself as well. Then a deadline that passes is a cancellation of the inquiry too, and the run
reports an inquiry that was cancelled for the deadline alone as timed out. Or it leaves the inquiry
to itself and watches it:

* An abort wakes the run. An inquiry that has ended by then has the last word; any other is
  dismissed, and the run is skipped when the inquiry has ended, whatever came of it.
* A deadline that passes wakes the run as well. The inquiry is dismissed, and its outcome counts
  unless it was cancelled, which is what the run then reports as timed out.
* A second abort, while the run waits for a dismissed inquiry, skips the run at once. The inquiry
  lives on without anyone to hear of its outcome.

Before its first step an aborted run never begins.
-/

namespace AddonPicker

/-- The public state of a run. -/
inductive RunState
  | idle
  | running
  | succeeded
  | failed
  | skipped
deriving DecidableEq, Repr, Inhabited

namespace RunState

/-- Whether a state is terminal. -/
def isFinished : RunState → Bool
  | .idle => false
  | .running => false
  | .succeeded => true
  | .failed => true
  | .skipped => true

/-- The word for a state. -/
def word : RunState → String
  | .idle => "idle"
  | .running => "running"
  | .succeeded => "succeeded"
  | .failed => "failed"
  | .skipped => "skipped"

end RunState

/-- What a handler can be registered for. -/
inductive Occasion
  | succeeded
  | failed
  | finished
deriving DecidableEq, Repr, Inhabited

/-- The word for an occasion. -/
def Occasion.word : Occasion → String
  | .succeeded => "succeeded"
  | .failed => "failed"
  | .finished => "finished"

/-- What a handler is told. -/
inductive Notice
  | succeeded
  | failed (reason : String)
  | finished
deriving DecidableEq, Repr, Inhabited

namespace Notice

/-- The occasion of a notice. -/
def occasion : Notice → Occasion
  | .succeeded => .succeeded
  | .failed _ => .failed
  | .finished => .finished

/-- The reason that a notice carries. -/
def reason? : Notice → Option String
  | .failed reason => some reason
  | _ => none

end Notice

/-- What the owner of a run has to do after a transition. -/
inductive Effect (η : Type)
  | log (level : Level) (message : String)
  | notify (handler : η) (notice : Notice)
deriving Repr

/-- What a timeout means for a run that begins. -/
inductive Deadline
  | never
  /-- It passed before the inquiry could take its first step. -/
  | passed
  /-- It passes once the inquiry has taken its first step. -/
  | imminent
  | ahead
  | unusable (fault : Fault)
deriving Repr

namespace Deadline

/-- The deadline of a timeout in seconds. A timeout of zero or less has passed from the start, and
no time is left of one that is no number. -/
def ofTimeout : Value → Deadline
  | .null => .never
  | v =>
    match v.isNonPositive with
    | .error f => .unusable f
    | .ok true => .passed
    | .ok false =>
      match v with
      | .int i => if Binary64.ofInt i = .infinite false then .unusable .hugeTimeSpan else .ahead
      | .float .nan => .imminent
      | _ => .ahead

end Deadline

/-- How a run with a timeout goes about its inquiry, which is up to the runtime. -/
inductive Conduct
  /-- The inquiry goes on by itself, and the run watches it. -/
  | apart
  /-- The run carries out the inquiry itself, and the deadline cancels it. -/
  | within
deriving DecidableEq, Repr, Inhabited

/-- Why an inquiry was dismissed. -/
inductive Dismissal
  | aborted
  | overdue
deriving DecidableEq, Repr

/-- Where a run stands. -/
inductive Phase
  | idle
  /-- Started, and the first step is still to come. -/
  | scheduled
  /-- Carrying out the inquiry. -/
  | inquiring
  /-- Carrying out the inquiry against a deadline. -/
  | racing
  /-- Watching the inquiry, which goes on by itself. -/
  | watching
  /-- Waiting for the end of an inquiry that was cancelled. -/
  | dismissing (cause : Dismissal)
  /-- In a terminal state that is being announced by the run's own last step. -/
  | closing
  /-- Cancelled before the first step; nothing is announced yet. -/
  | dropped
  | done
deriving DecidableEq, Repr

namespace Phase

/-- Whether a run waits for an inquiry that goes on by itself. -/
def isWaiting : Phase → Bool
  | .watching => true
  | .dismissing _ => true
  | _ => false

/-- Whether a run has taken its last step. -/
def isOver : Phase → Bool
  | .dropped => true
  | .done => true
  | _ => false

end Phase

/-- A resolution run with handlers of type `η`. -/
structure Run (η : Type) where
  selected : List Choice
  scope : Scope
  timeout : Value := .null
  conduct : Conduct := .apart
  phase : Phase := .idle
  state : RunState := .idle
  inquiry : Inquiry := {}
  /-- A cancellation has been asked for and has not reached the run yet. -/
  cancelling : Bool := false
  /-- The deadline passed while the inquiry went on. -/
  overdue : Bool := false
  closure : Closure := {}
  warnings : List String := []
  failure : Option String := none
  handlers : List (Occasion × η) := []

namespace Run

variable {η : Type}

/-- The choices that a run hands out, which is none unless it succeeded. -/
def dependencies (r : Run η) : List Choice :=
  if r.state = .succeeded then r.closure.dependencies else []

theorem dependencies_of_state_ne {r : Run η} (h : r.state ≠ .succeeded) : r.dependencies = [] :=
  if_neg h

/-- Register a handler. -/
def on (occasion : Occasion) (h : η) (r : Run η) : Run η :=
  { r with handlers := r.handlers ++ [(occasion, h)] }

/-- The calls of the handlers for a notice, in the order of registration. -/
def notifications (r : Run η) (n : Notice) : List (Effect η) :=
  (r.handlers.filter (·.1 == n.occasion)).map fun h => .notify h.2 n

/-- Start a run. A run can be started once. -/
def start (r : Run η) : Except Fault (Run η) :=
  if r.state = .idle then .ok { r with state := .running, phase := .scheduled }
  else .error .alreadyStarted

/-- Ask for the cancellation of a run. The answer says whether there was something to cancel; a
run that is announcing its end counts, although the end stays what it is. -/
def abort (r : Run η) : Bool × Run η :=
  match r.phase with
  | .idle => (false, r)
  | .dropped => (false, r)
  | .done => (false, r)
  | .closing => (true, r)
  | .inquiring => (true, { r with inquiry := r.inquiry.cancel })
  | .racing => (true, { r with cancelling := true, inquiry := r.inquiry.cancel })
  | _ => (true, { r with cancelling := true })

/-- Asking for a cancellation changes nothing that can be seen of the run. -/
theorem abort_snd_eq (r : Run η) :
    r.abort.2.state = r.state ∧ r.abort.2.closure = r.closure ∧
      r.abort.2.warnings = r.warnings ∧ r.abort.2.failure = r.failure := by
  unfold abort
  split <;> exact ⟨rfl, rfl, rfl, rfl⟩

/-- End with a success. -/
def succeed (closure : Closure) (r : Run η) : Run η × List (Effect η) :=
  let found := toString closure.dependencies.length
  let warned := toString closure.warnings.length
  ({ r with state := .succeeded, phase := .closing, closure, warnings := closure.warnings },
    [.log .info ("Found " ++ found ++ " dependencies with " ++ warned ++ " warnings")] ++
      r.notifications .succeeded ++ r.notifications .finished)

/-- End with a failure. -/
def fail (reason : String) (r : Run η) : Run η × List (Effect η) :=
  ({ r with state := .failed, phase := .closing, failure := some reason, warnings := [] },
    [.log .error ("Dependency resolution failed: " ++ reason)] ++
      r.notifications (.failed reason) ++ r.notifications .finished)

/-- What is announced about a run that was skipped. -/
def skipEffects (r : Run η) : List (Effect η) :=
  [.log .info "Dependency resolution skipped"] ++ r.notifications .finished

/-- End without a result. -/
def skip (r : Run η) : Run η × List (Effect η) :=
  ({ r with state := .skipped, phase := .closing, warnings := [] }, r.skipEffects)

/-- The reason of a run whose deadline passed. -/
def timeoutReason (r : Run η) : String :=
  "Timed out after " ++ r.timeout.text ++ " seconds while checking for dependencies"

/-- End with the outcome of the inquiry. A cancellation is no failure. What gave up waiting is taken
for the deadline. -/
def finish (outcome : Except Fault Closure) (r : Run η) : Run η × List (Effect η) :=
  match outcome with
  | .ok closure => r.succeed closure
  | .error .cancelled => r.skip
  | .error (.timedOut _) => r.fail r.timeoutReason
  | .error f => r.fail f.reason

theorem isFinished_finish (outcome : Except Fault Closure) (r : Run η) :
    (r.finish outcome).1.state.isFinished = true := by
  unfold finish
  split <;> rfl

/-- End with the outcome of an inquiry that was dismissed. -/
def finishDismissed (cause : Dismissal) (outcome : Except Fault Closure) (r : Run η) :
    Run η × List (Effect η) :=
  match cause, outcome with
  | .aborted, _ => r.skip
  | .overdue, .error .cancelled => r.fail r.timeoutReason
  | .overdue, outcome => r.finish outcome

theorem isFinished_finishDismissed (cause : Dismissal) (outcome : Except Fault Closure)
    (r : Run η) : (r.finishDismissed cause outcome).1.state.isFinished = true := by
  unfold finishDismissed
  split
  · rfl
  · rfl
  · exact isFinished_finish ..

/-- End with the outcome of an inquiry that was carried out against a deadline. A cancellation is
a failure if the deadline alone asked for it. -/
def finishTimed (outcome : Except Fault Closure) (r : Run η) : Run η × List (Effect η) :=
  match outcome with
  | .error .cancelled => if r.overdue && !r.cancelling then r.fail r.timeoutReason else r.skip
  | outcome => r.finish outcome

theorem isFinished_finishTimed (outcome : Except Fault Closure) (r : Run η) :
    (r.finishTimed outcome).1.state.isFinished = true := by
  unfold finishTimed
  split
  · split <;> rfl
  · exact isFinished_finish ..

/-- Take the inquiry a step on. A run that carries it out itself ends with it. -/
def inquire (f : Inquiry → Inquiry) (r : Run η) : Run η × List (Effect η) :=
  let r := { r with inquiry := f r.inquiry }
  match r.phase, r.inquiry.outcome? with
  | .inquiring, some outcome => r.finish outcome
  | .racing, some outcome => r.finishTimed outcome
  | _, _ => (r, [])

/-- Take the first step of the inquiry. -/
def beginInquiry (r : Run η) : Run η × List (Effect η) :=
  r.inquire (Inquiry.begin r.scope r.selected)

/-- Cancel the inquiry and wait for its end. -/
def dismiss (cause : Dismissal) (r : Run η) : Run η :=
  { r with phase := .dismissing cause, inquiry := r.inquiry.cancel }

/-- Take the first step. -/
def begin (r : Run η) : Run η × List (Effect η) :=
  if r.cancelling then ({ r with phase := .dropped }, [])
  else
    let heading : Effect η :=
      .log .info ("Checking dependencies of " ++ toString r.selected.length ++ " selected mods")
    let (r, effects) := match Deadline.ofTimeout r.timeout with
      | .never => { r with phase := .inquiring }.beginInquiry
      | .passed => (r.dismiss .overdue, [])
      | .unusable f => r.fail f.reason
      | _ =>
        match r.conduct with
        | .apart => ({ r with phase := .watching }, [])
        | .within => { r with phase := .racing }.beginInquiry
    (r, heading :: effects)

/-- Let the deadline pass, which matters only while the inquiry goes on under it. A deadline
passes once. -/
def expire (r : Run η) : Run η :=
  match r.phase with
  | .watching => { r with overdue := true }
  | .racing => if r.overdue then r else { r with overdue := true, inquiry := r.inquiry.cancel }
  | _ => r

/-- Whether a run waits for an inquiry that has ended. -/
def hasNews (r : Run η) : Bool :=
  r.phase.isWaiting && r.inquiry.outcome?.isSome

/-- Whether a run waits while a cancellation is on its way. -/
def isCalledOff (r : Run η) : Bool :=
  r.phase.isWaiting && r.cancelling

/-- Go on after waiting for an inquiry that goes on by itself. -/
def wake (r : Run η) : Run η × List (Effect η) :=
  let aborted := r.cancelling
  let r := { r with cancelling := false }
  match r.phase, r.inquiry.outcome? with
  | .watching, some outcome => r.finish outcome
  | .watching, none =>
    if aborted then (r.dismiss .aborted, [])
    else if r.overdue then (r.dismiss .overdue, [])
    else (r, [])
  | .dismissing cause, outcome =>
    if aborted then r.skip
    else
      match outcome with
      | some outcome => r.finishDismissed cause outcome
      | none => (r, [])
  | _, _ => (r, [])

/-- Leave the last step behind. -/
def close (r : Run η) : Run η :=
  match r.phase with
  | .closing => { r with phase := .done }
  | _ => r

/-- Announce the end of a run that was cancelled before its first step. -/
def conclude (r : Run η) : Run η × List (Effect η) :=
  match r.phase with
  | .dropped => ({ r with state := .skipped, phase := .done, warnings := [] }, r.skipEffects)
  | _ => (r, [])

end Run

end AddonPicker
