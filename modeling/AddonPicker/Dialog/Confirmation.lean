import AddonPicker.Dialog.Session

/-!
# Confirming a selection

Check dependencies, merge what was found, let the user review the selection, commit it. The
workflow waits in several places, so it is a machine over stages: `Session.resume` takes one
confirmation from where it stands to the next place at which it waits, or to its end.

One confirmation at a time is under way. A second request meanwhile is turned down at once and
touches nothing, and every way out of a confirmation lets the next one in.
-/

namespace AddonPicker

/-- How a piece of the workflow ends: it waits, or the whole workflow has a result. -/
inductive Step
  | waits (stage : Stage)
  | returns (accepted : Bool)
deriving Repr

/-- How a stretch of a progress surface ends. -/
inductive SurfaceStep
  | waits (wait : SurfaceWait) (later : List SurfaceMove)
  | closed (result : Bool)
deriving Repr

namespace Session

/-- The state of the run at a position. -/
def runState (s : Session) (i : Nat) : RunState :=
  match s.runs[i]? with
  | some r => r.state
  | none => .idle

/-- The choices that the run at a position hands out. -/
def runDependencies (s : Session) (i : Nat) : List Choice :=
  match s.runs[i]? with
  | some r => r.dependencies
  | none => []

/-- The backlinks of the entry that a choice replaces. -/
def inherited (s : Session) (c : Choice) : List AddonId :=
  match s.selection.get? c.pack.name with
  | some e => s.selection.store.requiredBy e.version
  | none => []

/-- Select one resolved choice, with the very version that it holds. It replaces whatever has the
name, and takes over the backlinks of that. -/
def mergeOne (c : Choice) : Act Session Unit := do
  let ids := (← get).inherited c
  let (id, store) := (← get).selection.store.take c.toHeld
  onSelection (modify fun sel => { sel with store := store.linkAll id ids })
  let _ ← add c.pack id (.bool true)

/-- Select resolved choices in order. -/
def merge (cs : List Choice) : Act Session Unit :=
  cs.forM mergeOne

/-- Make one move of a user in a review. -/
def reviewMove (box : ReviewBox) : ReviewMove → Act Session ReviewBox
  | .untick position => return box.untick position
  | .setEnabled name enabled => Act.check (box.setEnabled name enabled)
  | .remove pack version => do
    remove pack version
    return box
  | .add pack version => do
    let _ ← add pack version (.bool false)
    return box

/-- Commit a reviewed selection: drop what is not ticked and close the dialog. -/
def commit (box : ReviewBox) : Act Session Unit := do
  let dropped := box.deselected
  dropped.forM fun name => onSelection (Selection.removeByName name)
  let s ← get
  Journaled.say .info
    ("Confirmed " ++ toString s.selection.entries.length ++ " " ++ s.type.kind.plural ++ ", " ++
      toString dropped.length ++ " deselected during review")
  accept

/-- Go through a review to its answer. -/
def finishReview (box : ReviewBox) (plan : ReviewPlan) : Act Session Step := do
  let box ← plan.moves.foldlM reviewMove box
  if plan.approves then
    commit box
    return .returns true
  else return .returns false

/-- The empty review box of a dialog. -/
def emptyBox (s : Session) : ReviewBox where
  title := .str ("Confirm " ++ s.type.kind.plural ++ " to download")
  resources := .str s.type.kind.plural

/-- Present the selection for review. -/
def openReview : Act Session Step := do
  let s ← get
  let (built, box) := s.selection.review s.naming s.emptyBox
  Act.check built
  let plan := s.reviewPlan s.reviews
  modify fun s => { s with reviews := s.reviews + 1 }
  callUi (.execReview box)
  if plan.waits then return .waits (.reviewing box plan)
  else finishReview box plan

/-- Go on when the run has ended. -/
def afterCheck (i : Nat) : Act Session Step := do
  if (← get).runState i = .skipped then
    Journaled.say .info "Dependency check aborted, closing the dialog"
    reject
    return .returns false
  else
    merge ((← get).runDependencies i)
    openReview

/-- Go on when the progress surface has gone away. A run that is still under way is aborted. -/
def afterSurface (i : Nat) : Act Session Step := do
  if ((← get).runState i).isFinished then afterCheck i
  else
    let _ ← Owner.abort i
    Owner.requireStarted i
    return .waits (.settling i)

/-- Take the run down with a cancelled confirmation. -/
def abandon (i : Nat) : Act Session Step := do
  let _ ← Owner.abort i
  Owner.requireStarted i
  return .waits (.abandoning i)

/-- Make the moves of a progress surface up to the first wait. -/
def surfaceMoves (i : Nat) : List SurfaceMove → Act Session SurfaceStep
  | [] => return .closed false
  | .start :: later => do
    Owner.start i
    surfaceMoves i later
  | .startIfIdle :: later => do
    if (← get).runState i = .idle then
      Owner.start i
    surfaceMoves i later
  | .abort shown :: later => do
    let answer ← Owner.abort i
    if shown then
      Journaled.note (.surfaceAborted answer)
    surfaceMoves i later
  | .pause :: later => return .waits .quiet later
  | .await :: later => do
    Owner.requireStarted i
    return .waits .runEnd later
  | .close result :: _ => return .closed result
  | .closeByOutcome :: _ => return .closed ((← get).runState i == .succeeded)
  | .fail f :: _ => throw f

/-- Go on inside the progress surface. -/
def inSurface (i : Nat) (moves : List SurfaceMove) : Act Session Step := do
  match ← Act.outcome (surfaceMoves i moves) with
  | .ok (.waits wait later) => return .waits (.surface i wait later)
  | .ok (.closed result) =>
    if (← get).surface.noted then
      Journaled.note (.surfaceClosed result)
    afterSurface i
  | .error .cancelled => abandon i
  | .error f => throw f

/-- Begin the workflow. -/
def beginConfirm : Act Session Step := do
  match (← get).newRun? with
  | none => openReview
  | some run =>
    let i ← Owner.adopt ((run.on .failed .showError).on .succeeded .showWarnings)
    let surface := (← get).surface
    Act.failOn surface.creation
    if surface.noted then
      Journaled.note (.surfaceShown "Checking for dependencies..." true "Abort")
    inSurface i surface.moves

/-- Go on from a stage at which the workflow waited. A cancellation that is on its way arrives
now. -/
def continueConfirm (cancelled : Bool) : Stage → Act Session Step
  | .scheduled => beginConfirm
  | .surface i _ later => if cancelled then abandon i else inSurface i later
  | .abandoning _ => throw .cancelled
  | .settling i => if cancelled then throw .cancelled else afterCheck i
  | .reviewing box plan => if cancelled then throw .cancelled else finishReview box plan
  | .ended _ => throw .cancelled

/-- Put a confirmation at a stage. -/
def setStage (c : Nat) (stage : Stage) (s : Session) : Session :=
  { s with confirmations := s.confirmations.set c { stage } }

/-- End a confirmation that was under way. -/
def endConfirm (c : Nat) (v : Verdict) (s : Session) : Session :=
  { s.setStage c (.ended v) with confirming := false }

/-- Take over what a piece of the workflow came to. -/
def settle (c : Nat) (result : Except Fault Step) (s : Session) : Session :=
  match result with
  | .ok (.waits stage) => s.setStage c stage
  | .ok (.returns accepted) => s.endConfirm c (.returned accepted)
  | .error .cancelled => s.endConfirm c .cancelled
  | .error f => s.endConfirm c (.failed f)

/-- Turn a request down because another one is under way. -/
def turnDown (c : Nat) (s : Session) : Session :=
  let said : Act Session Unit :=
    Journaled.say .warning "Confirm requested while a confirmation is in progress"
  (said.perform s).2.setStage c (.ended (.returned false))

/-- Go on with a confirmation from the stage at which it stands. -/
def resume (c : Nat) (s : Session) : Session :=
  match s.confirmations[c]? with
  | none => s
  | some { stage := .ended _, .. } => s
  | some { stage := .scheduled, cancelling } =>
    if cancelling then s.setStage c (.ended .cancelled)
    else if s.confirming then s.turnDown c
    else
      let (result, s) := beginConfirm.perform { s with confirming := true }
      s.settle c result
  | some { stage, cancelling } =>
    let (result, s) := (continueConfirm cancelling stage).perform s
    s.settle c result

/-- Request a confirmation. It begins when it is first resumed. -/
def request (s : Session) : Nat × Session :=
  (s.confirmations.length, { s with confirmations := s.confirmations ++ [{}] })

/-- Ask for the cancellation of a confirmation. The answer says whether it was still under way. -/
def cancel (c : Nat) (s : Session) : Bool × Session :=
  match s.confirmations[c]? with
  | none => (false, s)
  | some { stage := .ended _, .. } => (false, s)
  | some confirmation =>
    (true, { s with
      confirmations := s.confirmations.set c { confirmation with cancelling := true } })

end Session

end AddonPicker
