import AddonPicker.Act
import AddonPicker.Resolution.Run

/-!
# Owners of runs

A state that owns resolution runs performs the effects of their transitions: it logs, and it calls
the handlers. A handler that fails does not keep the later ones from being called.
-/

namespace AddonPicker

/-- States that own runs with handlers of type `η`. Runs are told apart by position. -/
class Owner (σ : Type) (η : outParam Type) extends Journaled σ where
  runs : σ → List (Run η)
  setRuns : List (Run η) → σ → σ

namespace Owner

variable {σ η : Type} [Owner σ η]

/-- The run at a position. -/
def run? (s : σ) (i : Nat) : Option (Run η) :=
  (runs s)[i]?

/-- Replace the run at a position. -/
def setRun (i : Nat) (r : Run η) : Act σ Unit :=
  modify fun s => setRuns ((runs s).set i r) s

/-- Take in a new run and yield its position. -/
def adopt (r : Run η) : Act σ Nat := do
  let rs := runs (← get)
  modify (setRuns (rs ++ [r]))
  return rs.length

/-- Start the run at a position. -/
def start (i : Nat) : Act σ Unit := do
  match run? (← get) i with
  | none => pure ()
  | some r => setRun i (← Act.check r.start)

/-- Ask for the cancellation of the run at a position. -/
def abort (i : Nat) : Act σ Bool := do
  match run? (← get) i with
  | none => return false
  | some r =>
    let (answer, r) := r.abort
    if answer then
      Journaled.say .info "Aborting dependency resolution"
    setRun i r
    return answer

/-- Fail unless the run at a position was started, as waiting for it does. -/
def requireStarted (i : Nat) : Act σ Unit := do
  match run? (← get) i with
  | some r => if r.state = .idle then throw .notStarted
  | none => throw .notStarted

end Owner

/-- Owners that also answer for the handlers. -/
class Host (σ : Type) (η : outParam Type) extends Owner σ η where
  /-- Call a handler of the run at a position. -/
  invoke : Nat → η → Notice → Act σ Unit
  /-- How a message shows a handler. -/
  handlerText : η → String

namespace Host

variable {σ η : Type} [Host σ η]

/-- Perform effects in order. A handler that fails is logged; a cancellation that escapes from one
ends the announcement. -/
def perform (i : Nat) : List (Effect η) → Act σ Unit
  | [] => pure ()
  | .log level message :: later => do
    Journaled.say level message
    perform i later
  | .notify handler notice :: later => do
    match ← Act.outcome (invoke i handler notice : Act σ Unit) with
    | .ok () => perform i later
    | .error .cancelled => pure ()
    | .error f =>
      Journaled.say .error ("Dependency resolution handler " ++ handlerText σ handler ++
        " failed: " ++ f.message)
      perform i later

/-- Take the run at a position through a transition, and leave the step that announced its end. -/
def transition (i : Nat) (f : Run η → Run η × List (Effect η)) : Act σ Unit := do
  match Owner.run? (← get) i with
  | none => pure ()
  | some r =>
    let (r, effects) := f r
    Owner.setRun i r
    perform i effects
    modify fun s => Owner.setRuns ((Owner.runs s).modify i Run.close) s

end Host

end AddonPicker
