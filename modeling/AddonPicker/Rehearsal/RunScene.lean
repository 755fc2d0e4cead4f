import AddonPicker.Rehearsal.Agenda
import AddonPicker.Rehearsal.Report

/-!
# Rehearsing one run

A single resolution run with handlers that note what they see, against scripted services.
-/

namespace AddonPicker.Rehearsal

/-- A handler that notes what it is told and what it sees of the run. It may then ask for an
abort, and it may then fail. -/
structure NotingHandler where
  label : Value
  aborts : Bool := false
  fault : Option Fault := none

/-- A run and the journal of what happened around it. -/
structure Solo where
  runs : List (Run NotingHandler)
  journal : Journal

instance : Journaled Solo where
  journal := Solo.journal
  setJournal j s := { s with journal := j }

instance : Owner Solo NotingHandler where
  runs := Solo.runs
  setRuns rs s := { s with runs := rs }

namespace Solo

/-- Call a handler. -/
def invoke (i : Nat) (h : NotingHandler) (n : Notice) : Act Solo Unit := do
  if let some r := Owner.run? (← get) i then
    Journaled.note (.announced h.label n r.state r.dependencies.length r.warnings)
  if h.aborts then
    let answer ← Owner.abort i
    Journaled.note (.handlerAborted h.label answer)
  Act.failOn h.fault

end Solo

instance : Host Solo NotingHandler where
  invoke := Solo.invoke
  handlerText h := "<handler " ++ h.label.text ++ ">"

instance : Stageable Solo NotingHandler where
  waiting _ := []
  pausing _ := []
  reviewing _ := []
  due _ := []
  resume _ s := s

/-- One step with a run. -/
inductive RunStep
  | on (occasion : Occasion) (handler : NotingHandler)
  | start
  | settle
  | wait
  /-- Start the run if it is idle and wait for it. -/
  | exec
  | abort
  | openGate (provider : Provider) (id : Value)
  | dependencies
  | result

/-- The agenda of a single run. -/
abbrev RunScene := Agenda Solo

namespace RunScene

/-- The run. -/
def run? (a : RunScene) : Option (Run NotingHandler) :=
  Owner.run? a.host 0

/-- The state of the run. -/
def state (a : RunScene) : RunState :=
  match a.run? with
  | some r => r.state
  | none => .idle

/-- The report of a choice, with the name that its version has in the pool. -/
def reportChoice (pool : Pool) (c : Choice) : Value :=
  .dict [("pack", Record.describe c.pack), ("version", Record.describe c.version),
    ("ref", .ofText? (c.shared.bind pool.ref?))]

/-- Perform an action on the run and what is around it. -/
def attempt {α : Type} (f : Act Solo α) (a : RunScene) : Except Fault α × RunScene :=
  let (r, host) := f.perform a.host
  (r, { a with host })

/-- Wait until the run has ended. -/
def await (a : RunScene) : RunScene :=
  a.waitFor fun s => s.runs.all fun r => r.state.isFinished

/-- Take one step and yield its result. -/
def step (pool : Pool) (st : RunStep) (a : RunScene) : Except Fault Value × RunScene :=
  match st with
  | .on occasion handler =>
    (.ok .null, { a with host := { a.host with runs := a.host.runs.map (·.on occasion handler) } })
  | .start =>
    let (r, a) := a.attempt (Owner.start 0)
    (r.map fun _ => .bool true, a)
  | .settle => (.ok .null, a.settle)
  | .wait =>
    let (r, a) := a.attempt (Owner.requireStarted 0)
    match r with
    | .error f => (.error f, a)
    | .ok () =>
      let a := RunScene.await a
      (.ok (.str (state a).word), a)
  | .exec =>
    let started := if state a = .idle then (a.attempt (Owner.start 0)).2 else a
    let a := RunScene.await started
    (.ok (.bool (state a == .succeeded)), a)
  | .abort =>
    let (r, a) := a.attempt (Owner.abort 0)
    -- What the abort wakes is due from here on, ahead of what later steps call for.
    (r.map .bool, Agenda.sync a)
  | .openGate provider id => (.ok .null, a.openGate provider id)
  | .dependencies =>
    let cs := (a.run?.map Run.dependencies).getD []
    (.ok (.list (cs.map (reportChoice pool))), a)
  | .result =>
    let closure := (a.run?.map Run.closure).getD {}
    (.ok (.dict [("dependencies", .list (closure.dependencies.map (reportChoice pool))),
      ("warnings", .strings closure.warnings)]), a)

/-- Take one step and yield its outcome with what happened in it. -/
def play (pool : Pool) (st : RunStep) (a : RunScene) : (Except Fault Value × Journal) × RunScene :=
  let before := a.host.journal
  let (result, a) := step pool st a
  ((result, before.since a.host.journal), a)

/-- The choices of a run in short: name, file and what requires it. -/
def reportDependencies (r : Run NotingHandler) : Value :=
  .list (r.dependencies.map fun c =>
    .list [.str c.pack.name, .str c.version.fileName,
      .list (c.version.requiredBy.map AddonId.toValue)])

/-- The report of the run after a step. -/
def report (a : RunScene) : List (String × Value) :=
  match a.run? with
  | none => []
  | some r =>
    [("state", .str r.state.word), ("finished", .bool r.state.isFinished),
      ("failure", .ofText? r.failure), ("warnings", .strings r.warnings),
      ("dependencies", reportDependencies r)]

end RunScene

end AddonPicker.Rehearsal
