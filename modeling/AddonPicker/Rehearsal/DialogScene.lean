import AddonPicker.Dialog.Confirmation
import AddonPicker.Rehearsal.Agenda
import AddonPicker.Rehearsal.Report

/-!
# Rehearsing a dialog

A download dialog with a scripted user interface, progress surface and services, taken through
steps one after the other. After every step that lets time pass, everything goes on until nothing
can.
-/

namespace AddonPicker.Rehearsal

/-- Whether a confirmation has ended. -/
def isEnded (c : Confirmation) : Bool :=
  match c.stage with
  | .ended _ => true
  | _ => false

/-- The run that a confirmation waits for. -/
def awaitedRun? (c : Confirmation) : Option Nat :=
  match c.stage with
  | .surface i .runEnd _ => some i
  | .abandoning i => some i
  | .settling i => some i
  | _ => none

/-- Whether a confirmation lets everything else go first. -/
def isPausing (c : Confirmation) : Bool :=
  match c.stage with
  | .surface _ .quiet _ => true
  | _ => false

/-- Whether a confirmation has a review that waits for its user. -/
def isReviewing (c : Confirmation) : Bool :=
  match c.stage with
  | .reviewing .. => true
  | _ => false

/-- Whether a confirmation can go on whatever it waits for. -/
def isDue (c : Confirmation) : Bool :=
  match c.stage with
  | .scheduled => true
  | .ended _ => false
  | _ => c.cancelling

/-- The positions of the confirmations with a property. -/
def positionsOf (p : Confirmation → Bool) (s : Session) : List Nat :=
  (List.range s.confirmations.length).filter fun c => s.confirmations[c]?.any p

instance : Stageable Session DialogHandler where
  waiting s := (List.range s.confirmations.length).filterMap fun c =>
    (s.confirmations[c]?.bind awaitedRun?).map fun i => (c, i)
  pausing := positionsOf isPausing
  reviewing := positionsOf isReviewing
  due := positionsOf isDue
  resume := Session.resume

/-- One step with a dialog. -/
inductive DialogStep
  | add (pack : Pack) (version : VersionId) (indexed : Value)
  | remove (pack : Pack) (version : VersionId)
  | pick (page : Nat) (pack : Pack) (version : VersionId)
  | unmark (page : Nat) (name : Value)
  | selectPage (id : Value)
  | search (term : Value)
  | searchPage (page : Nat) (term : Value)
  | pageChanged (previous selected : PageRef)
  | configure (name : String) (v : Value)
  | newRun
  | confirm
  | confirmAndWait
  | cancel (confirmation : Nat)
  | openGate (provider : Provider) (id : Value)
  | releaseReview
  | accept
  | reject

/-- A dialog under rehearsal. -/
structure DialogScene where
  pool : Pool
  agenda : Agenda Session

namespace DialogScene

/-- The dialog. -/
def session (d : DialogScene) : Session :=
  d.agenda.host

/-- Perform an action on the dialog. -/
def attempt (f : Act Session Value) (d : DialogScene) : Except Fault Value × DialogScene :=
  let (r, host) := f.perform d.session
  (r, { d with agenda := { d.agenda with host } })

/-- Perform an action on the dialog that has no result. -/
def attemptUnit (f : Act Session Unit) (d : DialogScene) : Except Fault Value × DialogScene :=
  d.attempt do
    f
    return .null

/-- Let everything go on until nothing can. -/
def settle (d : DialogScene) : DialogScene :=
  { d with agenda := d.agenda.settle }

/-- The report of the run that the dialog would make now. -/
def reportNewRun (d : DialogScene) : Value :=
  match d.session.newRun? with
  | none => .null
  | some r =>
    let selected := d.session.selection.entries.map fun e =>
      .list [.str e.pack.name, .ofText? (d.pool.ref? e.version)]
    .dict [("selected", .list selected), ("timeout", r.timeout), ("state", .str r.state.word)]

/-- Request a confirmation. -/
def request (d : DialogScene) : Nat × DialogScene :=
  let (c, host) := d.session.request
  (c, { d with agenda := { d.agenda with host } })

/-- Take one step and yield its result. -/
def step (st : DialogStep) (d : DialogScene) : Except Fault Value × DialogScene :=
  match st with
  | .add pack version indexed => d.attempt do
    let e ← Session.add pack version indexed
    return .str ((← get).selection.entryText e)
  | .remove pack version => d.attemptUnit (Session.remove pack version)
  | .pick page pack version => d.attemptUnit (Session.pick page pack version)
  | .unmark page name => d.attemptUnit (Session.unmark page name)
  | .selectPage id => d.attempt do
    return .bool (← Session.selectPage id)
  | .search term => d.attemptUnit (Session.searchShown term)
  | .searchPage page term => d.attemptUnit (Session.search page term)
  | .pageChanged previous selected => d.attemptUnit (Session.pageChanged previous selected)
  | .configure name v => d.attemptUnit (modify fun s => { s with config := s.config.assign name v })
  | .newRun => (.ok d.reportNewRun, d)
  | .confirm => (.ok .null, d.request.2.settle)
  | .confirmAndWait =>
    let (c, d) := d.request
    let ended (s : Session) : Bool := s.confirmations[c]?.all isEnded
    (.ok .null, { d with agenda := d.agenda.waitFor ended })
  | .cancel c =>
    let (answer, host) := d.session.cancel c
    (.ok (.bool answer), { d with agenda := { d.agenda with host } }.settle)
  | .openGate provider id =>
    (.ok .null, { d with agenda := d.agenda.openGate provider id }.settle)
  | .releaseReview => (.ok .null, { d with agenda := d.agenda.releaseReview }.settle)
  | .accept => d.attemptUnit Session.accept
  | .reject => d.attemptUnit Session.reject

/-- Take one step and yield its outcome with what happened in it. -/
def play (st : DialogStep) (d : DialogScene) : (Except Fault Value × Journal) × DialogScene :=
  let before := d.session.selection.journal
  let (result, d) := step st d
  ((result, before.since d.session.selection.journal), d)

/-- What the dialog says of itself. -/
def reportOpening (s : Session) : Value :=
  .dict [("class", .str s.type.title), ("title", .str s.type.kind.dialogTitle),
    ("resources", .str s.type.kind.plural), ("geometry_key", s.geometryKey),
    ("base_model", .str s.target.text)]

/-- How a message shows a page. -/
def pageText (p : Page) : String :=
  let type := match p.provider with
    | .modrinth => "ModrinthResourcePage"
    | .curseForge => "FlameResourcePage"
  type ++ "(id=" ++ p.id.text ++ ")"

/-- The names of the pool's packs that a page marks, sorted, each once. -/
def markedNames (d : DialogScene) (p : Page) : List String :=
  let names := (d.pool.packs.map (·.2.name)).eraseDups
  (names.filter p.marked.contains).mergeSort fun a b => !(b < a)

/-- The report of a page. -/
def reportPage (d : DialogScene) (p : Page) : Value :=
  .dict [("id", p.id), ("name", .str p.title), ("provider", .str p.provider.id),
    ("repr", .str (pageText p)), ("term", p.searchTerm), ("marked", .strings (d.markedNames p))]

/-- The name under which a report shows a settings key. -/
def settingName : Value → String
  | .str name => name
  | .float (.infinite negative) => if negative then "-Infinity" else "Infinity"
  | .float .nan => "NaN"
  | v => Json.write v

/-- The report of the settings. -/
def reportSettings (s : Session) : Value :=
  .dict (s.settings.map fun kv => (settingName kv.1, kv.2))

/-- The report of the dialog after a step. -/
def report (d : DialogScene) : List (String × Value) :=
  let s := d.session
  [("tasks", d.pool.reportEntries s.selection),
    ("versions", d.pool.reportVersions s.selection.store),
    ("selected_page", .ofPosition? s.shown),
    ("pages", .list (s.selection.pages.map d.reportPage)), ("settings", reportSettings s)]

/-- How the confirmations so far ended, as far as they did. -/
def verdicts (d : DialogScene) : List (Option Verdict) :=
  d.session.confirmations.map fun c =>
    match c.stage with
    | .ended v => some v
    | _ => none

end DialogScene

end AddonPicker.Rehearsal
