import AddonPicker.Naming
import AddonPicker.Rehearsal.Report
import AddonPicker.Review.Build

/-!
# Rehearsing the selection

A selection with pages that note what is cleared, listeners that note what changes, and a review
box, taken through steps one after the other. A step that fails has its fault as its result, and
the rehearsal goes on from what the step left behind.
-/

namespace AddonPicker.Rehearsal

/-- A page that notes the names it clears and refuses some of them. -/
structure MarkerPage where
  label : Value
  refused : List Value := []

/-- The page as the selection knows it. -/
def MarkerPage.toPage (m : MarkerPage) : Page where
  note name := some (.cleared m.label name)
  refusal _ name :=
    if m.refused.any (Value.str name).agrees then
      some (.raised "RuntimeError" ("page " ++ m.label.text ++ " failed"))
    else none

/-- A listener that notes every change, and fails on those that leave the selection empty, or on
those that do not. -/
def noteListener (label : Value) (fails : Option Bool) : Listener where
  note empty size := some (.changed label empty size)
  refusal _ empty :=
    if fails = some empty then
      some (.raised "RuntimeError" ("listener " ++ label.text ++ " failed"))
    else none

/-- One step with a selection. -/
inductive SelectionStep
  | add (pack : Pack) (version : VersionId) (indexed : Value)
  | remove (pack : Pack) (version : VersionId)
  | removeByName (name : Value)
  | get (name : Value)
  | contains (name : Value)
  | requirers (ids : Value)
  | listen (label : Value) (fails : Option Bool)
  | setPages (pages : List MarkerPage)
  | setVersion (version : VersionId) (name v : Value)
  | newBox (title : Value)
  | relabel (resources : Value)
  | buildReview
  | appendRow (row : ReviewRow)
  | enable (name enabled : Value)
  | getRow (name : Value)
  | deselected
  | commit

/-- A selection under rehearsal. -/
structure SelectionScene where
  pool : Pool
  naming : Naming
  selection : Selection
  box : ReviewBox

instance : Journaled SelectionScene where
  journal s := s.selection.journal
  setJournal j s := { s with selection := { s.selection with journal := j } }

namespace SelectionScene

/-- Act on the selection. -/
def onSelection {α : Type} (a : Act Selection α) : Act SelectionScene α :=
  Act.onPart SelectionScene.selection (fun sel s => { s with selection := sel }) a

/-- Replace the box. -/
def setBox (b : ReviewBox) : Act SelectionScene Unit :=
  modify fun s => { s with box := b }

/-- Take one step and yield its result. -/
def step : SelectionStep → Act SelectionScene Value
  | .add pack version indexed => do
    let e ← onSelection (Selection.add pack version indexed)
    let s ← get
    let kept := (s.selection.get? pack.name).any (·.version == version)
    return .list [.str (s.selection.entryText e), .bool kept, .bool true]
  | .remove pack version => do
    onSelection (Selection.remove pack version)
    return .null
  | .removeByName name => do
    onSelection (Selection.removeByName name)
    return .null
  | .get name => do
    let s ← get
    let e ← Act.check (s.selection.lookUp name)
    return (e.map (s.pool.reportEntry s.selection)).getD .null
  | .contains name => do
    return .bool (← Act.check ((← get).selection.lookUp name)).isSome
  | .requirers ids => do
    return .strings (← Act.check ((← get).selection.requirers ids))
  | .listen label fails => do
    onSelection <| modify fun sel =>
      { sel with listeners := sel.listeners ++ [noteListener label fails] }
    return .null
  | .setPages pages => do
    onSelection <| modify fun sel => { sel with pages := pages.map MarkerPage.toPage }
    return .null
  | .setVersion version name v => do
    match (← get).selection.store.get? version with
    | none => return .null
    | some e =>
      let e ← Act.check (e.assign name v)
      onSelection <| modify fun sel => { sel with store := sel.store.modify version fun _ => e }
      return .null
  | .newBox title => do
    setBox { title }
    return .null
  | .relabel resources => do
    setBox ((← get).box.relabel resources)
    return .null
  | .buildReview => do
    let s ← get
    let (built, box) := s.selection.review s.naming s.box
    setBox box
    Act.check built
    return .bool true
  | .appendRow row => do
    setBox (← Act.check ((← get).box.append row))
    return .null
  | .enable name enabled => do
    setBox (← Act.check ((← get).box.setEnabled name enabled))
    return .null
  | .getRow name => do
    let row ← Act.check ((← get).box.find name)
    return (row.map ReviewRow.report).getD .null
  | .deselected => do
    return .list (← get).box.deselected
  | .commit => do
    let dropped := (← get).box.deselected
    dropped.forM fun name => onSelection (Selection.removeByName name)
    return .list dropped

/-- Take one step and yield its outcome with what happened in it. -/
def play (st : SelectionStep) (s : SelectionScene) :
    (Except Fault Value × Journal) × SelectionScene :=
  let before := s.selection.journal
  let (result, s) := (step st).perform s
  ((result, before.since s.selection.journal), s)

end SelectionScene

end AddonPicker.Rehearsal
