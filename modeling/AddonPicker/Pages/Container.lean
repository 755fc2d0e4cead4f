import AddonPicker.Act

/-!
# The page container

Pages in order, one of them selected as long as there is any. Pages are told apart by position;
an id stands for the first page that has it. Listeners hear of a switch after it was made, so a
listener that fails does not undo it.
-/

namespace AddonPicker

/-- The ids of the pages in order, and the position of the selected page. -/
structure Container where
  ids : List Value
  selected : Option Nat
deriving Repr, Inhabited

namespace Container

/-- A container with the first page selected. -/
def ofIds (ids : List Value) : Container :=
  ⟨ids, if ids.isEmpty then none else some 0⟩

/-- The position of the first page with an id. -/
def position? (c : Container) (id : Value) : Option Nat :=
  c.ids.findIdx? (·.agrees id)

/-- What selecting a page comes to. -/
inductive Switch
  /-- No page has the id. -/
  | unknown
  /-- The page is selected already. -/
  | unchanged
  | switched (previous selected : Nat)
deriving DecidableEq, Repr

/-- Select the first page with an id. -/
def select (c : Container) (id : Value) : Switch × Container :=
  match c.position? id with
  | none => (.unknown, c)
  | some i =>
    match c.selected with
    | none => (.unchanged, { c with selected := some i })
    | some previous =>
      if previous = i then (.unchanged, c)
      else (.switched previous i, { c with selected := some i })

/-- An unknown id changes nothing. -/
theorem select_of_position?_eq_none {c : Container} {id : Value} (h : c.position? id = none) :
    c.select id = (.unknown, c) := by
  simp [select, h]

end Container

/-- A listener of a container: its label, and the fault with which it answers every switch. -/
structure PageListener where
  label : Value
  refusal : Option Fault := none

/-- A container of plain pages with its listeners. -/
structure PageStack where
  container : Container
  names : List Value
  listeners : List PageListener := []
  journal : Journal := {}

instance : Journaled PageStack where
  journal := PageStack.journal
  setJournal j s := { s with journal := j }

namespace PageStack

/-- Pages given by id and display name. -/
def ofPages (pages : List (Value × Value)) : PageStack where
  container := .ofIds (pages.map (·.1))
  names := pages.map (·.2)

/-- How a message shows a plain page. -/
def pageText (id : Value) : String :=
  "BasePage(id=" ++ id.text ++ ")"

/-- Position, id and display name of the first page with an id. -/
def page? (s : PageStack) (id : Value) : Option (Nat × Value × Value) := do
  let i ← s.container.position? id
  let id ← s.container.ids[i]?
  let name ← s.names[i]?
  return (i, id, name)

/-- Register a listener. -/
def listen (l : PageListener) : Act PageStack Unit :=
  modify fun s => { s with listeners := s.listeners ++ [l] }

/-- Select the page with an id and tell the listeners. The result says whether there is one. -/
def select (id : Value) : Act PageStack Bool := do
  let (switch, container) := (← get).container.select id
  modify fun s => { s with container }
  match switch with
  | .unknown => return false
  | .unchanged => return true
  | .switched previous selected =>
    (← get).listeners.forM fun l => do
      Journaled.note (.switched l.label previous selected container.selected)
      Act.failOn l.refusal
    return true

end PageStack

end AddonPicker
