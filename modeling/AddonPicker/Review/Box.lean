import AddonPicker.Fault
import AddonPicker.Value.Text

/-!
# The review box

The rows that a user looks at before a selection is committed, and which of them are ticked. A row
stands under its name: appending a second row of the same name replaces the first in its place.
A row counts as ticked by the truth value of its mark, which the user interface may set to
anything.
-/

namespace AddonPicker

/-- One selected resource as it is presented. -/
structure ReviewRow where
  name : Value
  fileName : Value
  customPath : Value
  provider : Value
  requiredBy : Value := .list []
  enabled : Value := .bool true
deriving Repr, Inhabited

/-- The box with its rows. -/
structure ReviewBox where
  title : Value
  resources : Value := .str ""
  rows : List ReviewRow := []
deriving Repr, Inhabited

namespace ReviewBox

/-- Say what the rows are about. -/
def relabel (resources : Value) (b : ReviewBox) : ReviewBox :=
  { b with resources }

/-- Whether there is anything to present. -/
def isBlank (b : ReviewBox) : Bool :=
  b.rows.isEmpty && !b.resources.isTrue

/-- The row under a name. -/
def row? (b : ReviewBox) (name : Value) : Option ReviewRow :=
  b.rows.find? (·.name.isSameMember name)

/-- A name has to be hashable to be looked up. -/
def checkName (name : Value) : Except Fault Unit :=
  if name.isHashable then .ok () else .error (.unhashable name.typeName)

/-- The row under a name, if the name can be looked up. -/
def find (b : ReviewBox) (name : Value) : Except Fault (Option ReviewRow) := do
  checkName name
  return b.row? name

/-- Put a row under its name. -/
def put (r : ReviewRow) (b : ReviewBox) : ReviewBox :=
  { b with rows :=
      if (b.row? r.name).isSome then
        b.rows.map fun old => if old.name.isSameMember r.name then r else old
      else b.rows ++ [r] }

/-- Append a row. -/
def append (r : ReviewRow) (b : ReviewBox) : Except Fault ReviewBox := do
  checkName r.name
  return b.put r

/-- Set the mark of the row under a name. -/
def mark (name enabled : Value) (b : ReviewBox) : ReviewBox :=
  { b with rows := b.rows.map fun r => if r.name.isSameMember name then { r with enabled } else r }

/-- Tick or untick a row, which has to exist. -/
def setEnabled (name enabled : Value) (b : ReviewBox) : Except Fault ReviewBox := do
  match ← b.find name with
  | some _ => return b.mark name enabled
  | none => .error (.missingKey name.quoted)

/-- Untick the row at a position, if there is one. -/
def untick (position : Nat) (b : ReviewBox) : ReviewBox :=
  match b.rows[position]? with
  | some r => b.mark r.name (.bool false)
  | none => b

/-- The names of the rows that are not ticked. -/
def deselected (b : ReviewBox) : List Value :=
  (b.rows.filter (!·.enabled.isTrue)).map (·.name)

end ReviewBox

end AddonPicker
