import AddonPicker.Naming
import AddonPicker.Selection.Basic
import AddonPicker.Text.Case

/-!
# The rows of a review

Every selected resource becomes one row. Rows are ordered by name without regard to case, and
names that differ in case only keep the order of the selection.
-/

namespace AddonPicker

namespace Selection

/-- The order of rows: by folded name. -/
def comesFirst (a b : String) : Bool :=
  !(Text.fold b < Text.fold a)

/-- The entries in the order of rows. -/
def sortedEntries (s : Selection) : List Entry :=
  s.entries.mergeSort fun a b => comesFirst a.pack.name b.pack.name

/-- The row of an entry. -/
def row (s : Selection) (naming : Naming) (e : Entry) : Except Fault ReviewRow := do
  let provider ← naming.readable e.pack.provider
  let requirers ← s.requirers (s.store.value e.version Version.requiredByField)
  return {
    name := .str e.pack.name
    fileName := s.store.value e.version Version.fileNameField
    customPath := s.customPath e
    provider
    requiredBy := .strings requirers }

/-- Append the rows of some entries to a box, as far as they can be made. -/
def appendRows (s : Selection) (naming : Naming) : List Entry → ReviewBox →
    Except Fault Unit × ReviewBox
  | [], box => (.ok (), box)
  | e :: rest, box =>
    match s.row naming e with
    | .ok r => appendRows s naming rest (box.put r)
    | .error f => (.error f, box)

/-- Append a row for every selected resource to a box. -/
def review (s : Selection) (naming : Naming) (box : ReviewBox) : Except Fault Unit × ReviewBox :=
  s.appendRows naming s.sortedEntries box

end Selection

end AddonPicker
