import AddonPicker.Catalog.Record

/-!
# Declared dependencies

A version declares the packs it depends on, conflicts with or includes. Only required ones take
part in resolution.
-/

namespace AddonPicker

/-- A pack that a version declares, perhaps pinned to one version of it. -/
structure Dependency where
  addonId : AddonId
  kind : DependencyKind := .required
  pin : Option String := none
  extras : Fields := []
deriving Repr, Inhabited

namespace Dependency

def addonIdField : Field := ⟨"addonId", "addon_id"⟩
def kindField : Field := .plain "type"
def pinField : Field := .plain "version"

/-- The declared fields, in order. -/
def fields : List Field := [addonIdField, kindField, pinField]

/-- Read a dependency. -/
def ofFields (data : Fields) : Checked Dependency :=
  (Checked.valid Dependency.mk).ap (addonIdField.required Read.addonId data)
    |>.ap (kindField.withDefault .required Read.dependencyKind data)
    |>.ap (pinField.withDefault none (Read.optional Read.text) data)
    |>.ap (.valid (Field.extras fields data))

/-- The contents of the fields in order. -/
def contents (d : Dependency) : List Value :=
  [d.addonId.toValue, .str d.kind.word, (d.pin.map Value.str).getD .null]

instance : Record Dependency where
  title := "Dependency"
  fields := fields
  keepsExtras := true
  frozen := false
  ofFields := ofFields
  named d := (fields.map Field.name).zip d.contents
  keyed d := (fields.map Field.key).zip d.contents
  extras := extras

/-- Whether the declaring version cannot do without the pack. -/
def isRequired (d : Dependency) : Bool :=
  d.kind == .required

end Dependency

end AddonPicker
