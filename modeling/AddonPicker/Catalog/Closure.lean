import AddonPicker.Catalog.Pack
import AddonPicker.Catalog.Version

/-!
# Choices and closures

A choice is a pack with one of its versions. A closure is what a resolution run reports: the
choices it discovered, in the order of discovery, and the warnings it collected on the way.
-/

namespace AddonPicker

/-- A pack and the version of it that takes part in a resolution. -/
structure Choice extends Held where
  pack : Pack
deriving Repr, Inhabited

namespace Choice

def packField : Field := .plain "pack"
def versionField : Field := .plain "version"

/-- The declared fields, in order. -/
def fields : List Field := [packField, versionField]

/-- Read a choice. -/
def ofFields (data : Fields) : Checked Choice :=
  (Checked.valid fun pack version => { pack, version }).ap (packField.required Record.read data)
    |>.ap (versionField.required Record.read data)

instance : Record Choice where
  title := "PackDependency"
  fields := fields
  keepsExtras := false
  frozen := false
  ofFields := ofFields
  named c := (fields.map Field.name).zip [Record.describe c.pack, Record.describe c.version]
  keyed c := (fields.map Field.key).zip [Record.dump c.pack, Record.dump c.version]
  extras _ := []

/-- A choice needs a pack; this is the fault of one without. -/
def withoutPack (reference : String) : Fault :=
  .unfitPart reference (Record.title Choice) ⟨[packField.name], .notRecord (Record.title Pack)⟩
    Value.null.quoted Value.null.typeName

end Choice

/-- The outcome of a resolution run. -/
structure Closure where
  dependencies : List Choice := []
  warnings : List String := []
deriving Repr, Inhabited

namespace Closure

def dependenciesField : Field := .plain "dependencies"
def warningsField : Field := .plain "warnings"

/-- The declared fields, in order. -/
def fields : List Field := [dependenciesField, warningsField]

/-- Read a closure. -/
def ofFields (data : Fields) : Checked Closure :=
  (Checked.valid Closure.mk).ap (dependenciesField.withDefault [] (Read.list Record.read) data)
    |>.ap (warningsField.withDefault [] (Read.list Read.text) data)

instance : Record Closure where
  title := "DependencyClosureResult"
  fields := fields
  keepsExtras := false
  frozen := false
  ofFields := ofFields
  named c := (fields.map Field.name).zip
    [.list (c.dependencies.map Record.describe), .strings c.warnings]
  keyed c := (fields.map Field.key).zip
    [.list (c.dependencies.map Record.dump), .strings c.warnings]
  extras _ := []

end Closure

end AddonPicker
