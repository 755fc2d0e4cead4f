import AddonPicker.ResourceKind
import AddonPicker.Text.Case
import AddonPicker.Value.Order
import AddonPicker.Value.Text

/-!
# Configuration of a download dialog

The kind of resource is checked and so is the timeout; every other value is taken as it is and
counts by its truth value. A timeout may be any number above zero, also one that is no number at
all: what is refused is a timeout of zero or less, and a value that cannot be compared with zero.
-/

namespace AddonPicker

/-- The configuration of a dialog. -/
structure Config where
  kind : ResourceKind := .mods
  flameEnabled : Value := .bool true
  checkDependencies : Value := .bool true
  resolutionTimeout : Value := .null
  geometrySaveKey : Value := .null
deriving Repr, Inhabited

namespace Config

def kindKey : String := "resource_kind"
def flameKey : String := "flame_enabled"
def checkKey : String := "check_dependencies"
def timeoutKey : String := "resolution_timeout"
def geometryKey : String := "geometry_save_key"

/-- The kind that a value names, its text being read without regard to case. A value that cannot be
shown names no kind and cannot be complained about either. -/
def kindOf (v : Value) : Except Fault ResourceKind :=
  if v.isLong then .error .longNumber
  else match ResourceKind.ofWord? (Text.lower v.text) with
  | some k => .ok k
  | none => .error (.unsupportedKind v.text)

/-- Refuse a timeout that is not above zero. No timeout is fine. -/
def checkTimeout : Value → Except Fault Unit
  | .null => .ok ()
  | v => do if ← v.isNonPositive then .error .timeoutNotPositive

/-- The configuration that the fields of a table describe. Unknown fields are ignored. -/
def ofFields (fields : List (String × Value)) : Except Fault Config := do
  let kind ← match Value.lookup kindKey fields with
    | some v => kindOf v
    | none => .ok .mods
  let timeout := (Value.lookup timeoutKey fields).getD .null
  checkTimeout timeout
  return {
    kind
    flameEnabled := (Value.lookup flameKey fields).getD (.bool true)
    checkDependencies := (Value.lookup checkKey fields).getD (.bool true)
    resolutionTimeout := timeout
    geometrySaveKey := (Value.lookup geometryKey fields).getD .null }

/-- The configuration that a value describes, which has to be a table. -/
def ofValue : Value → Except Fault Config
  | .dict fields => ofFields fields
  | v => .error (.lacksAttribute v.typeName "items")

/-- Change a setting without any check. The kind of a dialog is settled when it is made, so
changing it here changes nothing, and neither does an unknown setting. -/
def assign (name : String) (v : Value) (c : Config) : Config :=
  if name = flameKey then { c with flameEnabled := v }
  else if name = checkKey then { c with checkDependencies := v }
  else if name = timeoutKey then { c with resolutionTimeout := v }
  else if name = geometryKey then { c with geometrySaveKey := v }
  else c

/-- The settings key for the window geometry of a dialog for a kind of resource. -/
def geometryKeyFor (c : Config) (kind : ResourceKind) : Value :=
  if c.geometrySaveKey.isTrue then c.geometrySaveKey else .str kind.geometryKey

end Config

end AddonPicker
