import AddonPicker.Catalog.Issue
import AddonPicker.Fault
import AddonPicker.Value.Text

/-!
# Levels of log records

A level is a whole number, and the usual ones have names. A record is emitted when its level
reaches the threshold of the log and is above zero.
-/

namespace AddonPicker

/-- The level of a log record. -/
abbrev Level := Int

namespace Level

def critical : Level := 50
def error : Level := 40
def warning : Level := 30
def info : Level := 20
def debug : Level := 10

/-- The levels that have a name. -/
def named : List (Level × String) :=
  [(critical, "CRITICAL"), (error, "ERROR"), (warning, "WARNING"), (info, "INFO"),
    (debug, "DEBUG"), (0, "NOTSET")]

/-- Every name of a level, those that no level is called by included. -/
def names : List String :=
  named.map (·.2) ++ ["FATAL", "WARN"]

/-- The name of a level. -/
def name (l : Level) : String :=
  match named.find? (·.1 == l) with
  | some (_, s) => s
  | none => "Level " ++ toString l

/-- Whether a log with a threshold emits records of a level. -/
def reaches (l threshold : Level) : Bool :=
  0 < l && threshold ≤ l

/-- The name under which a record shows a value that was given as its level. The name of a level
is no level: it stands for the number, which is no name. -/
def nameOf (v : Value) : Except Fault String :=
  if !v.isHashable then .error (.unhashable v.typeName)
  else
    match named.find? fun l => (Value.int l.1).agrees v with
    | some (_, s) => .ok s
    | none =>
      match v with
      | .str s =>
        if names.contains s then .error (.invalid [⟨["level"], .notString⟩])
        else .ok ("Level " ++ s)
      | v => .ok ("Level " ++ v.text)

/-- The level that a value is. -/
def ofValue : Value → Except Fault Level
  | .int i => .ok i
  | .bool b => .ok (if b then 1 else 0)
  | _ => .error .levelNotInteger

end Level

end AddonPicker
