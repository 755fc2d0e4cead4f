import AddonPicker.Json.Writer
import AddonPicker.Log.Level

/-!
# Log lines

Every log record is emitted as one line, a JSON object with the message last. In the message
apostrophes become double quotes and newlines become spaces; whatever else would break a line is
escaped by the writer.
-/

namespace AddonPicker

/-- Where and when a record was logged. -/
structure LogOrigin where
  time : String := ""
  file : String := ""
  function : String := ""
  line : Int := 0
deriving Repr, Inhabited

/-- An emitted line. -/
structure LogLine where
  origin : LogOrigin
  level : String
  message : String
deriving Repr, Inhabited

namespace LogLine

/-- One character of a message. -/
def cleanChar (c : Char) : Char :=
  if c = '\'' then '"' else if c = '\n' then ' ' else c

/-- A message as it is logged. -/
def clean (s : String) : String :=
  s.map cleanChar

/-- The fields of a line before the message, in order. -/
def heading (l : LogLine) : List (String × Value) :=
  [("time", .str l.origin.time), ("level", .str l.level), ("caller_file", .str l.origin.file),
    ("caller_name", .str l.origin.function), ("caller_line", .int l.origin.line)]

/-- The last field of a line. -/
def closing (l : LogLine) : List (String × Value) :=
  [("message", .str l.message)]

/-- The fields of a line in order. -/
def fields (l : LogLine) : List (String × Value) :=
  l.heading ++ l.closing

/-- The text of a line. -/
def text (l : LogLine) : String :=
  Json.write (.dict l.fields)

/-- The text of a line from the message on. -/
def tail (l : LogLine) : String :=
  String.ofList (Json.writeFields l.closing ++ ['}'])

/-- A text that was given as a message. -/
def messageOf : Value → Except Fault String
  | .str s => .ok (clean s)
  | v => .error (.lacksAttribute v.typeName "replace")

/-- Log a message, given with a sanitized form that is checked but not shown. Nothing is emitted
below the threshold. -/
def record (threshold : Level) (origin : LogOrigin) (message level sanitized : Value) :
    Except Fault (Option LogLine) := do
  let message ← messageOf message
  let _ ← messageOf sanitized
  let name ← Level.nameOf level
  let level ← Level.ofValue level
  return if level.reaches threshold then some { origin, level := name, message } else none

end LogLine

end AddonPicker
