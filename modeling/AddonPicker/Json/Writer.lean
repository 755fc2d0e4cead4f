import AddonPicker.Value.Text

/-!
# Writing JSON

The compact form: no blanks, and no escapes but the ones that JSON demands, the control characters
with a short escape taking it. A written text therefore holds no character below the space.
-/

namespace AddonPicker.Json

/-- Write one character of a text. -/
def escapeChar (c : Char) : List Char :=
  if c = '"' then ['\\', '"']
  else if c = '\\' then ['\\', '\\']
  else if 0x20 ≤ c.val then [c]
  else if c = '\n' then ['\\', 'n']
  else if c = '\r' then ['\\', 'r']
  else if c = '\t' then ['\\', 't']
  else if c = '\x08' then ['\\', 'b']
  else if c = '\x0c' then ['\\', 'f']
  else '\\' :: 'u' :: Text.hexDigits 4 c.toNat

/-- Write a text between quotes. -/
def writeText (s : String) : List Char :=
  '"' :: s.toList.flatMap escapeChar ++ ['"']

mutual

/-- Write a value. A double that is no finite number has no form in JSON and is written as absent;
a moment is written as its text. -/
def writeValue : Value → List Char
  | .null => "null".toList
  | .bool b => (if b then "true" else "false").toList
  | .int i => (toString i).toList
  | .float (.finite s m e) => (Value.numberLayout.render (.finite s m e)).toList
  | .float _ => "null".toList
  | .str s => writeText s
  | .list xs => '[' :: writeElements xs ++ [']']
  | .dict fields => '{' :: writeFields fields ++ ['}']
  | .moment m => writeText m.text

/-- Write the elements of a list, with commas between them. -/
def writeElements : List Value → List Char
  | [] => []
  | [x] => writeValue x
  | x :: y :: rest => writeValue x ++ ',' :: writeElements (y :: rest)

/-- Write the fields of a table, with commas between them. -/
def writeFields : List (String × Value) → List Char
  | [] => []
  | [(key, v)] => writeText key ++ ':' :: writeValue v
  | (key, v) :: next :: rest =>
    writeText key ++ ':' :: writeValue v ++ ',' :: writeFields (next :: rest)

end

/-- The JSON text of a value. -/
def write (v : Value) : String :=
  String.ofList (writeValue v)

end AddonPicker.Json
