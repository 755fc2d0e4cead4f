import AddonPicker.Toml.Value

/-!
# Documents

A document is a sequence of lines, each of them empty, an assignment, or the name of the section
that begins there; any of them may end with a comment. The name of a section in double brackets
begins the next table of an array of tables.

Reading fails at the first flaw, and says no more of it than its kind. How deeply values lie within
each other is no flaw: the limit that a stack sets to nesting is left out, as with values.
-/

namespace AddonPicker.Toml

/-- Where the reader of a document stands: the number and name of the section, and what has been
read. -/
structure Draft where
  number : Nat := 0
  name : List String := []
  entries : Entries := []
deriving Inhabited

namespace Draft

/-- Begin a section, whose name ends with the key that `enter` is given. -/
def open_ (enter : String → Entries → Option Entries) (path : List String) (d : Draft) :
    Option Draft :=
  match path.getLast? with
  | none => none
  | some key => do
    let entries ← Entries.inside (enter key) path.dropLast d.entries
    return { number := d.number + 1, name := path, entries }

/-- Assign a value to a key of the section. -/
def assign (path : List String) (v : Value) (d : Draft) : Option Draft := do
  let entries ← Entries.inside (Entries.putAt d.number path v) d.name d.entries
  return { d with entries }

end Draft

/-- Read what a line holds before its end. -/
def readStatement (d : Draft) (cs : List Char) : Except Flaw (Draft × List Char) :=
  match cs with
  | [] => .ok (d, [])
  | '\n' :: _ => .ok (d, cs)
  | '#' :: _ => .ok (d, cs)
  | '[' :: '[' :: rest => do
    let (path, rest) ← expected (readKey (rest.length + 1) (skipBlanks rest))
    match rest with
    | ']' :: ']' :: rest => return (← expected (d.open_ Entries.extend path), rest)
    | _ => .error .malformed
  | '[' :: rest => do
    let (path, rest) ← expected (readKey (rest.length + 1) (skipBlanks rest))
    match rest with
    | ']' :: rest => return (← expected (d.open_ Entries.introduce path), rest)
    | _ => .error .malformed
  | _ => do
    let (path, v, rest) ← readAssignment (2 * cs.length + 2) cs
    return (← expected (d.assign path v), rest)

/-- Read at most `fuel` lines. -/
def readLines : Nat → Draft → List Char → Except Flaw Draft
  | 0, _, _ => .error .malformed
  | fuel + 1, d, cs => do
    let (d, rest) ← readStatement d (skipBlanks cs)
    match ← expected (skipComment (skipBlanks rest)) with
    | [] => .ok d
    | '\n' :: rest => readLines fuel d rest
    | _ => .error .malformed

/-- Make every pair of return and line feed a single line break. -/
def joinBreaks : List Char → List Char
  | '\r' :: '\n' :: rest => '\n' :: joinBreaks rest
  | c :: rest => c :: joinBreaks rest
  | [] => []

/-- Read a document. -/
def read (cs : List Char) : Except Flaw (List (String × Value)) := do
  let cs := joinBreaks cs
  let d ← readLines (cs.length + 1) {} cs
  return closeEntries d.entries

end AddonPicker.Toml
