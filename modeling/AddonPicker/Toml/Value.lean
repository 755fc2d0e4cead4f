import AddonPicker.Toml.Clock
import AddonPicker.Toml.Number
import AddonPicker.Toml.Quote
import AddonPicker.Toml.Table

/-!
# Keys and values

A key is a path of steps with points between them. A value is a text, a truth value, a moment, a
number, an array or an inline table. An array may run over several lines, hold comments and end
with a comma; an inline table does none of the three.

The readers of arrays and inline tables take a bound on the work that is left. Every step of theirs
uses up at least one character, so a bound above the length of the text is never reached. Arrays and
tables may lie within each other to any depth here. A reader that runs on a stack of limited depth
gives up on a document that is nested too deeply for it, at some five hundred arrays within each
other; such a limit is no part of the format and is left out.
-/

namespace AddonPicker.Toml

/-- Whether a character may stand in a key without quotes. -/
def isBare (c : Char) : Bool :=
  c.isAlphanum || c = '-' || c = '_'

/-- Read one step of a key. -/
def readStep (cs : List Char) : Option (String × List Char) :=
  match cs.takeWhile isBare with
  | [] => readQuotedLine cs
  | bare => some (String.ofList bare, cs.dropWhile isBare)

/-- Read a key with the blanks after it, a path of at most `fuel` steps. -/
def readKey : Nat → List Char → Option (List String × List Char)
  | 0, _ => none
  | fuel + 1, cs => do
    let (step, rest) ← readStep cs
    match skipBlanks rest with
    | '.' :: rest =>
      let (path, rest) ← readKey fuel (skipBlanks rest)
      return (step :: path, rest)
    | rest => return ([step], rest)

/-- Read a word that stands for a value. -/
def readWord (word : String) (v : Value) (cs : List Char) : Option (Value × List Char) :=
  if word.toList.isPrefixOf cs then some (v, cs.drop word.length) else none

/-- Read a value that holds no other values. -/
def readScalar (cs : List Char) : Except Flaw (Value × List Char) :=
  match cs with
  | [] => .error .malformed
  | c :: _ =>
    if c = '"' ∨ c = '\'' then do
      let (s, rest) ← expected (readQuoted cs)
      return (.str s, rest)
    else if c = 't' then expected (readWord "true" (.bool true) cs)
    else if c = 'f' then expected (readWord "false" (.bool false) cs)
    else
      match readMoment cs with
      | some (m, rest) => .ok (.moment m, rest)
      | none => readNumber cs

mutual

/-- Read a value. -/
def readValue : Nat → List Char → Except Flaw (Value × List Char)
  | 0, _ => .error .malformed
  | fuel + 1, cs =>
    match cs with
    | '[' :: rest => do
      let (xs, rest) ← readElements fuel rest
      return (.list xs, rest)
    | '{' :: rest =>
      match skipBlanks rest with
      | '}' :: rest => .ok (.dict [], rest)
      | rest => do
        let (entries, rest) ← readFields fuel [] rest
        return (.dict (closeEntries entries), rest)
    | cs => readScalar cs

/-- Read the elements of an array up to its closing bracket. -/
def readElements : Nat → List Char → Except Flaw (List Value × List Char)
  | 0, _ => .error .malformed
  | fuel + 1, cs => do
    match ← expected (skipFiller false cs) with
    | ']' :: rest => return ([], rest)
    | cs =>
      let (v, rest) ← readValue fuel cs
      match ← expected (skipFiller false rest) with
      | ',' :: rest =>
        let (vs, rest) ← readElements fuel rest
        return (v :: vs, rest)
      | ']' :: rest => return ([v], rest)
      | _ => .error .malformed

/-- Read the fields of an inline table up to its closing brace, after those read already. -/
def readFields : Nat → Entries → List Char → Except Flaw (Entries × List Char)
  | 0, _, _ => .error .malformed
  | fuel + 1, entries, cs => do
    let (path, v, rest) ← readAssignment fuel cs
    let entries ← expected (Entries.putAt 0 path v entries)
    match skipBlanks rest with
    | ',' :: rest => readFields fuel entries (skipBlanks rest)
    | '}' :: rest => return (entries, rest)
    | _ => .error .malformed

/-- Read a key and the value assigned to it. -/
def readAssignment : Nat → List Char → Except Flaw (List String × Value × List Char)
  | 0, _ => .error .malformed
  | fuel + 1, cs => do
    let (path, rest) ← expected (readKey (cs.length + 1) cs)
    match rest with
    | '=' :: rest =>
      let (v, rest) ← readValue fuel (skipBlanks rest)
      return (path, v, rest)
    | _ => .error .malformed

end

end AddonPicker.Toml
