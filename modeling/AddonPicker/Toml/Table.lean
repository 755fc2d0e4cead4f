import AddonPicker.Value.Basic

/-!
# Tables under construction

A document is written section by section, and each section may open some of the tables that stand
already and not others. A table in the making therefore remembers how it came about:

* a table that was only passed through on the way to another may still get a section of its own;
* a table that a section introduced is open to that section alone, as are tables that dotted keys
  went through: to their section;
* an array of tables grows by one table for every section of its name, and only the last one is
  open;
* every other value, inline tables and arrays included, is closed once it is written.

Entries keep the order in which they were first written.
-/

namespace AddonPicker.Toml

/-- How a table came about. -/
inductive Origin
  /-- On the way to a table of a section. -/
  | passed
  /-- As the table of a section. -/
  | introduced
  /-- On the way of a dotted key in the section with a number. -/
  | dotted (number : Nat)
deriving DecidableEq, Repr, Inhabited

/-- What stands behind a key. -/
inductive Node
  | value (v : Value)
  | table (origin : Origin) (entries : List (String × Node))
  /-- An array of tables: the ones before the last, and the entries of the last. -/
  | array (earlier : List Value) (last : List (String × Node))
deriving Inhabited

/-- The entries of a table under construction. -/
abbrev Entries := List (String × Node)

mutual

/-- The value that a node has become. -/
def Node.close : Node → Value
  | .value v => v
  | .table _ entries => .dict (closeEntries entries)
  | .array earlier last => .list (earlier ++ [.dict (closeEntries last)])

/-- The fields that entries have become. -/
def closeEntries : List (String × Node) → List (String × Value)
  | [] => []
  | (key, node) :: rest => (key, node.close) :: closeEntries rest

end

namespace Entries

/-- Put something else behind a key, or refuse. A new key goes to the end. -/
def alter (key : String) (f : Option Node → Option Node) : Entries → Option Entries
  | [] => (f none).map fun node => [(key, node)]
  | entry :: rest =>
    if entry.1 = key then (f (some entry.2)).map fun node => (key, node) :: rest
    else (alter key f rest).map (entry :: ·)

/-- Change the entries of the table at a path of a section's name. Tables that are missing on the
way are made; of an array of tables the last one is meant. -/
def inside (change : Entries → Option Entries) : List String → Entries → Option Entries
  | [], entries => change entries
  | key :: path, entries => alter key (fun
    | none => (inside change path []).map (.table .passed)
    | some (.table origin entries) => (inside change path entries).map (.table origin)
    | some (.array earlier last) => (inside change path last).map (.array earlier)
    | some (.value _) => none) entries

/-- Introduce the table of a section. -/
def introduce (key : String) : Entries → Option Entries :=
  alter key fun
    | none => some (.table .introduced [])
    | some (.table .passed entries) => some (.table .introduced entries)
    | some _ => none

/-- Begin the next table of an array of tables. -/
def extend (key : String) : Entries → Option Entries :=
  alter key fun
    | none => some (.array [] [])
    | some (.array earlier last) => some (.array (earlier ++ [.dict (closeEntries last)]) [])
    | some _ => none

/-- Whether dotted keys of a section may go through a table of some origin. -/
def isOpenTo (number : Nat) : Origin → Bool
  | .passed => true
  | .introduced => false
  | .dotted n => n == number

/-- Put a value behind a key that is still free, at a dotted path in the section with a number. -/
def put (number : Nat) (key : String) (v : Value) : List String → Entries → Option Entries
  | [], entries => alter key (fun
    | none => some (.value v)
    | some _ => none) entries
  | step :: path, entries => alter step (fun
    | none => (put number key v path []).map (.table (.dotted number))
    | some (.table origin entries) =>
      if isOpenTo number origin then
        (put number key v path entries).map (.table (.dotted number))
      else none
    | some _ => none) entries

/-- Put a value at a dotted path whose last step is the key. -/
def putAt (number : Nat) (path : List String) (v : Value) (entries : Entries) : Option Entries :=
  match path.getLast? with
  | some key => put number key v path.dropLast entries
  | none => none

end Entries

end AddonPicker.Toml
