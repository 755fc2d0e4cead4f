import AddonPicker.Catalog.Identity
import AddonPicker.Fault

/-!
# Naming of providers

A read-only table that gives each provider an id for pages and a readable name for messages. The
table is handed to whatever has to name a provider. It need not know every provider, and an entry
may be too short to hold both names.
-/

namespace AddonPicker

/-- A naming table. A later entry for a provider replaces an earlier one. -/
structure Naming where
  entries : List (Provider × List Value)
deriving Repr, Inhabited

namespace Naming

/-- The table that is used when none is given. -/
def standard : Naming where
  entries := [(.modrinth, [.str "modrinth", .str "Modrinth"]),
    (.curseForge, [.str "curseforge", .str "CurseForge"])]

/-- The entry of a provider. -/
def entry (n : Naming) (p : Provider) : Except Fault (List Value) :=
  match n.entries.reverse.find? (·.1 == p) with
  | some (_, names) => .ok names
  | none => .error (.missingKey p.quoted)

/-- One of the names of an entry. -/
def part (n : Naming) (p : Provider) (i : Nat) : Except Fault Value := do
  match (← n.entry p)[i]? with
  | some v => .ok v
  | none => .error .shortEntry

/-- The id of a provider. -/
def id (n : Naming) (p : Provider) : Except Fault Value :=
  n.part p 0

/-- The readable name of a provider. -/
def readable (n : Naming) (p : Provider) : Except Fault Value :=
  n.part p 1

/-- Both names of the provider with an id. -/
def lookUp (n : Naming) (id : Value) : Except Fault (Value × Value) :=
  match Provider.ofValue? id with
  | none => .error (.unknownProvider id.quoted)
  | some p => do
    let name ← n.id p
    let readable ← n.readable p
    return (name, readable)

end Naming

end AddonPicker
