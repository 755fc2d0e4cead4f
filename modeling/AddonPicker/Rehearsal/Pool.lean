import AddonPicker.Catalog.Closure
import AddonPicker.Selection.Store

/-!
# The pool of a rehearsal

The packs and versions that a rehearsed session deals with, under names of its own. Every version
of the pool is put into the store first, in order, so its identity is its position in the pool;
versions that come later, such as copies made by a merge, are not in the pool.
-/

namespace AddonPicker.Rehearsal

/-- Packs and versions under names. -/
structure Pool where
  packs : List (String × Pack)
  versions : List (String × Version)

namespace Pool

/-- Read named records in order. -/
def readAll {α : Type} [Record α] (data : Fields) : Except Fault (List (String × α)) :=
  data.mapM fun (ref, v) => do return (ref, ← Record.ofValue v)

/-- Read a pool: first the packs, then the versions. -/
def read (packs versions : Fields) : Except Fault Pool := do
  return ⟨← readAll packs, ← readAll versions⟩

/-- The pack under a name. -/
def pack? (p : Pool) (ref : String) : Option Pack :=
  (p.packs.find? (·.1 == ref)).map (·.2)

/-- The identity of the version under a name. -/
def versionId? (p : Pool) (ref : String) : Option VersionId :=
  p.versions.findIdx? (·.1 == ref)

/-- The version under a name, as it is handed out. -/
def held? (p : Pool) (ref : String) : Option Held := do
  let id ← p.versionId? ref
  let (_, version) ← p.versions[id]?
  return { version, shared := some id }

/-- The name of the version with an identity, if it is one of the pool. -/
def ref? (p : Pool) (id : VersionId) : Option String :=
  p.versions[id]?.map (·.1)

/-- The store that holds the pool. -/
def store (p : Pool) : Store where
  versions := p.versions.map fun v => .ofBase v.2

/-- How many dependencies the versions of the pool declare. -/
def declared (p : Pool) : Nat :=
  p.versions.foldl (fun n v => n + v.2.dependencies.length) 0

end Pool

end AddonPicker.Rehearsal
