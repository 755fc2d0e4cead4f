import AddonPicker.Catalog.Identity
import AddonPicker.Fault
import AddonPicker.ResourceKind

/-!
# Installation targets

The folder that downloads end up in, what it is a folder of, and what is installed in it already.
Only folders of mods keep track of dependencies, so only they take part in resolution.
-/

namespace AddonPicker

/-- What a folder is a folder of. -/
inductive FolderType
  | plain
  | mods
  | resourcePacks
  | texturePacks
  | shaderPacks
deriving DecidableEq, Repr, Inhabited

namespace FolderType

/-- Every type of folder. -/
def all : List FolderType := [.plain, .mods, .resourcePacks, .texturePacks, .shaderPacks]

/-- The name of a type of folder. -/
def title : FolderType → String
  | .plain => "ResourceFolderModel"
  | .mods => "ModFolderModel"
  | .resourcePacks => "ResourcePackFolderModel"
  | .texturePacks => "TexturePackFolderModel"
  | .shaderPacks => "ShaderPackFolderModel"

/-- The type of folder with a name. -/
def ofTitle? (s : String) : Option FolderType :=
  all.find? (·.title == s)

/-- The kind of resource that is installed. -/
def kind : FolderType → ResourceKind
  | .plain => .mods
  | .mods => .mods
  | .resourcePacks => .resourcePacks
  | .texturePacks => .texturePacks
  | .shaderPacks => .shaderPacks

/-- Whether packs installed there declare dependencies on each other. -/
def tracksDependencies : FolderType → Bool
  | .mods => true
  | _ => false

end FolderType

/-- A folder inside a game instance. The ids of installed packs are pairwise different. -/
structure Target where
  type : FolderType := .mods
  folder : Value := .str "mods"
  installed : List Value := []
  gameVersion : Value := .null
  loaders : List Value := []
deriving Repr, Inhabited

namespace Target

/-- The members of a value that may be left out: anything that counts as false has none. -/
def membersOf (v : Value) : Except Fault (List Value) :=
  if v.isTrue then
    match v.members? with
    | some xs => .ok xs
    | none => .error (.notIterable v.typeName)
  else .ok []

/-- Put an id into a set of ids. -/
def insert (ids : List Value) (id : Value) : List Value :=
  if ids.any id.isSameMember then ids else ids ++ [id]

/-- The set of the members of a list, all of which have to be hashable. -/
def setOf (xs : List Value) : Except Fault (List Value) :=
  match xs.find? (!·.isHashable) with
  | some x => .error (.unhashable x.typeName)
  | none => .ok (xs.foldl insert [])

/-- Make a target from unchecked parts. -/
def make (type : FolderType) (folder installed gameVersion loaders : Value) :
    Except Fault Target := do
  let installed ← setOf (← membersOf installed)
  let loaders ← membersOf loaders
  return { type, folder, installed, gameVersion, loaders }

/-- Whether a value is among the installed ids. -/
def holds (t : Target) (id : Value) : Except Fault Bool :=
  if id.isHashable then .ok (t.installed.any id.isSameMember) else .error (.unhashable id.typeName)

/-- Whether a pack is installed. -/
def isInstalled (t : Target) (id : AddonId) : Bool :=
  t.installed.any id.toValue.agrees

/-- How a message shows a target. -/
def text (t : Target) : String :=
  t.type.title ++ "(folder=" ++ t.folder.text ++ ", installed=" ++
    toString t.installed.length ++ ")"

end Target

end AddonPicker
