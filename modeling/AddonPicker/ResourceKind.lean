/-!
# Kinds of resources

What a download dialog can browse and install, with the words that its texts and settings use.
-/

namespace AddonPicker

/-- A kind of add-on content. -/
inductive ResourceKind
  | mods
  | resourcePacks
  | texturePacks
  | shaderPacks
deriving DecidableEq, Repr, Inhabited

namespace ResourceKind

/-- Every kind. -/
def all : List ResourceKind := [.mods, .resourcePacks, .texturePacks, .shaderPacks]

/-- The word for a kind in a configuration. -/
def word : ResourceKind → String
  | .mods => "mods"
  | .resourcePacks => "resourcepacks"
  | .texturePacks => "texturepacks"
  | .shaderPacks => "shaderpacks"

/-- The kind of a word. -/
def ofWord? (s : String) : Option ResourceKind :=
  all.find? (·.word == s)

/-- The readable plural in dialog texts. -/
def plural : ResourceKind → String
  | .mods => "mods"
  | .resourcePacks => "resource packs"
  | .texturePacks => "texture packs"
  | .shaderPacks => "shader packs"

/-- The title of a dialog. -/
def dialogTitle (k : ResourceKind) : String :=
  "Download " ++ k.plural

/-- The settings key for the window geometry of a dialog that is configured without one. -/
def geometryKey : ResourceKind → String
  | .mods => "ModDownloadGeometry"
  | .resourcePacks => "RPDownloadGeometry"
  | .texturePacks => "TPDownloadGeometry"
  | .shaderPacks => "ShaderDownloadGeometry"

theorem ofWord?_word (k : ResourceKind) : ofWord? k.word = some k := by
  cases k <;> decide

end ResourceKind

end AddonPicker
