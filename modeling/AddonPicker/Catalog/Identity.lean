import AddonPicker.Value.Text

/-!
# Identities

The names that a catalogue uses for what it offers: its providers, the ids of packs, and the
relations between a version and the packs it declares.
-/

namespace AddonPicker

/-- A catalogue that packs come from. -/
inductive Provider
  | modrinth
  | curseForge
deriving DecidableEq, Repr, Inhabited

namespace Provider

/-- Every provider, in the order in which messages list them. -/
def all : List Provider := [.modrinth, .curseForge]

/-- The id of a provider. -/
def id : Provider → String
  | .modrinth => "modrinth"
  | .curseForge => "curseforge"

/-- The provider with an id. -/
def ofId? (s : String) : Option Provider :=
  all.find? (·.id == s)

/-- The provider whose id a value is. -/
def ofValue? : Value → Option Provider
  | .str s => ofId? s
  | _ => none

/-- The quoted form of a provider, as a message about a missing key shows it. -/
def quoted : Provider → String
  | .modrinth => "<ResourceProvider.MODRINTH: 'modrinth'>"
  | .curseForge => "<ResourceProvider.FLAME: 'curseforge'>"

theorem ofId?_id (p : Provider) : ofId? p.id = some p := by
  cases p <;> decide

end Provider

/-- The id of a pack. Some catalogues number their packs and some name them; a number never equals
a text that spells it. -/
inductive AddonId
  | text (s : String)
  | number (i : Int)
deriving DecidableEq, Repr, Inhabited

namespace AddonId

/-- An id as a value. -/
def toValue : AddonId → Value
  | .text s => .str s
  | .number i => .int i

end AddonId

/-- What a declared pack is to the version that declares it. -/
inductive DependencyKind
  | required
  | optional
  | incompatible
  | embedded
  | tool
  | include
  | unknown
deriving DecidableEq, Repr, Inhabited

namespace DependencyKind

/-- Every kind, in the order in which messages list them. -/
def all : List DependencyKind :=
  [.required, .optional, .incompatible, .embedded, .tool, .include, .unknown]

/-- The word for a kind. -/
def word : DependencyKind → String
  | .required => "required"
  | .optional => "optional"
  | .incompatible => "incompatible"
  | .embedded => "embedded"
  | .tool => "tool"
  | .include => "include"
  | .unknown => "unknown"

/-- The kind of a word. -/
def ofWord? (s : String) : Option DependencyKind :=
  all.find? (·.word == s)

theorem ofWord?_word (k : DependencyKind) : ofWord? k.word = some k := by
  cases k <;> decide

end DependencyKind

end AddonPicker
