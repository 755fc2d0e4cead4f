import AddonPicker.Catalog.Identity
import AddonPicker.Catalog.Issue

/-!
# Checking records

Readers that turn values of unknown shape into typed contents. A reader yields either a content or
everything that is wrong with the value; records are read field by field, and the issues of all
fields are kept in the order in which the record declares its fields.

A field may be given under its wire key or under its own name. The wire key wins; the other then
is an unknown key like any.
-/

namespace AddonPicker

/-- The outcome of checking: a content, or all the issues. -/
inductive Checked (α : Type)
  | valid (a : α)
  | invalid (issues : List Issue)
deriving Repr

namespace Checked

variable {α β : Type}

/-- Change a valid content. -/
def map (f : α → β) : Checked α → Checked β
  | .valid a => .valid (f a)
  | .invalid issues => .invalid issues

/-- Supply one more part. The issues of both sides are kept, those of the earlier part first. -/
def ap : Checked (α → β) → Checked α → Checked β
  | .valid f, .valid a => .valid (f a)
  | .valid _, .invalid issues => .invalid issues
  | .invalid issues, .valid _ => .invalid issues
  | .invalid issues, .invalid more => .invalid (issues ++ more)

@[simp] theorem map_valid (f : α → β) (a : α) : (valid a).map f = .valid (f a) := rfl

@[simp] theorem ap_valid (f : α → β) (a : α) : (valid f).ap (.valid a) = .valid (f a) := rfl

/-- Supplying a part yields a valid content exactly if both sides are valid. -/
theorem ap_eq_valid_iff {f : Checked (α → β)} {x : Checked α} {b : β} :
    f.ap x = .valid b ↔ ∃ g a, f = .valid g ∧ x = .valid a ∧ g a = b := by
  cases f <;> cases x <;> simp [ap]

/-- Put a step in front of the path of every issue. -/
def inside (step : String) : Checked α → Checked α
  | .valid a => .valid a
  | .invalid issues => .invalid (issues.map (Issue.inside step))

/-- The outcome of a value that has one problem. -/
def problem (p : Problem) : Checked α :=
  .invalid [⟨[], p⟩]

end Checked

/-- The fields of an object. -/
abbrev Fields := List (String × Value)

/-- A declared field: the key under which it is written, and its name in the record. -/
structure Field where
  key : String
  name : String
deriving DecidableEq, Repr

namespace Field

/-- A field whose key is its name. -/
def plain (name : String) : Field := ⟨name, name⟩

/-- The key under which a field is given, and its value. -/
def find? (f : Field) (data : Fields) : Option (String × Value) :=
  match Value.lookup f.key data with
  | some v => some (f.key, v)
  | none => (Value.lookup f.name data).map fun v => (f.name, v)

/-- Read a field that must be given. -/
def required {α : Type} (f : Field) (read : Value → Checked α) (data : Fields) : Checked α :=
  match f.find? data with
  | some (key, v) => (read v).inside key
  | none => .invalid [⟨[f.key], .missing⟩]

/-- Read a field that has a default. -/
def withDefault {α : Type} (f : Field) (default : α) (read : Value → Checked α) (data : Fields) :
    Checked α :=
  match f.find? data with
  | some (key, v) => (read v).inside key
  | none => .valid default

/-- The keys that some declared field takes its value from. -/
def consumed (fields : List Field) (data : Fields) : List String :=
  fields.filterMap fun f => (f.find? data).map (·.1)

/-- The given fields that no declared field takes. -/
def extras (fields : List Field) (data : Fields) : Fields :=
  data.filter fun kv => !(consumed fields data).contains kv.1

end Field

namespace Read

variable {α : Type}

/-- A text. -/
def text : Value → Checked String
  | .str s => .valid s
  | _ => .problem .notString

/-- A content or nothing. -/
def optional (read : Value → Checked α) : Value → Checked (Option α)
  | .null => .valid none
  | v => (read v).map some

/-- The elements of a list, each at its position. -/
def elements (read : Value → Checked α) : Nat → List Value → Checked (List α)
  | _, [] => .valid []
  | n, v :: rest =>
    (((read v).inside (toString n)).map List.cons).ap (elements read (n + 1) rest)

/-- A list. -/
def list (read : Value → Checked α) : Value → Checked (List α)
  | .list vs => elements read 0 vs
  | _ => .problem .notList

/-- Whether a number fits into 64 bits with a sign. -/
def fits64 (i : Int) : Bool :=
  -(twoTo 63 : Int) ≤ i && i < twoTo 63

/-- The whole numbers that a double may stand for: those strictly between the powers of two that
bound 64 bits. -/
def fitsDouble (i : Int) : Bool :=
  -(twoTo 63 : Int) < i && i < twoTo 63

/-- The number of an id. A truth value is zero or one, and a double counts if it is whole and fits
into 64 bits. -/
def idNumber : Value → Except Problem Int
  | .int i => .ok i
  | .bool b => .ok (if b then 1 else 0)
  | .float (.finite s m e) =>
    match Binary64.toInt? (.finite s m e) with
    | some i => if fitsDouble i then .ok i else .error .hugeInteger
    | none => .error .fractionalInteger
  | .float _ => .error .notFinite
  | _ => .error .notInteger

/-- The id of a pack: a text or a number. A value that is neither has two issues, one for each
way of reading it. -/
def addonId : Value → Checked AddonId
  | .str s => .valid (.text s)
  | v =>
    match idNumber v with
    | .ok i => .valid (.number i)
    | .error p => .invalid [⟨["str"], .notString⟩, ⟨["int"], p⟩]

/-- The words for the two truth values. -/
def truthWord? (s : String) : Option Bool :=
  if ["0", "off", "f", "false", "n", "no"].contains s then some false
  else if ["1", "on", "t", "true", "y", "yes"].contains s then some true
  else none

/-- The truth value of a number. -/
def truthNumber (i : Int) : Checked Bool :=
  if i = 0 then .valid false
  else if i = 1 then .valid true
  else .problem .unreadableBoolean

/-- A truth value, also given as zero or one or as one of the usual words in any case. Numbers
outside 64 bits and numbers with a fraction do not count as numbers here. -/
def truth : Value → Checked Bool
  | .bool b => .valid b
  | .int i => if fits64 i then truthNumber i else .problem .notBoolean
  | .float x =>
    match x.toInt? with
    | some i => if fitsDouble i then truthNumber i else .problem .notBoolean
    | none => .problem .notBoolean
  | .str s =>
    match truthWord? (s.map Char.toLower) with
    | some b => .valid b
    | none => .problem .unreadableBoolean
  | _ => .problem .notBoolean

/-- One of the words of a closed list. -/
def oneOf (choices : List String) (ofWord? : String → Option α) : Value → Checked α
  | .str s =>
    match ofWord? s with
    | some a => .valid a
    | none => .problem (.notOneOf choices)
  | _ => .problem (.notOneOf choices)

/-- A provider, by its id. -/
def provider : Value → Checked Provider :=
  oneOf (Provider.all.map Provider.id) Provider.ofId?

/-- The kind of a declared dependency, by its word. -/
def dependencyKind : Value → Checked DependencyKind :=
  oneOf (DependencyKind.all.map DependencyKind.word) DependencyKind.ofWord?

/-- A record, by the fields of an object. -/
def record (title : String) (read : Fields → Checked α) : Value → Checked α
  | .dict fields => read fields
  | _ => .problem (.notRecord title)

end Read

end AddonPicker
