import AddonPicker.Catalog.Attribute

/-!
# Records

What all catalogue records share: a title for messages, declared fields, unknown keys that are
kept or dropped, and two dumps, one under the names of the fields and one under their wire keys.

A record that was read is well typed. Its owner may later change attributes without any check;
`Edited` is a record together with such changes, which shadow the fields they name.
-/

namespace AddonPicker

/-- A type of catalogue records. -/
class Record (α : Type) where
  /-- The name of the record type in messages. -/
  title : String
  /-- The declared fields, in order. -/
  fields : List Field
  /-- Whether unknown keys are kept. -/
  keepsExtras : Bool
  /-- Whether a record can never change. -/
  frozen : Bool
  /-- The operations of its own that every record of the type has. -/
  operations : List String := []
  /-- Read a record from the fields of an object. -/
  ofFields : Fields → Checked α
  /-- The contents of the declared fields under their names. -/
  named : α → Fields
  /-- The contents of the declared fields under their wire keys. -/
  keyed : α → Fields
  /-- The unknown keys that were kept. -/
  extras : α → Fields

namespace Record

variable {α : Type} [Record α]

/-- Read a record. -/
def read : Value → Checked α :=
  Read.record (title α) ofFields

/-- Read a record, or fail with all its issues. -/
def ofValue (v : Value) : Except Fault α :=
  match (read v : Checked α) with
  | .valid a => .ok a
  | .invalid issues => .error (.invalid issues)

/-- The mark under which a description shows kept unknown keys. -/
def extrasMark : String := "$extra"

/-- Fields under their names, kept unknown keys under a mark of their own. -/
def describeFields (named extras : Fields) : Value :=
  .dict (if extras.isEmpty then named else named ++ [(extrasMark, .dict extras)])

/-- Describe a record by the names of its fields. -/
def describe (a : α) : Value :=
  describeFields (named a) (extras a)

/-- The dump that can be read again: contents under wire keys, kept unknown keys beside them. -/
def dump (a : α) : Value :=
  .dict (keyed a ++ extras a)

/-- Equality of records: contents and kept unknown keys agree. -/
def agrees (a b : α) : Bool :=
  (Value.dict (named a)).agrees (.dict (named b)) &&
    (Value.dict (extras a)).agrees (.dict (extras b))

end Record

/-- A record and the unchecked changes made to it since it was read. -/
structure Edited (α : Type) where
  base : α
  /-- What was set among the attributes, the last value of each. -/
  edits : Fields := []
  /-- The unknown keys by now. -/
  extras : Fields := []
  /-- Whether the contents that the record was read with are gone. -/
  isStripped : Bool := false

namespace Edited

variable {α : Type} [Record α]

/-- A record as it was read. -/
def ofBase (a : α) : Edited α := { base := a, extras := Record.extras a }

/-- The name of a declared field. -/
def isField (α : Type) [Record α] (name : String) : Bool :=
  (Record.fields α).any (·.name == name)

/-- Where a value goes that is set under a name. Of the names that are no fields, those of shared
attributes shadow the attribute; all others become unknown keys where these are kept. -/
def place (α : Type) [Record α] (name : String) (v : Value) : Except Fault Place :=
  if Attribute.isPrivate name then Attribute.privatePlace (Record.title α) name v
  else if Record.frozen α then .error (.invalid [⟨[name], .frozen⟩])
  else if Attribute.computed.contains name then .error (.noSetter (Record.title α) name)
  else if isField α name then .ok .attribute
  else if !Record.keepsExtras α then .error (.noField (Record.title α) name)
  else if (Attribute.shared ++ Record.operations α).contains name then .ok .attribute
  else .ok .unknownKey

/-- The fields of a value that is put in place of others, none if it has none. -/
def fieldsOf : Value → Fields
  | .dict fields => fields
  | _ => []

/-- Put a value at its place. -/
def put (name : String) (v : Value) (e : Edited α) : Place → Edited α
  | .attribute => { e with edits := Value.store name v e.edits }
  | .unknownKey => { e with extras := Value.store name v e.extras }
  | .allAttributes => { e with edits := fieldsOf v, isStripped := true }
  | .allUnknownKeys => { e with extras := fieldsOf v }
  | .hidden => e

/-- Set an attribute without any check of the value. Only a text is a name. -/
def assign (name v : Value) (e : Edited α) : Except Fault (Edited α) :=
  match name with
  | .str name => (place α name v).map (e.put name v)
  | other => .error (.notName other.typeName)

/-- The attributes by now: the declared fields with the values last set, and what was set beside
them. -/
def attributes (e : Edited α) : Fields :=
  e.edits.foldl (fun done (name, v) => Value.store name v done)
    (if e.isStripped then [] else Record.named e.base)

/-- Describe a record with its changes. -/
def describe (e : Edited α) : Value :=
  Record.describeFields e.attributes e.extras

/-- The current value of an attribute. -/
def value? (e : Edited α) (name : String) : Option Value :=
  Value.lookup name e.attributes

/-- The current value of a declared field. -/
def value (e : Edited α) (name : String) : Value :=
  (e.value? name).getD .null

end Edited

end AddonPicker
