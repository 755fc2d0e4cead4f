import AddonPicker.Catalog.Checked
import AddonPicker.Fault

/-!
# Attributes of records

A record has attributes beside its declared fields: operations and descriptions that all records
share, and the books that a record keeps about itself. Their names are not reserved, so a value
may be set under any of them without a check, and the name decides where the value goes.

A name that starts with an underscore is private and stays out of every rule about fields: it is
accepted even by records that never change. Behind a few private names stand the parts of the
record itself, which are replaced as a whole or not at all.
-/

namespace AddonPicker

/-- Where a value goes that is set under a name. -/
inductive Place
  /-- Among the attributes of the record. -/
  | attribute
  /-- Among the unknown keys that the record keeps. -/
  | unknownKey
  /-- In place of all attributes, declared fields included. -/
  | allAttributes
  /-- In place of all unknown keys. -/
  | allUnknownKeys
  /-- Where nothing shows it. -/
  | hidden
deriving DecidableEq, Repr, Inhabited

namespace Attribute

/-- The operations and descriptions that every type of records has. -/
def shared : List String :=
  ["construct", "copy", "dict", "from_orm", "json", "model_computed_fields", "model_config",
    "model_construct", "model_copy", "model_dump", "model_dump_json", "model_fields",
    "model_json_schema", "model_parametrized_name", "model_post_init", "model_rebuild",
    "model_validate", "model_validate_json", "model_validate_strings", "mro", "parse_file",
    "parse_obj", "parse_raw", "register", "schema", "schema_json", "update_forward_refs",
    "validate"]

/-- What every record computes about itself, which cannot be set. -/
def computed : List String := ["model_extra", "model_fields_set"]

/-- Whether a name is private. -/
def isPrivate (name : String) : Bool :=
  name.startsWith "_"

/-- What begins the names of the books of a record and of its type. -/
def bookMark : String := "__pydantic_"

/-- The private names of what a type holds for all its records. -/
def heldByType : List String :=
  ["__class_vars__", "__private_attributes__", "__signature__"] ++
    ["complete__", "computed_fields__", "core_schema__", "custom_init__", "decorators__",
      "fields__", "generic_metadata__", "parent_namespace__", "post_init__", "root_model__",
      "serializer__", "setattr_handlers__", "validator__"].map (bookMark ++ ·)

/-- The private name behind which the attributes stand. -/
def attributesName : String := "__dict__"

/-- The private name behind which the unknown keys stand. -/
def unknownKeysName : String := bookMark ++ "extra__"

/-- The private names behind which stands what no description shows. -/
def hiddenNames : List String := ["fields_set__", "private__"].map (bookMark ++ ·)

/-- Where a value goes that is set under a private name of a record with a title. -/
def privatePlace (title name : String) (v : Value) : Except Fault Place :=
  if heldByType.contains name then .error (.heldByType title name)
  else if name = "__fields_set__" then .error (.noSetter title name)
  else if name = "__weakref__" then .error (.notWritable title name)
  else if name = "__class__" then .error (.notType v.typeName)
  else if name = attributesName then
    match v with
    | .dict _ => .ok .allAttributes
    | v => .error (.notAttributes v.typeName)
  else if name = unknownKeysName then .ok .allUnknownKeys
  else if hiddenNames.contains name then .ok .hidden
  else .ok .attribute

end Attribute

end AddonPicker
