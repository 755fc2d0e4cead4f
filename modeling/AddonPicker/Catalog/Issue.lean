/-!
# Issues of validation

What is wrong with a catalogue record, and where. A record is checked field by field and all its
issues are reported together.
-/

namespace AddonPicker

/-- What is wrong with one value. -/
inductive Problem
  | missing
  | notString
  | notList
  | notInteger
  | notFinite
  | fractionalInteger
  | hugeInteger
  | notBoolean
  | unreadableBoolean
  | notOneOf (choices : List String)
  | notRecord (name : String)
  | frozen
deriving DecidableEq, Repr, Inhabited

namespace Problem

/-- Join choices in the manner of a sentence: commas, and `or` before the last. -/
def orList : List String → String
  | [] => ""
  | [a] => a
  | [a, b] => a ++ " or " ++ b
  | a :: rest => a ++ ", " ++ orList rest

/-- The wording of a problem. -/
def message : Problem → String
  | .missing => "Field required"
  | .notString => "Input should be a valid string"
  | .notList => "Input should be a valid list"
  | .notInteger => "Input should be a valid integer"
  | .notFinite => "Input should be a finite number"
  | .fractionalInteger =>
    "Input should be a valid integer, got a number with a fractional part"
  | .hugeInteger => "Unable to parse input string as an integer, exceeded maximum size"
  | .notBoolean => "Input should be a valid boolean"
  | .unreadableBoolean => "Input should be a valid boolean, unable to interpret input"
  | .notOneOf choices => "Input should be " ++ orList (choices.map fun c => "'" ++ c ++ "'")
  | .notRecord name => "Input should be a valid dictionary or instance of " ++ name
  | .frozen => "Instance is frozen"

/-- The name of a kind of problem, under which the reference of problems explains it. -/
def code : Problem → String
  | .missing => "missing"
  | .notString => "string_type"
  | .notList => "list_type"
  | .notInteger => "int_type"
  | .notFinite => "finite_number"
  | .fractionalInteger => "int_from_float"
  | .hugeInteger => "int_parsing_size"
  | .notBoolean => "bool_type"
  | .unreadableBoolean => "bool_parsing"
  | .notOneOf _ => "enum"
  | .notRecord _ => "model_type"
  | .frozen => "frozen_instance"

end Problem

/-- A problem and the path of keys and list positions that leads to it. -/
structure Issue where
  path : List String
  problem : Problem
deriving DecidableEq, Repr, Inhabited

namespace Issue

/-- The wording of an issue: its path, then its problem. -/
def message (i : Issue) : String :=
  ".".intercalate i.path ++ ": " ++ i.problem.message

/-- The long wording of the only issue of a record, on lines of its own: the record, the path, the
problem with the offending value and its type, and where the reference of problems explains it. -/
def report (reference record given type : String) (i : Issue) : String :=
  "1 validation error for " ++ record ++ "\n" ++ ".".intercalate i.path ++ "\n  " ++
    i.problem.message ++ " [type=" ++ i.problem.code ++ ", input_value=" ++ given ++
    ", input_type=" ++ type ++ "]\n    For further information visit " ++ reference ++
    i.problem.code

/-- Put a step in front of the path. -/
def inside (step : String) (i : Issue) : Issue :=
  { i with path := step :: i.path }

end Issue

end AddonPicker
