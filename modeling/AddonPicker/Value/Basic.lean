import AddonPicker.Value.Moment

/-!
# Values

The values that catalogue answers, settings and configuration files are made of, before anything
has checked their shape. Tables keep the order in which their keys were written.

Truth values count as numbers when values are compared: `true` is `1`, which is also `1.0`. No
text equals a number.
-/

namespace AddonPicker

/-- A value of unknown shape. -/
inductive Value
  | null
  | bool (b : Bool)
  | int (i : Int)
  | float (x : Binary64)
  | str (s : String)
  | list (xs : List Value)
  | dict (fields : List (String × Value))
  | moment (m : Moment)
deriving Repr, Inhabited

namespace Value

/-- A list of texts as a value. -/
def strings (xs : List String) : Value :=
  .list (xs.map .str)

/-- The most digits with which a whole number is read and shown in base ten. -/
def maxDigits : Nat := 4300

/-- The name of the type of a value, as messages show it. -/
def typeName : Value → String
  | .null => "NoneType"
  | .bool _ => "bool"
  | .int _ => "int"
  | .float _ => "float"
  | .str _ => "str"
  | .list _ => "list"
  | .dict _ => "dict"
  | .moment m => m.typeName

/-- The truth value of a value: empty containers, zeros and the absent value count as false. -/
def isTrue : Value → Bool
  | .null => false
  | .bool b => b
  | .int i => i != 0
  | .float x => !x.isZero
  | .str s => !s.isEmpty
  | .list xs => !xs.isEmpty
  | .dict fields => !fields.isEmpty
  | .moment _ => true

/-- Whether a value can be a member of a set: containers that can change cannot. -/
def isHashable : Value → Bool
  | .list _ => false
  | .dict _ => false
  | _ => true

/-- The whole number that a value counts as. -/
def wholeNumber? : Value → Option Int
  | .bool b => some (if b then 1 else 0)
  | .int i => some i
  | .float x => x.toInt?
  | _ => none

/-- The value of a key, the first one if the key stands twice. -/
def lookup (key : String) (fields : List (String × Value)) : Option Value :=
  (fields.find? (·.1 == key)).map (·.2)

/-- Store a value under a key: an existing key keeps its place, a new one goes to the end. -/
def store (key : String) (v : Value) (fields : List (String × Value)) : List (String × Value) :=
  if fields.any (·.1 == key) then fields.map fun kv => if kv.1 == key then (key, v) else kv
  else fields ++ [(key, v)]

@[simp] theorem lookup_nil (key : String) : lookup key [] = none := rfl

theorem lookup_cons (key : String) (kv : String × Value) (fields : List (String × Value)) :
    lookup key (kv :: fields) = if kv.1 = key then some kv.2 else lookup key fields := by
  by_cases h : kv.1 = key <;> simp [lookup, h]

/-- Storing under one key touches no other. -/
theorem lookup_store_of_ne {key other : String} (h : key ≠ other) (v : Value)
    (fields : List (String × Value)) :
    lookup other (store key v fields) = lookup other fields := by
  unfold store
  split
  · rename_i present
    clear present
    induction fields with
    | nil => rfl
    | cons kv rest ih =>
      rw [List.map_cons, lookup_cons, lookup_cons, ih]
      by_cases same : kv.1 = key
      · simp [same, h]
      · simp [same]
  · rename_i absent
    clear absent
    induction fields with
    | nil => simp [lookup_cons, h]
    | cons kv rest ih => rw [List.cons_append, lookup_cons, lookup_cons, ih]

/-- Equality of two values that are no containers. -/
def sameScalar (a b : Value) : Bool :=
  match a, b with
  | .null, .null => true
  | .str s, .str t => s == t
  | .moment m, .moment n => m == n
  | .float x, .float y => x.sameNumber y
  | a, b =>
    match a.wholeNumber?, b.wholeNumber? with
    | some i, some j => i == j
    | _, _ => false

/-- Whether a value is the double that is no number. -/
def isNaN : Value → Bool
  | .float .nan => true
  | _ => false

mutual

/-- Equality of values: numbers by what they count as, lists by their members, tables by their
keys and values in whatever order. The double that is no number equals nothing, but a container
that holds it equals itself. -/
def agrees : Value → Value → Bool
  | .list xs, .list ys => agreesAll xs ys
  | .dict fields, .dict others => fields.length == others.length && agreesFields fields others
  | a, b => sameScalar a b

/-- Equality of lists, member by member. -/
def agreesAll : List Value → List Value → Bool
  | [], [] => true
  | x :: xs, y :: ys => (x.isNaN && y.isNaN || agrees x y) && agreesAll xs ys
  | _, _ => false

/-- Whether every field is found in the other table with an equal value. -/
def agreesFields : List (String × Value) → List (String × Value) → Bool
  | [], _ => true
  | (key, v) :: rest, others =>
    (match lookup key others with
      | some w => v.isNaN && w.isNaN || agrees v w
      | none => false) && agreesFields rest others

end

/-- Whether two values are the same member of a set, or the same key of a table: if they are equal,
or if they are both the double that is no number. -/
def isSameMember (a b : Value) : Bool :=
  a.isNaN && b.isNaN || a.agrees b

/-- The members of a value that can be gone through: of a list its elements, of a text its
characters, of a table its keys. -/
def members? : Value → Option (List Value)
  | .list xs => some xs
  | .str s => some (s.toList.map fun c => .str c.toString)
  | .dict fields => some (fields.map fun kv => .str kv.1)
  | _ => none

end Value

end AddonPicker
