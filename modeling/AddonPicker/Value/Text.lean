import AddonPicker.Text.Quoted
import AddonPicker.Value.Basic

/-!
# Text forms of values

How a message shows a value. A text stands as it is when it is shown alone and is quoted inside a
list or a table; every other value has one form.
-/

namespace AddonPicker.Value

/-- Doubles have the fewest digits that read back, positional from `0.0001` up to below `1e16`,
and an exponent of at least two digits. -/
def numberLayout : Layout where
  least := -4
  bound := 16
  whole := ".0"
  mark := "e"
  width := 2
  infinity := "inf"
  notANumber := "nan"

mutual

/-- The form inside a list or table. -/
def quoted : Value → String
  | .null => "None"
  | .bool b => if b then "True" else "False"
  | .int i => toString i
  | .float x => numberLayout.render x
  | .str s => Text.quoted s
  | .list xs => "[" ++ ", ".intercalate (quotedAll xs) ++ "]"
  | .dict fields =>
    String.singleton '{' ++ ", ".intercalate (quotedFields fields) ++ String.singleton '}'
  | .moment m => m.form

/-- The forms of the elements of a list. -/
def quotedAll : List Value → List String
  | [] => []
  | x :: xs => quoted x :: quotedAll xs

/-- The forms of the fields of a table. -/
def quotedFields : List (String × Value) → List String
  | [] => []
  | (key, v) :: rest => (Text.quoted key ++ ": " ++ quoted v) :: quotedFields rest

end

/-- The first whole number that has too many digits to be shown. -/
def tooLong : Nat := tenTo maxDigits

mutual

/-- Whether a value holds a whole number that has too many digits to be shown. -/
def isLong : Value → Bool
  | .int i => tooLong ≤ i.natAbs
  | .list xs => isLongAny xs
  | .dict fields => isLongFields fields
  | _ => false

/-- Whether an element of a list holds such a number. -/
def isLongAny : List Value → Bool
  | [] => false
  | x :: xs => isLong x || isLongAny xs

/-- Whether a field of a table holds such a number. -/
def isLongFields : List (String × Value) → Bool
  | [] => false
  | (_, v) :: rest => isLong v || isLongFields rest

end

/-- The form of a value that is shown alone. -/
def text : Value → String
  | .str s => s
  | .moment m => m.text
  | v => quoted v

end AddonPicker.Value
