import AddonPicker.Fault
import AddonPicker.Value.Basic

/-!
# Values against zero

Numbers and truth values compare with zero; nothing else does.
-/

namespace AddonPicker.Value

/-- Whether a value is zero or less. -/
def isNonPositive : Value → Except Fault Bool
  | .bool b => .ok !b
  | .int i => .ok (i ≤ 0)
  | .float x => .ok x.isNonPositive
  | v => .error (.unordered v.typeName)

end AddonPicker.Value
