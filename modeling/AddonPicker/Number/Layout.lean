import AddonPicker.Number.Shortest

/-!
# Layouts of numbers

How the digits of a double are set out as text: which exponents are written positionally, how the
exponent is marked, what the special values are called. A layout is a record of those decisions;
which digits there are is settled before.
-/

namespace AddonPicker

/-- The decisions of a text form for doubles. -/
structure Layout where
  /-- The least exponent of the leading digit that is written positionally. -/
  least : Int
  /-- The least exponent of the leading digit that is written with a power of ten again. -/
  bound : Int
  /-- What follows a whole number that is written positionally. -/
  whole : String
  /-- The mark before the exponent. -/
  mark : String
  /-- The least number of digits of the exponent, its sign always being written. -/
  width : Nat
  infinity : String
  notANumber : String
deriving Repr

namespace Layout

/-- Fill up with zeros on the left. -/
def pad (width : Nat) (digits : String) : String :=
  String.ofList (List.replicate (width - digits.length) '0') ++ digits

/-- Digits without a power of ten. -/
def positional (l : Layout) (d : Decimal) : String :=
  let digits := toString d.digits
  if 0 ≤ d.exponent then digits ++ String.ofList (List.replicate d.exponent.toNat '0') ++ l.whole
  else
    let places := (-d.exponent).toNat
    let all := (pad (places + 1) digits).toList
    let cut := all.length - places
    String.ofList (all.take cut) ++ "." ++ String.ofList (all.drop cut)

/-- Digits with one place before the point and a power of ten. -/
def scientific (l : Layout) (d : Decimal) : String :=
  let exponent := d.leading
  let sign := if exponent < 0 then "-" else "+"
  let power := l.mark ++ sign ++ pad l.width (toString exponent.natAbs)
  match (toString d.digits).toList with
  | [] => power
  | [c] => c.toString ++ power
  | c :: rest => c.toString ++ "." ++ String.ofList rest ++ power

/-- The text of a double under a layout. -/
def render (l : Layout) : Binary64 → String
  | .nan => l.notANumber
  | .infinite negative => (if negative then "-" else "") ++ l.infinity
  | .finite negative m e =>
    let d := if m = 0 then ⟨0, 0⟩ else Binary64.shortest m e
    let body := if l.least ≤ d.leading ∧ d.leading < l.bound then l.positional d else l.scientific d
    (if negative then "-" else "") ++ body

end Layout

end AddonPicker
