import AddonPicker.Number.Binary64
import AddonPicker.Text.Numeral
import AddonPicker.Value.Basic

/-!
# Numbers

Whole numbers in base ten, or in base sixteen, eight or two after a mark; doubles with a fraction,
a power of ten or both; infinities and the value that is no number. Single underscores may stand
between two digits. A leading zero stands alone before a fraction, a power or the end.

A whole number in base ten has a greatest length. One that is longer is refused for that, which is
a flaw of its own; the other bases know no such bound.
-/

namespace AddonPicker.Toml

/-- Why reading a document fails. -/
inductive Flaw
  /-- The text is no document. -/
  | malformed
  /-- A whole number in base ten has too many digits. -/
  | longNumeral (digits : Nat)
deriving DecidableEq, Repr

/-- What has to be there for a text to be a document. -/
def expected {α : Type} : Option α → Except Flaw α
  | some a => .ok a
  | none => .error .malformed

@[simp] theorem expected_some {α : Type} (a : α) : expected (some a) = .ok a := rfl

@[simp] theorem expected_none {α : Type} : expected (none : Option α) = .error .malformed := rfl

/-- Split off the digits after a first one, with single underscores between them dropped. -/
def moreDigits (base : Nat) : List Char → List Char × List Char
  | [] => ([], [])
  | '_' :: c :: rest =>
    if Text.isDigitOf base c then
      let (digits, rest) := moreDigits base rest
      (c :: digits, rest)
    else ([], '_' :: c :: rest)
  | c :: rest =>
    if Text.isDigitOf base c then
      let (digits, rest) := moreDigits base rest
      (c :: digits, rest)
    else ([], c :: rest)

/-- Read a run of digits. -/
def readDigits (base : Nat) : List Char → Option (List Char × List Char)
  | [] => none
  | c :: rest =>
    if Text.isDigitOf base c then
      let (digits, rest) := moreDigits base rest
      some (c :: digits, rest)
    else none

/-- Read a sign, if there is one: whether it is a minus. -/
def readSign : List Char → Bool × List Char
  | '-' :: rest => (true, rest)
  | '+' :: rest => (false, rest)
  | cs => (false, cs)

/-- Give a number a sign. -/
def signed (negative : Bool) (n : Nat) : Int :=
  if negative then -(n : Int) else n

/-- Read the digits after a point, if there are any. -/
def readFraction (cs : List Char) : List Char × List Char :=
  match cs with
  | '.' :: rest => (readDigits 10 rest).getD ([], cs)
  | cs => ([], cs)

/-- Read a power of ten, if there is one. -/
def readPower (cs : List Char) : Option Int × List Char :=
  match cs with
  | [] => (none, [])
  | c :: rest =>
    if c = 'e' ∨ c = 'E' then
      let (negative, rest) := readSign rest
      match readDigits 10 rest with
      | some (digits, rest) => (some (signed negative (Text.numeral 10 digits)), rest)
      | none => (none, cs)
    else (none, cs)

/-- Read the digits before the point: a zero, or a run that begins with another digit. -/
def readWhole : List Char → Option (List Char × List Char)
  | '0' :: rest => some (['0'], rest)
  | cs => readDigits 10 cs

/-- Read a number in base ten after its sign. -/
def readDecimal (negative : Bool) (cs : List Char) : Except Flaw (Value × List Char) := do
  let (whole, rest) ← expected (readWhole cs)
  let (places, rest) := readFraction rest
  let (power, rest) := readPower rest
  let number := Text.numeral 10 (whole ++ places)
  if !places.isEmpty || power.isSome then
    return (.float (.ofDecimal negative number (power.getD 0 - places.length)), rest)
  else if Value.maxDigits < whole.length then .error (.longNumeral whole.length)
  else return (.int (signed negative number), rest)

/-- Read a number in another base after its mark. -/
def readBased (base : Nat) (cs : List Char) : Except Flaw (Value × List Char) := do
  let (digits, rest) ← expected (readDigits base cs)
  return (.int (Text.numeral base digits), rest)

/-- Read a number. -/
def readNumber : List Char → Except Flaw (Value × List Char)
  | '0' :: 'x' :: rest => readBased 16 rest
  | '0' :: 'o' :: rest => readBased 8 rest
  | '0' :: 'b' :: rest => readBased 2 rest
  | cs =>
    let (negative, rest) := readSign cs
    match rest with
    | 'i' :: 'n' :: 'f' :: rest => .ok (.float (.infinite negative), rest)
    | 'n' :: 'a' :: 'n' :: rest => .ok (.float .nan, rest)
    | rest => readDecimal negative rest

end AddonPicker.Toml
