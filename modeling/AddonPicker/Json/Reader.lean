import AddonPicker.Text.Numeral
import AddonPicker.Value.Basic

/-!
# Reading JSON

A reader for one JSON text. Numbers with a point or an exponent are doubles, all others whole
numbers of any size. The words `Infinity`, `-Infinity` and `NaN` stand for the doubles that have no
digits. A key that stands twice in an object keeps its first place and its last
value. Half of a surrogate pair names no character, so a text that holds one is refused.

Every function takes a bound on the work that is left. A bound above the length of the text is
never reached, which is what `read?` passes.
-/

namespace AddonPicker.Json

/-- The four blanks of JSON. -/
def isBlank (c : Char) : Bool :=
  c = ' ' || c = '\n' || c = '\r' || c = '\t'

/-- Drop leading blanks. -/
def skipBlanks (cs : List Char) : List Char :=
  cs.dropWhile isBlank

/-- Read the digits of a `\u` escape, and those of a second one if the first is the upper half of
a surrogate pair. -/
def readCodePoint (cs : List Char) : Option (Char × List Char) := do
  let (upper, rest) ← Text.readNumeral 16 4 cs
  if 0xd800 ≤ upper ∧ upper < 0xdc00 then
    match rest with
    | '\\' :: 'u' :: more =>
      let (lower, rest) ← Text.readNumeral 16 4 more
      if 0xdc00 ≤ lower ∧ lower < 0xe000 then
        return (Char.ofNat (0x10000 + (upper - 0xd800) * 0x400 + (lower - 0xdc00)), rest)
      else none
    | _ => none
  else if 0xdc00 ≤ upper ∧ upper < 0xe000 then none
  else return (Char.ofNat upper, rest)

/-- Read what follows a backslash. -/
def readEscape : List Char → Option (Char × List Char)
  | '"' :: rest => some ('"', rest)
  | '\\' :: rest => some ('\\', rest)
  | '/' :: rest => some ('/', rest)
  | 'b' :: rest => some ('\x08', rest)
  | 'f' :: rest => some ('\x0c', rest)
  | 'n' :: rest => some ('\n', rest)
  | 'r' :: rest => some ('\r', rest)
  | 't' :: rest => some ('\t', rest)
  | 'u' :: rest => readCodePoint rest
  | _ => none

/-- Read the rest of a text whose opening quote has been read. -/
def readText : Nat → List Char → Option (List Char × List Char)
  | 0, _ => none
  | _, [] => none
  | fuel + 1, c :: rest =>
    if c = '"' then some ([], rest)
    else if c = '\\' then do
      let (c, rest) ← readEscape rest
      let (cs, rest) ← readText fuel rest
      return (c :: cs, rest)
    else if c.val < 0x20 then none
    else do
      let (cs, rest) ← readText fuel rest
      return (c :: cs, rest)

/-- Split off leading decimal digits. -/
def splitDigits (cs : List Char) : List Char × List Char :=
  (cs.takeWhile Char.isDigit, cs.dropWhile Char.isDigit)

/-- Read the digits after a point, if there is one. -/
def readFraction : List Char → Option (Option (List Char) × List Char)
  | '.' :: rest =>
    match splitDigits rest with
    | ([], _) => none
    | (digits, rest) => some (some digits, rest)
  | cs => some (none, cs)

/-- Read a power of ten, if there is one. -/
def readExponent (cs : List Char) : Option (Option Int × List Char) :=
  match cs with
  | c :: rest =>
    if c = 'e' ∨ c = 'E' then
      let (negative, rest) := match rest with
        | '-' :: rest => (true, rest)
        | '+' :: rest => (false, rest)
        | rest => (false, rest)
      match splitDigits rest with
      | ([], _) => none
      | (digits, rest) =>
        let n : Int := Text.numeral 10 digits
        some (some (if negative then -n else n), rest)
    else some (none, cs)
  | [] => some (none, cs)

/-- Read a number. -/
def readNumber (cs : List Char) : Option (Value × List Char) := do
  let (negative, cs) := match cs with
    | '-' :: rest => (true, rest)
    | cs => (false, cs)
  let (whole, rest) := splitDigits cs
  match whole with
  | [] => none
  | ['0'] => pure ()
  | '0' :: _ => none
  | _ => pure ()
  let (fraction, rest) ← readFraction rest
  let (exponent, rest) ← readExponent rest
  match fraction, exponent with
  | none, none =>
    let n : Int := Text.numeral 10 whole
    return (.int (if negative then -n else n), rest)
  | fraction, exponent =>
    let places := fraction.getD []
    let power := exponent.getD 0 - places.length
    return (.float (.ofDecimal negative (Text.numeral 10 (whole ++ places)) power), rest)

/-- Read a word that stands for a value. -/
def readWord (word : String) (v : Value) (cs : List Char) : Option (Value × List Char) :=
  if word.toList.isPrefixOf cs then some (v, cs.drop word.length) else none

mutual

/-- Read a value. -/
def readValue : Nat → List Char → Option (Value × List Char)
  | 0, _ => none
  | fuel + 1, cs =>
    match skipBlanks cs with
    | [] => none
    | c :: rest =>
      if c = '"' then (readText (rest.length + 1) rest).map fun (s, rest) =>
        (.str (String.ofList s), rest)
      else if c = '[' then
        match skipBlanks rest with
        | ']' :: rest => some (.list [], rest)
        | rest => (readElements fuel rest).map fun (xs, rest) => (.list xs, rest)
      else if c = '{' then
        match skipBlanks rest with
        | '}' :: rest => some (.dict [], rest)
        | rest => (readFields fuel [] rest).map fun (fields, rest) => (.dict fields, rest)
      else if c = 'n' then readWord "null" .null (c :: rest)
      else if c = 't' then readWord "true" (.bool true) (c :: rest)
      else if c = 'f' then readWord "false" (.bool false) (c :: rest)
      else if c = 'N' then readWord "NaN" (.float .nan) (c :: rest)
      else if c = 'I' then readWord "Infinity" (.float (.infinite false)) (c :: rest)
      else if c = '-' ∧ rest.head? = some 'I' then
        readWord "-Infinity" (.float (.infinite true)) (c :: rest)
      else readNumber (c :: rest)

/-- Read the elements of a list up to its closing bracket. -/
def readElements : Nat → List Char → Option (List Value × List Char)
  | 0, _ => none
  | fuel + 1, cs => do
    let (v, rest) ← readValue fuel cs
    match skipBlanks rest with
    | ',' :: rest =>
      let (vs, rest) ← readElements fuel rest
      return (v :: vs, rest)
    | ']' :: rest => return ([v], rest)
    | _ => none

/-- Read the fields of an object up to its closing brace, after those read already. -/
def readFields : Nat → List (String × Value) → List Char →
    Option (List (String × Value) × List Char)
  | 0, _, _ => none
  | fuel + 1, done, cs => do
    match skipBlanks cs with
    | '"' :: rest =>
      let (key, rest) ← readText (rest.length + 1) rest
      match skipBlanks rest with
      | ':' :: rest =>
        let (v, rest) ← readValue fuel rest
        let done := Value.store (String.ofList key) v done
        match skipBlanks rest with
        | ',' :: rest => readFields fuel done rest
        | '}' :: rest => return (done, rest)
        | _ => none
      | _ => none
    | _ => none

end

/-- Read a text that is one JSON value and nothing else but blanks. -/
def read? (s : String) : Option Value := do
  let cs := s.toList
  let (v, rest) ← readValue (2 * cs.length + 2) cs
  if (skipBlanks rest).isEmpty then some v else none

end AddonPicker.Json
