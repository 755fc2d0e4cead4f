import AddonPicker.Text.Numeral
import AddonPicker.Toml.Spacing

/-!
# Quoted texts

A text stands between single or double quotes, one or three of them on either side. Between single
quotes every character stands for itself; between double quotes a backslash begins an escape. Texts
between three quotes may run over several lines: a line break right after the opening quotes is
dropped, and up to two more quotes may stand before the closing ones.
-/

namespace AddonPicker.Toml

/-- The further quotes, two at most, that stand after three which could already close a text. -/
def readSpareQuotes (quote : Char) : List Char → List Char × List Char
  | a :: b :: rest =>
    if a = quote then if b = quote then ([a, b], rest) else ([a], b :: rest)
    else ([], a :: b :: rest)
  | [a] => if a = quote then ([a], []) else ([], [a])
  | [] => ([], [])

/-- Drop the line break right after opening quotes. -/
def skipFirstBreak : List Char → List Char
  | '\n' :: rest => rest
  | cs => cs

/-- Read the rest of a text between single quotes. -/
def readLiteral : List Char → Option (List Char × List Char)
  | [] => none
  | c :: rest =>
    if c = '\'' then some ([], rest)
    else if isForbidden c then none
    else (readLiteral rest).map fun (cs, rest) => (c :: cs, rest)

/-- Read the rest of a text between three single quotes. -/
def readLiteralLines : List Char → Option (List Char × List Char)
  | [] => none
  | '\'' :: '\'' :: '\'' :: rest => some (readSpareQuotes '\'' rest)
  | c :: rest =>
    if isForbiddenInLines c then none
    else (readLiteralLines rest).map fun (cs, rest) => (c :: cs, rest)

/-- Read the digits of an escape that gives the number of a character. -/
def readCharacter (width : Nat) (cs : List Char) : Option (List Char × List Char) := do
  let (n, rest) ← Text.readNumeral 16 width cs
  if n.isValidChar then some ([Char.ofNat n], rest) else none

/-- Read what follows a backslash. -/
def readEscape : List Char → Option (List Char × List Char)
  | 'b' :: rest => some (['\x08'], rest)
  | 't' :: rest => some (['\t'], rest)
  | 'n' :: rest => some (['\n'], rest)
  | 'f' :: rest => some (['\x0c'], rest)
  | 'r' :: rest => some (['\r'], rest)
  | '"' :: rest => some (['"'], rest)
  | '\\' :: rest => some (['\\'], rest)
  | 'u' :: rest => readCharacter 4 rest
  | 'U' :: rest => readCharacter 8 rest
  | _ => none

/-- Read what follows a backslash in a text of several lines, where a backslash at the end of a
line takes away all blanks and line breaks up to the next character. -/
def readEscapeInLines (cs : List Char) : Option (List Char × List Char) :=
  match cs.head? with
  | none => none
  | some c =>
    if isBlank c || c = '\n' then
      match skipBlanks cs with
      | '\n' :: rest => some ([], rest.dropWhile fun c => isBlank c || c = '\n')
      | _ => none
    else readEscape cs

/-- Read the rest of a text between double quotes, at most `fuel` characters and escapes of it. -/
def readBasic : Nat → List Char → Option (List Char × List Char)
  | 0, _ => none
  | _, [] => none
  | fuel + 1, c :: rest =>
    if c = '"' then some ([], rest)
    else do
      let (first, rest) ← if c = '\\' then readEscape rest
        else if isForbidden c then none
        else some ([c], rest)
      let (cs, rest) ← readBasic fuel rest
      return (first ++ cs, rest)

/-- Read the rest of a text between three double quotes, at most `fuel` characters and escapes of
it. -/
def readBasicLines : Nat → List Char → Option (List Char × List Char)
  | 0, _ => none
  | _, [] => none
  | _, '"' :: '"' :: '"' :: rest => some (readSpareQuotes '"' rest)
  | fuel + 1, c :: rest => do
    let (first, rest) ← if c = '\\' then readEscapeInLines rest
      else if isForbiddenInLines c then none
      else some ([c], rest)
    let (cs, rest) ← readBasicLines fuel rest
    return (first ++ cs, rest)

/-- Read a text between one quote on either side. -/
def readQuotedLine : List Char → Option (String × List Char)
  | '"' :: rest => (readBasic (rest.length + 1) rest).map fun (cs, rest) => (String.ofList cs, rest)
  | '\'' :: rest => (readLiteral rest).map fun (cs, rest) => (String.ofList cs, rest)
  | _ => none

/-- Read a text in any quotes. -/
def readQuoted : List Char → Option (String × List Char)
  | '"' :: '"' :: '"' :: rest =>
    let rest := skipFirstBreak rest
    (readBasicLines (rest.length + 1) rest).map fun (cs, rest) => (String.ofList cs, rest)
  | '\'' :: '\'' :: '\'' :: rest =>
    (readLiteralLines (skipFirstBreak rest)).map fun (cs, rest) => (String.ofList cs, rest)
  | cs => readQuotedLine cs

end AddonPicker.Toml
