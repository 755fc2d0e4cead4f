import AddonPicker.Text.UnprintableTable

/-!
# Quoted text

The form in which a message shows a text that may hold anything: between single quotes, or between
double quotes when it holds single quotes only, with the quote in use, the backslash and every
character without a printed form escaped. Escapes of characters are as short as their code point
allows.
-/

namespace AddonPicker.Text

/-- Whether a character has a printed form. -/
def isPrintable (c : Char) : Bool :=
  if c.val < 0x7f then 0x20 ≤ c.val
  else !unprintableRanges.any fun (first, last) => first ≤ c.toNat && c.toNat ≤ last

/-- The digit of a value below sixteen, a small letter from ten on. -/
def hexDigit (n : Nat) : Char :=
  Nat.digitChar (n % 16)

/-- The last `width` hexadecimal digits of a number. -/
def hexDigits : Nat → Nat → List Char
  | 0, _ => []
  | width + 1, n => hexDigits width (n / 16) ++ [hexDigit n]

/-- Escape one character of a text quoted with `quote`. -/
def escapeChar (quote c : Char) : List Char :=
  if c = quote ∨ c = '\\' then ['\\', c]
  else if c = '\n' then ['\\', 'n']
  else if c = '\r' then ['\\', 'r']
  else if c = '\t' then ['\\', 't']
  else if isPrintable c then [c]
  else if c.val ≤ 0xff then ['\\', 'x'] ++ hexDigits 2 c.toNat
  else if c.val ≤ 0xffff then ['\\', 'u'] ++ hexDigits 4 c.toNat
  else ['\\', 'U'] ++ hexDigits 8 c.toNat

/-- Quote a text. -/
def quoted (s : String) : String :=
  let cs := s.toList
  let quote := if cs.contains '\'' && !cs.contains '"' then '"' else '\''
  String.ofList ([quote] ++ cs.flatMap (escapeChar quote) ++ [quote])

end AddonPicker.Text
