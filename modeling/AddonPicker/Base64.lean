import AddonPicker.Fault

/-!
# Base64

Bytes as text, six bits to a character. Writing fills up the last group of four with padding.
Reading is lenient: characters outside the alphabet are skipped, and nothing is read after the
padding that completes a group.
-/

namespace AddonPicker.Base64

/-- The character of a six-bit number. -/
def symbol (n : Nat) : Char :=
  if n < 26 then Char.ofNat ('A'.toNat + n)
  else if n < 52 then Char.ofNat ('a'.toNat + (n - 26))
  else if n < 62 then Char.ofNat ('0'.toNat + (n - 52))
  else if n = 62 then '+'
  else '/'

/-- The six-bit number of a character of the alphabet. -/
def number? (c : Char) : Option Nat :=
  if 'A' ≤ c ∧ c ≤ 'Z' then some (c.toNat - 'A'.toNat)
  else if 'a' ≤ c ∧ c ≤ 'z' then some (c.toNat - 'a'.toNat + 26)
  else if '0' ≤ c ∧ c ≤ '9' then some (c.toNat - '0'.toNat + 52)
  else if c = '+' then some 62
  else if c = '/' then some 63
  else none

theorem number?_symbol : ∀ n < 64, number? (symbol n) = some n := by decide

/-- The text of some bytes. -/
def encode : List UInt8 → List Char
  | a :: b :: c :: rest =>
    symbol (a.toNat / 4) :: symbol (a.toNat % 4 * 16 + b.toNat / 16) ::
      symbol (b.toNat % 16 * 4 + c.toNat / 64) :: symbol (c.toNat % 64) :: encode rest
  | [a, b] =>
    [symbol (a.toNat / 4), symbol (a.toNat % 4 * 16 + b.toNat / 16), symbol (b.toNat % 16 * 4), '=']
  | [a] => [symbol (a.toNat / 4), symbol (a.toNat % 4 * 16), '=', '=']
  | [] => []

/-- Where the reader stands: the place inside the group of four, the bits carried over from the
last character, and the padding seen since. -/
structure Position where
  place : Nat
  carried : Nat
  padding : Nat
deriving Repr

/-- The start of a group. -/
def Position.start : Position := ⟨0, 0, 0⟩

/-- The fault of a text that ends inside a group after so many bytes, if it does. -/
def Position.fault? (p : Position) (bytes : Nat) : Option Fault :=
  if p.place = 0 then none
  else if p.place = 1 then some (.strayCharacter (bytes / 3 * 4 + 1))
  else some .incompletePadding

/-- Read on from a position, with the count of the bytes read before it. -/
def decodeFrom (p : Position) (bytes : Nat) : List Char → Except Fault (List UInt8)
  | [] =>
    match p.fault? bytes with
    | some f => .error f
    | none => .ok []
  | c :: rest =>
    if c = '=' then
      if p.place < 2 then decodeFrom p bytes rest
      else if 4 ≤ p.place + (p.padding + 1) then .ok []
      else decodeFrom { p with padding := p.padding + 1 } bytes rest
    else
      match number? c with
      | none => decodeFrom p bytes rest
      | some n =>
        if p.place = 0 then decodeFrom ⟨1, n, 0⟩ bytes rest
        else if p.place = 1 then
          (decodeFrom ⟨2, n % 16, 0⟩ (bytes + 1) rest).map
            (UInt8.ofNat (p.carried * 4 + n / 16) :: ·)
        else if p.place = 2 then
          (decodeFrom ⟨3, n % 4, 0⟩ (bytes + 1) rest).map
            (UInt8.ofNat (p.carried * 16 + n / 4) :: ·)
        else
          (decodeFrom ⟨0, 0, 0⟩ (bytes + 1) rest).map (UInt8.ofNat (p.carried * 64 + n) :: ·)

/-- Read bytes from a text. -/
def decode (s : String) : Except Fault (List UInt8) :=
  if s.toList.all (·.val < 0x80) then decodeFrom .start 0 s.toList else .error .notAscii

end AddonPicker.Base64
