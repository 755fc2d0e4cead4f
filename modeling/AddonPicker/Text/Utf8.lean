/-!
# UTF-8

Reading octets as text. Every character has one form, the shortest one, and no form stands for half
of a surrogate pair or for a number past the last character.
-/

namespace AddonPicker.Utf8

/-- The six bits of an octet that continues a character. -/
def continuation? (b : UInt8) : Option Nat :=
  if 0x80 ≤ b ∧ b < 0xc0 then some (b.toNat - 0x80) else none

/-- The character with a number, if it is one whose shortest form is not shorter than the form that
was read. -/
def character? (least n : Nat) : Option Char :=
  if least ≤ n ∧ n.isValidChar then some (Char.ofNat n) else none

/-- Read octets to the end, or nothing if they are not well-formed. -/
def decode? : List UInt8 → Option (List Char)
  | [] => some []
  | a :: rest =>
    if a < 0x80 then do
      let cs ← decode? rest
      return Char.ofNat a.toNat :: cs
    else if a < 0xc0 then none
    else if a < 0xe0 then
      match rest with
      | b :: rest => do
        let y ← continuation? b
        let c ← character? 0x80 ((a.toNat - 0xc0) * 0x40 + y)
        let cs ← decode? rest
        return c :: cs
      | _ => none
    else if a < 0xf0 then
      match rest with
      | b :: b' :: rest => do
        let y ← continuation? b
        let z ← continuation? b'
        let c ← character? 0x800 (((a.toNat - 0xe0) * 0x40 + y) * 0x40 + z)
        let cs ← decode? rest
        return c :: cs
      | _ => none
    else if a < 0xf8 then
      match rest with
      | b :: b' :: b'' :: rest => do
        let x ← continuation? b
        let y ← continuation? b'
        let z ← continuation? b''
        let c ← character? 0x10000 ((((a.toNat - 0xf0) * 0x40 + x) * 0x40 + y) * 0x40 + z)
        let cs ← decode? rest
        return c :: cs
      | _ => none
    else none

end AddonPicker.Utf8
