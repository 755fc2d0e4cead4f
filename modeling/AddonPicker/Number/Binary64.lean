import AddonPicker.Number.Power

/-!
# Binary floating-point numbers

A double as an exact value: a sign, a whole significand of at most 53 bits and a power of two, or
one of the special values. Everything is computed in whole numbers, so that rounding is a
definition that can be reasoned about and not a machine instruction.

Finite values are kept in the one form in which the significand is below `2 ^ 53`, the exponent is
at least `-1074`, and the significand reaches `2 ^ 52` unless the exponent is that least one. Two
finite values that are both nonzero are then equal exactly when their fields are.
-/

namespace AddonPicker

/-- A double: `±significand * 2 ^ exponent`, an infinity, or the value that is no number. -/
inductive Binary64
  | finite (negative : Bool) (significand : Nat) (exponent : Int)
  | infinite (negative : Bool)
  | nan
deriving DecidableEq, Repr, Inhabited

namespace Binary64

/-- The least exponent of a finite value. -/
def leastExponent : Int := -1074

/-- The greatest exponent of a finite value. -/
def greatestExponent : Int := 971

/-- Zero with a sign. -/
def zero (negative : Bool) : Binary64 :=
  .finite negative 0 leastExponent

/-- The quotient rounded to the nearest whole number, a tie to the even neighbour. -/
def roundHalfEven (numerator denominator : Nat) : Nat :=
  let quotient := numerator / denominator
  let rest := 2 * (numerator % denominator)
  if rest > denominator ∨ (rest = denominator ∧ quotient % 2 = 1) then quotient + 1 else quotient

/-- The two sides of `value / 2 ^ exponent` as a fraction of whole numbers. -/
def scaled (numerator denominator : Nat) (exponent : Int) : Nat × Nat :=
  if 0 ≤ exponent then (numerator, denominator * twoTo exponent.toNat)
  else (numerator * twoTo (-exponent).toNat, denominator)

/-- The double nearest to a positive fraction, a tie to the even significand. -/
def ofFraction (negative : Bool) (numerator denominator : Nat) : Binary64 :=
  if numerator = 0 then zero negative else
  let guess : Int := (Nat.log2 numerator : Int) - Nat.log2 denominator - 52
  let (n, d) := scaled numerator denominator guess
  let wanted := if n / d < twoTo 52 then guess - 1 else guess
  let exponent := if wanted < leastExponent then leastExponent else wanted
  let (n, d) := scaled numerator denominator exponent
  let significand := roundHalfEven n d
  let (significand, exponent) :=
    if significand = twoTo 53 then (twoTo 52, exponent + 1) else (significand, exponent)
  if exponent > greatestExponent then .infinite negative
  else .finite negative significand exponent

/-- How many decimal digits a number is written with. -/
def decimalLength (n : Nat) : Nat :=
  (Nat.toDigits 10 n).length

/-- The double nearest to `±digits * 10 ^ exponent`. Numbers far outside the range are settled by
their size alone, so that no huge power of ten is built. -/
def ofDecimal (negative : Bool) (digits : Nat) (exponent : Int) : Binary64 :=
  let magnitude : Int := (decimalLength digits : Int) + exponent
  if digits = 0 then zero negative
  else if magnitude > 310 then .infinite negative
  else if magnitude < -330 then zero negative
  else if 0 ≤ exponent then ofFraction negative (digits * tenTo exponent.toNat) 1
  else ofFraction negative digits (tenTo (-exponent).toNat)

/-- The double nearest to a whole number. -/
def ofInt (i : Int) : Binary64 :=
  ofDecimal (i < 0) i.natAbs 0

/-- Whether a value is zero of either sign. -/
def isZero : Binary64 → Bool
  | .finite _ m _ => m == 0
  | _ => false

/-- Whether a value is zero or less. The value that is no number is neither this nor more. -/
def isNonPositive : Binary64 → Bool
  | .finite negative m _ => negative || m == 0
  | .infinite negative => negative
  | .nan => false

/-- Equality of numbers: the zeros are equal, and the value that is no number equals nothing. -/
def sameNumber : Binary64 → Binary64 → Bool
  | .finite s m e, .finite s' m' e' => (m == 0 && m' == 0) || (s == s' && m == m' && e == e')
  | .infinite s, .infinite s' => s == s'
  | _, _ => false

/-- The whole number that a value is, if it is one. -/
def toInt? : Binary64 → Option Int
  | .finite negative m e =>
    let signed (n : Nat) : Int := if negative then -(n : Int) else n
    if 0 ≤ e then some (signed (m * twoTo e.toNat))
    else
      let unit := twoTo (-e).toNat
      if m % unit = 0 then some (signed (m / unit)) else none
  | _ => none

end Binary64

end AddonPicker
