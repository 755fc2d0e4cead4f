import AddonPicker.Number.Binary64

/-!
# The shortest decimal that reads back

Among all decimals that round to a given double, the one with the fewest digits, and of those the
nearest. A decimal reads back when it lies between the midpoints to the neighbouring doubles, the
midpoints themselves counting when the significand is even. If some point of a decimal grid lies
in that interval, so does one of the two grid points around the double, so only those are tried.
-/

namespace AddonPicker

/-- The decimal `digits * 10 ^ exponent`. -/
structure Decimal where
  digits : Nat
  exponent : Int
deriving DecidableEq, Repr, Inhabited

namespace Decimal

/-- Drop trailing zeros of the digits. -/
def trim (d : Decimal) : Decimal :=
  go d.digits d.digits d.exponent
where
  /-- The first argument bounds the number of zeros that a number can end with. -/
  go : Nat → Nat → Int → Decimal
    | 0, n, e => ⟨n, e⟩
    | fuel + 1, n, e => if n ≠ 0 ∧ n % 10 = 0 then go (fuel / 10) (n / 10) (e + 1) else ⟨n, e⟩

/-- The exponent of the leading digit. -/
def leading (d : Decimal) : Int :=
  (Binary64.decimalLength d.digits : Int) - 1 + d.exponent

end Decimal

namespace Binary64

/-- A positive double in quarters of its last place, so that the midpoints to its neighbours are
whole: the value, the midpoint below and the midpoint above, all times `2 ^ exponent`. -/
structure Interval where
  value : Nat
  below : Nat
  above : Nat
  exponent : Int
  closed : Bool
deriving Repr

/-- The interval of numbers that round to a positive double. The neighbour below a power of two is
only half as far away, unless it is the least exponent. -/
def interval (m : Nat) (e : Int) : Interval where
  value := 4 * m
  below := if m = twoTo 52 ∧ e > leastExponent then 4 * m - 1 else 4 * m - 2
  above := 4 * m + 2
  exponent := e - 2
  closed := m % 2 == 0

/-- `a * 2 ^ e` and `d * 10 ^ k` over one common denominator. -/
def commonScale (a : Nat) (e : Int) (d : Nat) (k : Int) : Nat × Nat :=
  (a * twoTo e.toNat * tenTo (-k).toNat, d * tenTo k.toNat * twoTo (-e).toNat)

/-- Whether the decimal `d * 10 ^ k` rounds to the double of an interval. -/
def Interval.reads (i : Interval) (d : Nat) (k : Int) : Bool :=
  let (low, x) := commonScale i.below i.exponent d k
  let (high, y) := commonScale i.above i.exponent d k
  if i.closed then low ≤ x && y ≤ high else low < x && y < high

/-- Of the two grid points `d` and `d + 1` that both read back, the nearer, a tie to the even. -/
def Interval.nearer (i : Interval) (d : Nat) (k : Int) : Nat :=
  let (v, low) := commonScale i.value i.exponent d k
  let (_, high) := commonScale i.value i.exponent (d + 1) k
  let down := v - low
  let up := high - v
  if down < up then d else if up < down then d + 1 else if d % 2 = 0 then d else d + 1

/-- The point of the grid of spacing `10 ^ k` that reads back, if there is one. -/
def Interval.onGrid (i : Interval) (k : Int) : Option Nat :=
  let (v, one) := commonScale i.value i.exponent 1 k
  let d := v / one
  match i.reads d k, i.reads (d + 1) k with
  | true, true => some (i.nearer d k)
  | true, false => some d
  | false, true => some (d + 1)
  | false, false => none

/-- The exponent of the leading decimal digit of `numerator / denominator`. -/
def leadingExponent (numerator denominator : Nat) : Int :=
  let guess : Int := (decimalLength numerator : Int) - decimalLength denominator
  let reached :=
    if 0 ≤ guess then denominator * tenTo guess.toNat ≤ numerator
    else denominator ≤ numerator * tenTo (-guess).toNat
  if reached then guess else guess - 1

/-- The shortest decimal that reads back as the positive double `m * 2 ^ e`. Seventeen digits
always suffice, so the last alternative is never taken. -/
def shortest (m : Nat) (e : Int) : Decimal :=
  let i := interval m e
  let (numerator, denominator) := scaled m 1 (-e)
  let top := leadingExponent numerator denominator
  let tries := (List.range 17).findSome? fun (n : Nat) =>
    let k := top - (n : Int)
    (i.onGrid k).map fun d => Decimal.trim ⟨d, k⟩
  tries.getD ⟨0, 0⟩

end Binary64

end AddonPicker
