import ClassLowering.Number.Binary64

/-!
# The fewest decimal digits that read back

A positive binary value stands for the interval of reals that round to it. Among the decimals in
that interval the one with the fewest digits is chosen, of several the nearest to the value, and of
two equally near the upper one. All comparisons are between natural numbers over one scaling.
-/

namespace ClassLowering

/-- The decimal `digits * 10 ^ exponent`. -/
structure Decimal where
  digits : Nat
  exponent : Int
  deriving DecidableEq, Repr

/-- The number of decimal digits of a natural number; one for zero. -/
def decimalLength (n : Nat) : Nat := (Nat.toDigits 10 n).length

namespace Decimal

/-- The least `position` with `numerator / denominator < 10 ^ position`, both being positive. -/
def leadingPosition (numerator denominator : Nat) : Int :=
  if denominator ≤ numerator then decimalLength (numerator / denominator)
  else
    let places := decimalLength (denominator / numerator)
    if numerator * Nat.pow 10 (places - 1) = denominator then 2 - places else 1 - places

/-- An interval around a value, all three over `denominator`. -/
structure Interval where
  low : Nat
  value : Nat
  high : Nat
  denominator : Nat
  closed : Bool

/-- Whether a quotient, over the interval's own denominator, lies in the interval. -/
def Interval.holds (interval : Interval) (numerator scale : Nat) : Bool :=
  if interval.closed then
    interval.low * scale ≤ numerator ∧ numerator ≤ interval.high * scale
  else interval.low * scale < numerator ∧ numerator < interval.high * scale

/-- The decimal with `count` digits in the interval nearest to its value, if there is one. Only the
value's two neighbours on the grid of such decimals can be it. -/
def Interval.nearest? (interval : Interval) (position : Int) (count : Nat) : Option Decimal :=
  let step := position - count
  let unit := if 0 ≤ step then interval.denominator * Nat.pow 10 step.toNat else interval.denominator
  let scale := if 0 ≤ step then 1 else Nat.pow 10 (-step).toNat
  let scaled := interval.value * scale
  let below := scaled / unit
  let above : Decimal :=
    if below + 1 = Nat.pow 10 count then ⟨1, position⟩ else ⟨below + 1, step⟩
  let lower := interval.holds (below * unit) scale
  let upper := interval.holds ((below + 1) * unit) scale
  if lower && (!upper || scaled - below * unit < (below + 1) * unit - scaled) then
    some ⟨below, step⟩
  else if upper then some above
  else none

/-- The interval of reals that round to `significand * 2 ^ exponent`. Below a power of two the
neighbour is half as far; the ends round to even significands. -/
def Interval.around (significand : Nat) (exponent : Int) : Interval :=
  let below := if significand = 1 <<< 52 ∧ exponent ≠ -1074 then 1 else 2
  let shift := exponent - 2
  let factor := if 0 ≤ shift then 1 <<< shift.toNat else 1
  { low := (4 * significand - below) * factor
    value := 4 * significand * factor
    high := (4 * significand + 2) * factor
    denominator := if 0 ≤ shift then 1 else 1 <<< (-shift).toNat
    closed := significand % 2 = 0 }

/-- The shortest decimal that reads back as the positive value `significand * 2 ^ exponent`.
Seventeen digits always suffice. -/
def shortest (significand : Nat) (exponent : Int) : Decimal :=
  let interval := Interval.around significand exponent
  let position := leadingPosition interval.value interval.denominator
  ((List.range 17).findSome? fun fewer => interval.nearest? position (fewer + 1)).getD
    ⟨significand, 0⟩

end Decimal

end ClassLowering
