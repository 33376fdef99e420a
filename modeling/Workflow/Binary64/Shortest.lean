import Workflow.Binary64
import Workflow.Text.Digits

/-!
# The shortest decimal of a floating-point number

A decimal reads back as a number when it lies in the interval of reals that round to the number.
Among such decimals `shortest` takes one with the fewest digits, and of those the nearest to the
number.  All comparisons are made on integers, so nothing is rounded on the way.
-/

namespace Workflow
namespace Binary64

/-- The magnitudes that round to a number, in units of `2 ^ (-1076)`. -/
structure Rounding where
  /-- The number itself. -/
  value : Nat
  /-- The lower end of the interval. -/
  low : Nat
  /-- The upper end of the interval. -/
  high : Nat
  /-- Whether the ends round to the number as well. -/
  closed : Bool

/-- The interval around a finite number other than zero. -/
def rounding (x : Binary64) : Rounding :=
  let unit := Nat.pow 2 x.power
  let below := if x.fraction.val = 0 ∧ 1 < x.exponent.val then unit else 2 * unit
  { value := 4 * x.significand * unit
    low := 4 * x.significand * unit - below
    high := 4 * x.significand * unit + 2 * unit
    closed := x.significand % 2 = 0 }

/-- Whether the ratio of two integers lies in the interval. -/
def Rounding.holds (interval : Rounding) (numerator denominator : Nat) : Bool :=
  let low := interval.low * denominator
  let high := interval.high * denominator
  if interval.closed then low ≤ numerator && numerator ≤ high
  else low < numerator && numerator < high

/-- A positive decimal, `digits * 10 ^ exponent`. -/
structure Decimal where
  /-- The digits as one integer. -/
  digits : Nat
  /-- The power of ten of the last digit. -/
  exponent : Int
  deriving DecidableEq

/-- The power of ten of the first digit of a positive ratio. -/
def leadingPower (numerator denominator : Nat) : Int :=
  if denominator ≤ numerator then ((Text.decimalText (numerator / denominator)).length : Int) - 1
  else -((Text.decimalText ((denominator - 1) / numerator)).length : Int)

/-- The nearer of the two multiples of `10 ^ exponent` around a number that read back as it. -/
def onGrid (interval : Rounding) (exponent : Int) : Option Decimal :=
  let unit := Nat.pow 2 1076 * Nat.pow 10 exponent.toNat
  let scale := Nat.pow 10 (-exponent).toNat
  let floor := interval.value * scale / unit
  let remainder := interval.value * scale % unit
  let fits (digits : Nat) : Bool := interval.holds (digits * unit) scale
  let nearer := if 2 * remainder < unit then floor
    else if 2 * remainder = unit ∧ floor % 2 = 0 then floor
    else floor + 1
  let farther := if nearer = floor then floor + 1 else floor
  if fits nearer then some ⟨nearer, exponent⟩
  else if fits farther then some ⟨farther, exponent⟩
  else none

/-- The first decimal found on grids that grow finer by one digit at a time, and the exact value of
the number if none of them has one. -/
def search (interval : Rounding) : (grids : Nat) → Int → Decimal
  | 0, _ => ⟨interval.value * Nat.pow 5 1076, -1076⟩
  | grids + 1, exponent =>
      match onGrid interval exponent with
      | some decimal => decimal
      | none => search interval grids (exponent - 1)

/-- Move the zeros at the end of the digits into the exponent. -/
def Decimal.stripZeros (decimal : Decimal) : Decimal :=
  let zeros := ((Text.decimalText decimal.digits).reverse.takeWhile (· == '0')).length
  ⟨decimal.digits / Nat.pow 10 zeros, decimal.exponent + zeros⟩

/-- The shortest decimal of the magnitude of a finite number other than zero; seventeen digits are
always enough. -/
def shortest (x : Binary64) : Decimal :=
  let interval := x.rounding
  (search interval 18 (leadingPower interval.value (Nat.pow 2 1076))).stripZeros

end Binary64
end Workflow
