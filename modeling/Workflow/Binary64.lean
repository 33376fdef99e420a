/-!
# Floating-point numbers of 64 bits

A number is its sign, exponent field and fraction field.  Every operation computes an exact ratio
and rounds it once, to the nearest number and to the even one of two nearest (`ofRatio`).
-/

namespace Workflow

/-- A binary floating-point number of 64 bits. -/
structure Binary64 where
  /-- Whether the sign bit is set. -/
  negative : Bool
  /-- The biased exponent: zero for subnormal numbers, 2047 for infinities and what is no number. -/
  exponent : Fin 2048
  /-- The fraction below the leading bit. -/
  fraction : Fin (Nat.pow 2 52)
  deriving DecidableEq

namespace Binary64

/-- The bits, sign first. -/
def bits (x : Binary64) : Nat :=
  (if x.negative then Nat.pow 2 63 else 0) + x.exponent.val * Nat.pow 2 52 + x.fraction.val

/-- The number with a given sign whose other bits are those of `magnitude`. -/
def ofMagnitude (negative : Bool) (magnitude : Nat) : Binary64 :=
  ⟨negative, Fin.ofNat 2048 (magnitude / Nat.pow 2 52), Fin.ofNat (Nat.pow 2 52) magnitude⟩

/-- The zero of a sign. -/
def zero (negative : Bool) : Binary64 :=
  ofMagnitude negative 0

/-- The infinity of a sign. -/
def infinity (negative : Bool) : Binary64 :=
  ofMagnitude negative (2047 * Nat.pow 2 52)

/-- What is no number. -/
def nan : Binary64 :=
  ofMagnitude false (2047 * Nat.pow 2 52 + Nat.pow 2 51)

/-- Whether this is no number. -/
def isNaN (x : Binary64) : Bool :=
  x.exponent.val == 2047 && x.fraction.val != 0

/-- Whether this is neither an infinity nor no number. -/
def isFinite (x : Binary64) : Bool :=
  x.exponent.val != 2047

/-- Whether this is a zero of either sign. -/
def isZero (x : Binary64) : Bool :=
  x.exponent.val == 0 && x.fraction.val == 0

/-- The number with the opposite sign. -/
def neg (x : Binary64) : Binary64 :=
  { x with negative := !x.negative }

/-- The integer `m` for which a finite number has the magnitude `m * 2 ^ (power - 1074)`. -/
def significand (x : Binary64) : Nat :=
  if x.exponent.val = 0 then x.fraction.val else Nat.pow 2 52 + x.fraction.val

/-- The power that goes with `significand`. -/
def power (x : Binary64) : Nat :=
  x.exponent.val - 1

/-- The quotient rounded to the nearest integer, a half to the even neighbour. -/
def roundDiv (numerator denominator : Nat) : Nat :=
  let quotient := numerator / denominator
  let twice := 2 * (numerator % denominator)
  if twice < denominator then quotient
  else if twice = denominator ∧ quotient % 2 = 0 then quotient
  else quotient + 1

/-- The number nearest to `numerator / denominator * 2 ^ (-1074)`; what is too large is infinite. -/
def ofScaledRatio (negative : Bool) (numerator denominator : Nat) : Binary64 :=
  let estimate := numerator.log2 - denominator.log2 - 52
  let power :=
    if numerator < denominator * Nat.pow 2 (52 + estimate) then estimate - 1 else estimate
  let rounded := roundDiv numerator (denominator * Nat.pow 2 power)
  ofMagnitude negative (min (power * Nat.pow 2 52 + rounded) (2047 * Nat.pow 2 52))

/-- The number nearest to a ratio with a positive denominator. -/
def ofRatio (negative : Bool) (numerator denominator : Nat) : Binary64 :=
  ofScaledRatio negative (numerator * Nat.pow 2 1074) denominator

/-- The number nearest to a natural number. -/
def ofNat (value : Nat) : Binary64 :=
  ofRatio false value 1

/-- The number nearest to an integer. -/
def ofInt (value : Int) : Binary64 :=
  ofRatio (value < 0) value.natAbs 1

/-- The rounded product of finite numbers. -/
def mul (x y : Binary64) : Binary64 :=
  ofScaledRatio (x.negative != y.negative)
    (x.significand * y.significand * Nat.pow 2 (x.power + y.power)) (Nat.pow 2 1074)

/-- The rounded quotient of finite numbers, of which the second is not zero. -/
def div (x y : Binary64) : Binary64 :=
  ofRatio (x.negative != y.negative)
    (x.significand * Nat.pow 2 x.power) (y.significand * Nat.pow 2 y.power)

/-- The number nearest to `digits * 10 ^ exponent`, without computing powers that cannot matter. -/
def ofDecimal (negative : Bool) (digits : Nat) (exponent : Int) : Binary64 :=
  let length : Int := (Nat.toDigits 10 digits).length
  if digits = 0 ∨ length + exponent < -330 then zero negative
  else if 0 ≤ exponent then
    if 310 < length + exponent then infinity negative
    else ofRatio negative (digits * Nat.pow 10 exponent.toNat) 1
  else if 310 < length + exponent then infinity negative
  else ofRatio negative digits (Nat.pow 10 (-exponent).toNat)

end Binary64
end Workflow
