import RegionBuild.Decimal.Rounding

/-!
# Binary floating-point numbers

A double-precision number is kept as its 64 bits: a sign, eleven bits of
exponent and 52 bits of fraction. A finite one is an integer mantissa times a
power of two.
-/

namespace RegionBuild.Decimal

/-- A double-precision number by its bits. -/
structure Binary64 where
  bits : UInt64
deriving DecidableEq, Repr

/-- What the bits of a number say. -/
inductive Magnitude where
  /-- The mantissa times two to the exponent. -/
  | finite (mantissa : Nat) (exponent : Int)
  | infinite
  | notANumber
deriving DecidableEq, Repr

namespace Binary64

/-- Whether the sign bit is set. -/
def isNegative (number : Binary64) : Bool := decide (twoTo 63 ≤ number.bits.toNat)

/-- The magnitude of a number, its sign apart. -/
def magnitude (number : Binary64) : Magnitude :=
  let fraction : Nat := number.bits.toNat % twoTo 52
  let biased : Nat := number.bits.toNat / twoTo 52 % twoTo 11
  if biased = 0x7FF then
    if fraction = 0 then .infinite else .notANumber
  else if biased = 0 then
    .finite fraction (-1074)
  else
    .finite (twoTo 52 + fraction) ((biased : Int) - 1075)

/-- A number from its sign and the bits below the sign. -/
def ofFields (negative : Bool) (rest : Nat) : Binary64 :=
  ⟨UInt64.ofNat ((if negative then twoTo 63 else 0) + rest)⟩

/-- Infinity of either sign. -/
def infinity (negative : Bool) : Binary64 := ofFields negative (0x7FF * twoTo 52)

/-- The quiet value that is no number. -/
def notANumber : Binary64 := ofFields false (0x7FF * twoTo 52 + twoTo 51)

/-- A number from its mantissa, below two to the 53rd, and its exponent, at least
-1074. A mantissa of 53 bits is normal; too great an exponent gives infinity. -/
def ofScaled (negative : Bool) (mantissa : Nat) (exponent : Int) : Binary64 :=
  if mantissa < twoTo 52 then
    ofFields negative mantissa
  else
    let biased := (exponent + 1075).toNat
    if 0x7FF ≤ biased then infinity negative
    else ofFields negative (biased * twoTo 52 + (mantissa - twoTo 52))

/-- The greatest exponent at which two to it does not exceed a positive quotient. -/
def floorLog2 (numerator denominator : Nat) : Int :=
  let guess : Int := (numerator.log2 : Int) - denominator.log2
  let reaches :=
    if 0 ≤ guess then decide (denominator * twoTo guess.toNat ≤ numerator)
    else decide (denominator ≤ numerator * twoTo (-guess).toNat)
  if reaches then guess else guess - 1

/-- The number nearest to a quotient with a sign. A quotient of zero keeps its sign. -/
def ofQuotient (negative : Bool) (numerator denominator : Nat) : Binary64 :=
  let exponent := max (floorLog2 numerator denominator - 52) (-1074)
  let mantissa :=
    if 0 ≤ exponent then roundDiv numerator (denominator * twoTo exponent.toNat)
    else roundDiv (numerator * twoTo (-exponent).toNat) denominator
  if mantissa = twoTo 53 then ofScaled negative (twoTo 52) (exponent + 1)
  else ofScaled negative mantissa exponent

/-- The number nearest to a decimal, its digits read as an integer times a power
of ten. Decimals far outside the range of finite numbers are not expanded. -/
def ofDecimal (negative : Bool) (digits : Nat) (exponent : Int) : Binary64 :=
  let leading := exponent + (Nat.toDigits 10 digits).length
  if digits = 0 ∨ leading < -400 then ofFields negative 0
  else if 400 < leading then infinity negative
  else if 0 ≤ exponent then ofQuotient negative (digits * tenTo exponent.toNat) 1
  else ofQuotient negative digits (tenTo (-exponent).toNat)

end Binary64

end RegionBuild.Decimal
