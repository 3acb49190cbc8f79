import RegionBuild.Decimal.Binary64

/-!
# Arithmetic with binary floating-point numbers

A sum, a difference or a multiple is the exact value rounded once to the nearest
number.

A value that is no number has bits of its own, which say where it came from. An
operation on such a value gives it back in its quiet form, the first one if there are
two. An operation that has no result gives a quiet value with the sign set.
-/

namespace RegionBuild.Decimal.Binary64

/-- Zero without a sign. -/
def zero : Binary64 := ofFields false 0

/-- The number nearest to an integer. -/
def ofNat (value : Nat) : Binary64 := ofQuotient false value 1

/-- Whether this is a number, be it infinite. -/
def isNumber (number : Binary64) : Bool := number.magnitude != .notANumber

/-- A value that is no number in its quiet form: the first bit of the fraction is set. -/
def quiet (value : Binary64) : Binary64 := ⟨value.bits ||| UInt64.ofNat (twoTo 51)⟩

/-- What an operation without a result gives. -/
def noResult : Binary64 := ofFields true (0x7FF * twoTo 52 + twoTo 51)

/-- The bits below the sign. -/
def unsigned (number : Binary64) : Nat := number.bits.toNat % twoTo 63

/-- A number with the other sign. -/
def negate (number : Binary64) : Binary64 := ofFields (!number.isNegative) number.unsigned

/-- A mantissa with the sign of a number, as a multiple of two to an exponent that is
not greater than its own. -/
def aligned (number : Binary64) (mantissa : Nat) (exponent lower : Int) : Int :=
  let multiple : Nat := mantissa * twoTo (exponent - lower).toNat
  if number.isNegative then -multiple else multiple

/-- The number nearest to an integer times two to an exponent. -/
def ofExact (value exponent : Int) : Binary64 :=
  ofQuotient (decide (value < 0)) (value.natAbs * twoTo exponent.toNat) (twoTo (-exponent).toNat)

/-- The sum of two numbers. A sum of zero has a sign only if both numbers have it. -/
def add (left right : Binary64) : Binary64 :=
  match left.magnitude, right.magnitude with
  | .notANumber, _ => left.quiet
  | _, .notANumber => right.quiet
  | .infinite, .infinite => if left.isNegative = right.isNegative then left else noResult
  | .infinite, _ => left
  | _, .infinite => right
  | .finite leftMantissa leftExponent, .finite rightMantissa rightExponent =>
    let exponent := min leftExponent rightExponent
    let value := left.aligned leftMantissa leftExponent exponent +
      right.aligned rightMantissa rightExponent exponent
    if value = 0 then ofFields (left.isNegative && right.isNegative) 0
    else ofExact value exponent

/-- The difference of two numbers. The sign of a value that is no number stays. -/
def subtract (left right : Binary64) : Binary64 :=
  left.add (if right.isNumber then right.negate else right)

/-- A number times a quotient. -/
def scale (number : Binary64) (numerator denominator : Nat) : Binary64 :=
  match number.magnitude with
  | .finite mantissa exponent =>
    ofQuotient number.isNegative (mantissa * numerator * twoTo exponent.toNat)
      (denominator * twoTo (-exponent).toNat)
  | .infinite => number
  | .notANumber => number.quiet

/-- Where a number stands among the others. The two zeros stand at the same place. -/
def rank (number : Binary64) : Int :=
  if number.isNegative then -(number.unsigned : Int) else number.unsigned

/-- Whether a number is less than another. A value that is no number is not less than
any, and none is less than it. -/
def less (left right : Binary64) : Bool :=
  left.isNumber && right.isNumber && decide (left.rank < right.rank)

end RegionBuild.Decimal.Binary64
