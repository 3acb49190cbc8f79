import RegionBuild.Decimal.Binary64
import RegionBuild.Text.Basic

/-!
# Fixed places

A number with a fixed number of decimal places is its exact binary value rounded
to the last place. The sign stays even when the rounded value is zero.
-/

namespace RegionBuild.Decimal

/-- An integer number of units in the last of the given places, as a decimal. -/
def placed (places units : Nat) : Text :=
  let digits := Nat.toDigits 10 units
  let padded := List.replicate (places + 1 - digits.length) '0' ++ digits
  if places = 0 then padded
  else padded.take (padded.length - places) ++ '.' :: padded.drop (padded.length - places)

/-- A magnitude times ten to the places, rounded. -/
def unitsOf (places mantissa : Nat) (exponent : Int) : Nat :=
  if 0 ≤ exponent then mantissa * twoTo exponent.toNat * tenTo places
  else roundDiv (mantissa * tenTo places) (twoTo (-exponent).toNat)

/-- The text of a number with a fixed number of decimal places. -/
def fixed (places : Nat) (number : Binary64) : Text :=
  let sign := if number.isNegative then ['-'] else []
  match number.magnitude with
  | .finite mantissa exponent => sign ++ placed places (unitsOf places mantissa exponent)
  | .infinite => sign ++ ['i', 'n', 'f']
  | .notANumber => ['n', 'a', 'n']

end RegionBuild.Decimal
