/-!
# Rounding a quotient

Every conversion between binary and decimal numbers here is exact arithmetic on
natural numbers followed by one rounding to the nearest integer. A quotient
halfway between two integers goes to the even one.
-/

namespace RegionBuild.Decimal

/-- Two to a power. -/
def twoTo (exponent : Nat) : Nat := Nat.pow 2 exponent

/-- Ten to a power. -/
def tenTo (exponent : Nat) : Nat := Nat.pow 10 exponent

/-- The integer nearest to a quotient; a tie goes to the even neighbour. -/
def roundDiv (numerator denominator : Nat) : Nat :=
  let floor := numerator / denominator
  let twice := 2 * (numerator % denominator)
  if twice < denominator then floor
  else if denominator < twice then floor + 1
  else floor + floor % 2

end RegionBuild.Decimal
