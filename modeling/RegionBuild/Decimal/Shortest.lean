import RegionBuild.Decimal.Binary64
import RegionBuild.Text.Basic

/-!
# The fewest digits that read back

A finite number is written with the fewest significant digits that still round
to it, and of the decimals with that many digits the nearest. The decimals that
round to a number fill an interval around it; its ends belong to it exactly when
the mantissa is even. For each number of digits only the two neighbours of the
value on the grid of such decimals have to be tried.
-/

namespace RegionBuild.Decimal

/-- A decimal: its digits read as an integer, times ten to the exponent. -/
structure Shortest where
  digits : Nat
  exponent : Int
deriving DecidableEq, Repr

/-- Ten to an exponent times one natural against two to an exponent times another,
compared exactly. -/
def compareScaled (decimal : Nat) (ten : Int) (binary : Nat) (two : Int) : Ordering :=
  compare (decimal * tenTo ten.toNat * twoTo (-two).toNat)
    (binary * twoTo two.toNat * tenTo (-ten).toNat)

/-- The interval of a number in quarters of its last binary place. -/
structure Interval where
  low : Nat
  value : Nat
  high : Nat
  /-- Two to this exponent is the unit of the three fields. -/
  exponent : Int
  /-- Whether the ends belong to the interval. -/
  closed : Bool
deriving DecidableEq, Repr

/-- The decimals that round to a mantissa and an exponent. Below a power of two
the numbers lie twice as close, except at the bottom of the range. -/
def Interval.around (mantissa : Nat) (exponent : Int) : Interval where
  low := if mantissa = twoTo 52 ∧ -1074 < exponent then 4 * mantissa - 1 else 4 * mantissa - 2
  value := 4 * mantissa
  high := 4 * mantissa + 2
  exponent := exponent - 2
  closed := decide (mantissa % 2 = 0)

/-- Whether a decimal rounds to the number. -/
def Interval.holds (interval : Interval) (decimal : Nat) (ten : Int) : Bool :=
  let atLow := compareScaled decimal ten interval.low interval.exponent
  let atHigh := compareScaled decimal ten interval.high interval.exponent
  if interval.closed then atLow != .lt && atHigh != .gt else atLow == .gt && atHigh == .lt

/-- The largest integer whose multiple of ten to the exponent is not above the value. -/
def Interval.floor (interval : Interval) (ten : Int) : Nat :=
  interval.value * twoTo interval.exponent.toNat * tenTo (-ten).toNat /
    (tenTo ten.toNat * twoTo (-interval.exponent).toNat)

/-- Try decimals of which the last digit stands for ten to the exponent. Of two
that round to the number the nearer is taken, and the even one if both are as
near. -/
def Interval.onGrid? (interval : Interval) (ten : Int) : Option Shortest :=
  let below := interval.floor ten
  let above := below + 1
  match interval.holds below ten && decide (0 < below), interval.holds above ten with
  | false, false => none
  | true, false => some ⟨below, ten⟩
  | false, true => some ⟨above, ten⟩
  | true, true =>
    match compareScaled (below + above) ten (2 * interval.value) interval.exponent with
    | .gt => some ⟨below, ten⟩
    | .lt => some ⟨above, ten⟩
    | .eq => some ⟨if below % 2 = 0 then below else above, ten⟩

/-- Try finer and finer grids. -/
def Interval.search (interval : Interval) : Nat → Int → Shortest
  | 0, ten => ⟨interval.floor ten, ten⟩
  | fuel + 1, ten =>
    match interval.onGrid? ten with
    | some decimal => decimal
    | none => search interval fuel (ten - 1)

/-- The fewest digits for a positive mantissa and its exponent. The search starts
above the magnitude of every finite number and the first hit has the fewest
digits. -/
def shortest (mantissa : Nat) (exponent : Int) : Shortest :=
  (Interval.around mantissa exponent).search 700 310

/-- A decimal as its significant digits and the power of ten of the first. Zeros
at the end are not significant. -/
def Shortest.significant (decimal : Shortest) : Text × Int :=
  let digits := Nat.toDigits 10 decimal.digits
  let power := decimal.exponent + (digits.length : Int) - 1
  ((digits.reverse.dropWhile (· == '0')).reverse, power)

/-- Significant digits in positional notation, with at least one decimal place. -/
def positional (digits : Text) (power : Int) : Text :=
  if power < 0 then
    '0' :: '.' :: List.replicate ((-power).toNat - 1) '0' ++ digits
  else
    let whole := power.toNat + 1
    if digits.length ≤ whole then
      digits ++ List.replicate (whole - digits.length) '0' ++ ['.', '0']
    else
      digits.take whole ++ '.' :: digits.drop whole

/-- Significant digits in scientific notation. The exponent has a sign and at
least two digits. -/
def scientific (digits : Text) (power : Int) : Text :=
  let mantissa := match digits with
    | [] => []
    | [digit] => [digit]
    | digit :: rest => digit :: '.' :: rest
  let exponent := Nat.toDigits 10 power.natAbs
  let sign := if power < 0 then '-' else '+'
  mantissa ++ 'e' :: sign :: List.replicate (2 - exponent.length) '0' ++ exponent

/-- The text of a number's magnitude: positional from a ten-thousandth up to ten
to the sixteenth, scientific outside. Infinity and the undefined value have the
given names. -/
def magnitudeText (infinity undefined : Text) (number : Binary64) : Text :=
  match number.magnitude with
  | .finite 0 _ => ['0', '.', '0']
  | .finite mantissa exponent =>
    let (digits, power) := (shortest mantissa exponent).significant
    if -4 ≤ power ∧ power < 16 then positional digits power else scientific digits power
  | .infinite => infinity
  | .notANumber => undefined

/-- The text of a number. The undefined value has no sign. -/
def shortestText (infinity undefined : Text) (number : Binary64) : Text :=
  let text := magnitudeText infinity undefined number
  if number.isNegative && number.magnitude != .notANumber then '-' :: text else text

end RegionBuild.Decimal
