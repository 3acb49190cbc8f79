import RegionBuild.Text.Blank
import RegionBuild.Text.DecimalDigit
import RegionBuild.Text.Quoted

/-!
# Reading numerals

Numerals are read in base ten with the decimal digits of any script. A numeral
of more digits than the limit is refused, leading zeros included, so that its
value is never computed.
-/

namespace RegionBuild.Numeral

/-- The greatest number of digits a numeral may have. -/
def digitLimit : Nat := 4300

/-- Why a text was not read as a number. -/
inductive Fault where
  /-- It has more digits than the limit; the number of its digits. -/
  | oversized (digits : Nat)
  /-- It is no numeral. -/
  | malformed (text : Text)
deriving DecidableEq, Repr

/-- The wording of a fault. A long malformed text is cut after 200 characters. -/
def Fault.message : Fault → String
  | .oversized digits =>
    s!"Exceeds the limit ({digitLimit} digits) for integer string conversion: " ++
    s!"value has {digits} digits; use sys.set_int_max_str_digits() to increase the limit"
  | .malformed text =>
    "invalid literal for int() with base 10: " ++ String.ofList ((Text.quoted text).take 200)

/-- The value of a sequence of digit values, the first the most significant. -/
def value (digits : List Nat) : Nat := digits.foldl (fun sum digit => 10 * sum + digit) 0

/-- The number that digits denote, unless there are too many of them. -/
def ofDigits (digits : Text) : Except Fault Nat :=
  if digitLimit < digits.length then
    .error (.oversized digits.length)
  else
    .ok (value (digits.filterMap Text.digitValue?))

/-- The digits among digits and underscores. An underscore stands alone between two
digits; `none` if one does not. -/
def groupedDigits? : Text → Option Text
  | [] => none
  | [digit] => if Text.isDecimalDigit digit then some [digit] else none
  | digit :: '_' :: rest =>
    if Text.isDecimalDigit digit then (groupedDigits? rest).map (digit :: ·) else none
  | digit :: rest =>
    if Text.isDecimalDigit digit then (groupedDigits? rest).map (digit :: ·) else none

/-- Whether a character may stand around a numeral. The information separators may
not, though they are white space elsewhere. -/
def isMargin (char : Char) : Bool :=
  Text.isBlank char && !decide (0x1C ≤ char.toNat ∧ char.toNat ≤ 0x1F)

/-- Whether a character may stand in a numeral after its sign. -/
def isNumeralChar (char : Char) : Bool := char == '_' || Text.isDecimalDigit char

/-- Whether a numeral is negative, and what follows its sign. -/
def splitSign : Text → Bool × Text
  | '-' :: rest => (true, rest)
  | '+' :: rest => (false, rest)
  | rest => (false, rest)

/-- The integer that a text denotes. White space around it and one sign before the
digits are allowed. The digits are counted before anything is made of what follows
them. -/
def readInt (text : Text) : Except Fault Int :=
  let (negative, body) := splitSign (text.dropWhile isMargin)
  match groupedDigits? (body.takeWhile isNumeralChar) with
  | none => .error (.malformed text)
  | some digits => do
    let number ← ofDigits digits
    if (body.dropWhile isNumeralChar).all isMargin then
      return if negative then -(number : Int) else number
    else .error (.malformed text)

/-- Whether an integer fits into 64 bits with its sign. -/
def fitsWord (number : Int) : Bool :=
  decide (-9223372036854775808 ≤ number ∧ number < 9223372036854775808)

end RegionBuild.Numeral
