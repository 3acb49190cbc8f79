import RegionBuild.Json.Basic
import RegionBuild.Text.Numeral

/-!
# Reading JSON

The reader takes the standard grammar and, beside it, the names of the doubles
that are no finite number. A fault says what was expected and where. Integers
beyond the digit limit are refused when their value would be computed, and arrays
and objects beyond the nesting limit when they would be entered; these are faults
of other kinds.
-/

namespace RegionBuild.Json

/-- What is wrong at a place of the text. -/
inductive Problem where
  | byteOrderMark
  | value
  | propertyName
  | colon
  | comma
  | extraData
  | controlCharacter
  | unterminatedString
  | escape
  | unicodeEscape
deriving DecidableEq, Repr

/-- The wording of a problem. -/
def Problem.message : Problem → String
  | .byteOrderMark => "Unexpected UTF-8 BOM (decode using utf-8-sig)"
  | .value => "Expecting value"
  | .propertyName => "Expecting property name enclosed in double quotes"
  | .colon => "Expecting ':' delimiter"
  | .comma => "Expecting ',' delimiter"
  | .extraData => "Extra data"
  | .controlCharacter => "Invalid control character at"
  | .unterminatedString => "Unterminated string starting at"
  | .escape => "Invalid \\escape"
  | .unicodeEscape => "Invalid \\uXXXX escape"

/-- Why a text is not read. While reading, a place is the number of characters
from it to the end of the text. -/
inductive Trouble where
  | problem (what : Problem) (remaining : Nat)
  | number (fault : Numeral.Fault)
  | nested (kind : Kind)
deriving DecidableEq, Repr

/-- A problem with its position: line and column from one, character from zero. -/
structure Place where
  line : Nat
  column : Nat
  position : Nat
deriving DecidableEq, Repr

/-- Why a text is not a JSON value. -/
inductive Fault where
  | problem (what : Problem) (place : Place)
  | number (fault : Numeral.Fault)
  /-- An array or object inside too many others. -/
  | nested (kind : Kind)
deriving DecidableEq, Repr

/-- How messages name what can be nested. -/
def Kind.nestedName : Kind → String
  | .arr => "array"
  | _ => "object"

/-- The wording of a fault. -/
def Fault.message : Fault → String
  | .problem what place =>
    s!"{what.message}: line {place.line} column {place.column} (char {place.position})"
  | .number fault => fault.message
  | .nested kind =>
    s!"maximum recursion depth exceeded while decoding a JSON {kind.nestedName} " ++
      "from a unicode string"

/-- How many arrays and objects may stand inside each other. -/
def nestingLimit : Nat := 986

/-- The place of a position in a text. -/
def Place.of (text : Text) (position : Nat) : Place where
  line := (text.take position).count '\n' + 1
  column := ((text.take position).reverse.takeWhile (· != '\n')).length + 1
  position := position

/-- Whether a character may stand between tokens. -/
def isGap (char : Char) : Bool :=
  char == ' ' || char == '\t' || char == '\n' || char == '\r'

/-- The text without leading gaps. -/
def skipGap (text : Text) : Text := text.dropWhile isGap

/-- A problem at the start of the remaining text. -/
def fail {α : Type} (problem : Problem) (rest : Text) : Except Trouble α :=
  .error (.problem problem rest.length)

/-- The value of a hexadecimal digit. -/
def hexDigit? (char : Char) : Option Nat :=
  if char.isDigit then some (char.toNat - 0x30)
  else if 'a' ≤ char ∧ char ≤ 'f' then some (char.toNat - 0x61 + 10)
  else if 'A' ≤ char ∧ char ≤ 'F' then some (char.toNat - 0x41 + 10)
  else none

/-- The unit that four hexadecimal digits denote, and the text after them. At
least one more character has to follow, since the string is still open. -/
def hexUnit? : Text → Option (Nat × Text)
  | a :: b :: c :: d :: next :: rest => do
    let a ← hexDigit? a
    let b ← hexDigit? b
    let c ← hexDigit? c
    let d ← hexDigit? d
    return (((a * 16 + b) * 16 + c) * 16 + d, next :: rest)
  | _ => none

/-- The code point of an escape of one character. -/
def simpleEscape? (char : Char) : Option Nat :=
  match char with
  | '"' => some 0x22
  | '\\' => some 0x5C
  | '/' => some 0x2F
  | 'b' => some 0x08
  | 'f' => some 0x0C
  | 'n' => some 0x0A
  | 'r' => some 0x0D
  | 't' => some 0x09
  | _ => none

/-- Whether a unit is the first half of a surrogate pair. -/
def isHighSurrogate (unit : Nat) : Bool := decide (0xD800 ≤ unit ∧ unit ≤ 0xDBFF)

/-- Whether a unit is the second half of a surrogate pair. -/
def isLowSurrogate (unit : Nat) : Bool := decide (0xDC00 ≤ unit ∧ unit ≤ 0xDFFF)

/-- The code point of a surrogate pair. -/
def joinSurrogates (high low : Nat) : Nat :=
  0x10000 + (high - 0xD800) * 0x400 + (low - 0xDC00)

/-- Read a string after its opening quote. The place of the quote is known so that
an unterminated string can name it. -/
def readString (fuel opening : Nat) (text : Text) :
    Except Trouble (List CodePoint × Text) :=
  match fuel with
  | 0 => .error (.problem .unterminatedString opening)
  | fuel + 1 =>
    let continueWith (code : Nat) (rest : Text) := do
      let (codes, rest) ← readString fuel opening rest
      return (codePoint code :: codes, rest)
    match text with
    | [] => .error (.problem .unterminatedString opening)
    | '"' :: rest => .ok ([], rest)
    | ['\\'] => .error (.problem .unterminatedString opening)
    | '\\' :: 'u' :: rest =>
      match hexUnit? rest with
      | none => fail .unicodeEscape ('u' :: rest)
      | some (unit, after) =>
        match isHighSurrogate unit, after with
        | true, '\\' :: 'u' :: second =>
          if second.length < 5 then continueWith unit after
          else
            match hexUnit? second with
            | none => fail .unicodeEscape ('u' :: second)
            | some (low, beyond) =>
              if isLowSurrogate low then continueWith (joinSurrogates unit low) beyond
              else continueWith unit after
        | _, _ => continueWith unit after
    | '\\' :: char :: rest =>
      match simpleEscape? char with
      | none => fail .escape ('\\' :: char :: rest)
      | some code => continueWith code rest
    | char :: rest =>
      if char.toNat < 0x20 then fail .controlCharacter (char :: rest)
      else continueWith char.toNat rest

/-- The digits at the start of a text, and the rest. -/
def spanDigits (text : Text) : Text × Text := text.span Char.isDigit

/-- The fraction at the start of a text: a point and at least one digit. -/
def fraction? : Text → Option (Text × Text)
  | '.' :: rest =>
    match spanDigits rest with
    | ([], _) => none
    | found => some found
  | _ => none

/-- The exponent at the start of a text: its sign, its digits and the rest. -/
def exponent? : Text → Option (Bool × Text × Text)
  | mark :: rest =>
    if mark != 'e' && mark != 'E' then none
    else
      let (negative, rest) := match rest with
        | '-' :: rest => (true, rest)
        | '+' :: rest => (false, rest)
        | rest => (false, rest)
      match spanDigits rest with
      | ([], _) => none
      | (digits, rest) => some (negative, digits, rest)
  | [] => none

/-- The value of ASCII digits. -/
def digitsValue (digits : Text) : Nat :=
  Numeral.value (digits.map fun digit => digit.toNat - 0x30)

/-- An exponent of so many digits that its size no longer matters is cut short. -/
def exponentValue (negative : Bool) (digits : Text) : Int :=
  let significant := digits.dropWhile (· == '0')
  let size : Nat := if 20 < significant.length then Decimal.tenTo 20 else digitsValue significant
  if negative then -(size : Int) else size

/-- The whole part of a number: one zero, or digits that start with no zero. -/
def whole? : Text → Option (Text × Text)
  | '0' :: rest => some (['0'], rest)
  | text =>
    match spanDigits text with
    | ([], _) => none
    | found => some found

/-- Read a number after its sign. `none` if there is none. -/
def number? (negative : Bool) (text : Text) : Option (Except Trouble Json × Text) :=
  (whole? text).map fun (whole, rest) =>
    let fraction := fraction? rest
    let rest := match fraction with
      | some (_, after) => after
      | none => rest
    let exponent := exponent? rest
    let rest := match exponent with
      | some (_, _, after) => after
      | none => rest
    match fraction, exponent with
    | none, none =>
      let value := match Numeral.ofDigits whole with
        | .ok value => .ok (.int (if negative then -(value : Int) else value))
        | .error fault => .error (.number fault)
      (value, rest)
    | _, _ =>
      let places := match fraction with
        | some (digits, _) => digits
        | none => []
      let scale := match exponent with
        | some (negative, digits, _) => exponentValue negative digits
        | none => 0
      (.ok (.float (Decimal.Binary64.ofDecimal negative (digitsValue (whole ++ places))
        (scale - places.length))), rest)

/-- The values that are written as a word. -/
def words : List (Text × Json) :=
  [("null".toList, .null), ("true".toList, .bool true), ("false".toList, .bool false),
   ("NaN".toList, .float .notANumber), ("Infinity".toList, .float (.infinity false)),
   ("-Infinity".toList, .float (.infinity true))]

/-- The word at the start of a text. -/
def word? (text : Text) : Option (Json × Text) :=
  words.findSome? fun (word, value) =>
    if word.isPrefixOf text then some (value, text.drop word.length) else none

/-- Read a value that is no string, array or object. -/
def readScalar (text : Text) : Except Trouble (Json × Text) :=
  match word? text with
  | some found => .ok found
  | none =>
    let found := match text with
      | '-' :: rest => number? true rest
      | rest => number? false rest
    match found with
    | none => fail .value text
    | some (value, rest) => value.map fun value => (value, rest)

mutual

/-- Read the value at the start of a text. So many more arrays and objects may be
entered. -/
def readValue (fuel depth : Nat) (text : Text) : Except Trouble (Json × Text) :=
  match fuel with
  | 0 => fail .value text
  | fuel + 1 =>
    match text with
    | '"' :: rest => do
      let (codes, rest) ← readString (rest.length + 1) text.length rest
      return (.str codes, rest)
    | '[' :: rest =>
      match depth with
      | 0 => .error (.nested .arr)
      | depth + 1 =>
        match skipGap rest with
        | ']' :: rest => .ok (.arr [], rest)
        | rest => do
          let (items, rest) ← readItems fuel depth rest
          return (.arr items, rest)
    | '{' :: rest =>
      match depth with
      | 0 => .error (.nested .obj)
      | depth + 1 =>
        match skipGap rest with
        | '}' :: rest => .ok (.obj [], rest)
        | rest => do
          let (members, rest) ← readMembers fuel depth [] rest
          return (.obj members, rest)
    | _ => readScalar text

/-- Read the items of an array up to its closing bracket. -/
def readItems (fuel depth : Nat) (text : Text) : Except Trouble (List Json × Text) :=
  match fuel with
  | 0 => fail .value text
  | fuel + 1 => do
    let (item, rest) ← readValue fuel depth text
    match skipGap rest with
    | ']' :: rest => return ([item], rest)
    | ',' :: rest =>
      let (items, rest) ← readItems fuel depth (skipGap rest)
      return (item :: items, rest)
    | rest => fail .comma rest

/-- Read the members of an object up to its closing brace, after those read
before. -/
def readMembers (fuel depth : Nat) (before : List (List CodePoint × Json)) (text : Text) :
    Except Trouble (List (List CodePoint × Json) × Text) :=
  match fuel with
  | 0 => fail .propertyName text
  | fuel + 1 =>
    match text with
    | '"' :: rest => do
      let (key, rest) ← readString (rest.length + 1) text.length rest
      match skipGap rest with
      | ':' :: rest =>
        let (value, rest) ← readValue fuel depth (skipGap rest)
        let members := put key value before
        match skipGap rest with
        | '}' :: rest => return (members, rest)
        | ',' :: rest => readMembers fuel depth members (skipGap rest)
        | rest => fail .comma rest
      | rest => fail .colon rest
    | _ => fail .propertyName text

end

/-- Read a whole text as one value. -/
def readAll (text : Text) : Except Trouble Json := do
  if text.head? = some '\uFEFF' then
    fail .byteOrderMark text
  else
    let start := skipGap text
    let (value, rest) ← readValue (2 * text.length + 2) nestingLimit start
    match skipGap rest with
    | [] => return value
    | rest => fail .extraData rest

/-- The value that a text denotes. -/
def parse (text : Text) : Except Fault Json :=
  match readAll text with
  | .ok value => .ok value
  | .error (.problem what remaining) =>
    .error (.problem what (Place.of text (text.length - remaining)))
  | .error (.number fault) => .error (.number fault)
  | .error (.nested kind) => .error (.nested kind)

end RegionBuild.Json
