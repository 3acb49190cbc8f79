import RegionBuild.Decimal.Shortest
import RegionBuild.Json.Basic
import RegionBuild.Text.Quoted

/-!
# Writing JSON

A value is written on one line with a blank after every comma and colon. The
text is ASCII: other code points are written as escapes of their UTF-16 units.
Doubles that are no finite number are written by name. The second form shows a
value inside a message.
-/

namespace RegionBuild.Json

/-- An escape of one UTF-16 unit. -/
def escapeUnit (unit : Nat) : Text := '\\' :: 'u' :: Text.hexPadded 4 unit

/-- One code point of a string. -/
def writeCode (code : CodePoint) : Text :=
  if code.val = 0x22 then ['\\', '"']
  else if code.val = 0x5C then ['\\', '\\']
  else if code.val = 0x0A then ['\\', 'n']
  else if code.val = 0x0D then ['\\', 'r']
  else if code.val = 0x09 then ['\\', 't']
  else if code.val = 0x0C then ['\\', 'f']
  else if code.val = 0x08 then ['\\', 'b']
  else if 0x20 ≤ code.val ∧ code.val ≤ 0x7E then [Char.ofNat code.val]
  else if code.val < 0x10000 then escapeUnit code.val
  else
    escapeUnit (0xD800 + (code.val - 0x10000) / 0x400) ++
      escapeUnit (0xDC00 + (code.val - 0x10000) % 0x400)

/-- A string between double quotes. -/
def writeString (codes : List CodePoint) : Text := '"' :: codes.flatMap writeCode ++ ['"']

/-- A double in JSON. -/
def writeFloat (number : Decimal.Binary64) : Text :=
  Decimal.shortestText "Infinity".toList "NaN".toList number

mutual

/-- The text of a value. -/
def write : Json → Text
  | .null => ['n', 'u', 'l', 'l']
  | .bool true => ['t', 'r', 'u', 'e']
  | .bool false => ['f', 'a', 'l', 's', 'e']
  | .int value => Text.ofInt value
  | .float value => writeFloat value
  | .str codes => writeString codes
  | .arr [] => ['[', ']']
  | .arr (item :: items) => '[' :: write item ++ writeItems items
  | .obj [] => ['{', '}']
  | .obj ((key, value) :: members) =>
    '{' :: writeString key ++ ':' :: ' ' :: write value ++ writeMembers members

/-- The items after the first, and the closing bracket. -/
def writeItems : List Json → Text
  | [] => [']']
  | item :: items => ',' :: ' ' :: write item ++ writeItems items

/-- The members after the first, and the closing brace. -/
def writeMembers : List (List CodePoint × Json) → Text
  | [] => ['}']
  | (key, value) :: members =>
    ',' :: ' ' :: writeString key ++ ':' :: ' ' :: write value ++ writeMembers members

end

/-- A string as it is shown in a message. -/
def showString (codes : List CodePoint) : Text := Text.quoteCodes (codes.map Fin.val)

/-- A double as it is shown in a message. -/
def showFloat (number : Decimal.Binary64) : Text :=
  Decimal.shortestText "inf".toList "nan".toList number

mutual

/-- A value as it is shown in a message. -/
def display : Json → Text
  | .null => "None".toList
  | .bool true => "True".toList
  | .bool false => "False".toList
  | .int value => Text.ofInt value
  | .float value => showFloat value
  | .str codes => showString codes
  | .arr [] => ['[', ']']
  | .arr (item :: items) => '[' :: display item ++ displayItems items
  | .obj [] => ['{', '}']
  | .obj ((key, value) :: members) =>
    '{' :: showString key ++ ':' :: ' ' :: display value ++ displayMembers members

/-- The items after the first, and the closing bracket. -/
def displayItems : List Json → Text
  | [] => [']']
  | item :: items => ',' :: ' ' :: display item ++ displayItems items

/-- The members after the first, and the closing brace. -/
def displayMembers : List (List CodePoint × Json) → Text
  | [] => ['}']
  | (key, value) :: members =>
    ',' :: ' ' :: showString key ++ ':' :: ' ' :: display value ++ displayMembers members

end

end RegionBuild.Json
