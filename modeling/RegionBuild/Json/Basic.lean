import RegionBuild.Decimal.Binary64
import RegionBuild.Text.Basic

/-!
# JSON values

Integers are exact and numbers with a fraction or an exponent are doubles. An
object keeps its members in order; putting a key that is there already changes
the value in place. A string is a sequence of code points and not a text,
because an escape can write a surrogate that has no partner.
-/

namespace RegionBuild

/-- A code point, surrogates included. -/
abbrev CodePoint := Fin 0x110000

/-- A JSON value. -/
inductive Json where
  | null
  | bool (value : Bool)
  | int (value : Int)
  | float (value : Decimal.Binary64)
  | str (codes : List CodePoint)
  | arr (items : List Json)
  | obj (members : List (List CodePoint × Json))
deriving Repr

namespace Json

/-- The kinds of JSON values. -/
inductive Kind where
  | null
  | bool
  | int
  | float
  | str
  | arr
  | obj
deriving DecidableEq, Repr

/-- The kind of a value. -/
def kind : Json → Kind
  | .null => .null
  | .bool _ => .bool
  | .int _ => .int
  | .float _ => .float
  | .str _ => .str
  | .arr _ => .arr
  | .obj _ => .obj

/-- How messages name a kind. -/
def Kind.name : Kind → String
  | .null => "NoneType"
  | .bool => "bool"
  | .int => "int"
  | .float => "float"
  | .str => "str"
  | .arr => "list"
  | .obj => "dict"

/-- The code point with a number. -/
def codePoint (number : Nat) : CodePoint := Fin.ofNat 0x110000 number

/-- The code point of a character. -/
def codeOf (char : Char) : CodePoint := codePoint char.toNat

/-- The code points of a text. -/
def codesOf (text : Text) : List CodePoint := text.map codeOf

/-- The character of a code point that is no surrogate. -/
def charOf? (code : CodePoint) : Option Char :=
  if code.val < 0xD800 ∨ 0xDFFF < code.val then some (Char.ofNat code.val) else none

/-- The text of a string without surrogates. -/
def textOf? (codes : List CodePoint) : Option Text := codes.mapM charOf?

/-- A text as a JSON string. -/
def ofText (text : Text) : Json := .str (codesOf text)

/-- The value of a key. -/
def get? (key : List CodePoint) (members : List (List CodePoint × Json)) : Option Json :=
  (members.find? fun member => member.1 == key).map Prod.snd

/-- Put a value under a key: in place if the key is there, at the end if not. -/
def put (key : List CodePoint) (value : Json) :
    List (List CodePoint × Json) → List (List CodePoint × Json)
  | [] => [(key, value)]
  | member :: rest =>
    if member.1 = key then (key, value) :: rest else member :: put key value rest

end Json

end RegionBuild
