import RegionBuild.Text.Alphanumeric
import RegionBuild.Text.Blank

/-!
# What was last read as code

A slash in code is either a division or the start of a regular expression
literal. Which of the two depends on the last significant piece of code: after
an operator, an opening bracket or a keyword such as `return` an operand is
expected, so the slash starts a literal; after anything else it divides.
-/

namespace RegionBuild.Region

/-- Whether a character may be part of an identifier. -/
def isIdentifierChar (char : Char) : Bool :=
  Text.isAlphanumeric char || char == '_' || char == '$'

/-- The code characters after which an operand is expected. -/
def operandPreceders : List Char :=
  ['(', ',', '=', ':', '[', '!', '&', '|', '?', '{', '}', ';', '+', '-', '*', '%',
   '<', '>', '~', '^']

/-- The words after which an operand is expected. -/
def operandKeywords : List Text :=
  ["return", "typeof", "instanceof", "in", "of", "new", "delete", "void", "throw", "case",
   "do", "else", "yield", "await"].map String.toList

/-- The last significant piece of code. -/
inductive Piece where
  /-- A character that is no part of an identifier, or the delimiter that closed
  a literal. -/
  | mark (char : Char)
  /-- An identifier, its letters in reverse. It is growing while the next
  identifier character still belongs to it. -/
  | word (letters : Text) (growing : Bool)
deriving DecidableEq, Repr

namespace Piece

/-- Whether an operand is expected after the piece. -/
def expectsOperand : Piece → Bool
  | .mark char => operandPreceders.contains char
  | .word letters _ => operandKeywords.contains letters.reverse

/-- The piece after one more code character. White space ends a word and is not
significant itself. -/
def note (piece : Piece) (char : Char) : Piece :=
  if Text.isBlank char then
    match piece with
    | .word letters _ => .word letters false
    | .mark last => .mark last
  else if isIdentifierChar char then
    match piece with
    | .word letters true => .word (char :: letters) true
    | _ => .word [char] true
  else
    .mark char

end Piece

end RegionBuild.Region
