import RegionBuild.Text.Basic

/-!
# Lines

Two notions of a line meet here. Files are read with universal newlines: a
carriage return, alone or before a line feed, becomes a line feed, and line
numbers count line feeds. Compiler output is cut at every Unicode line boundary.
-/

namespace RegionBuild.Text

/-- Universal newlines: every line ending becomes one line feed. -/
def unifyNewlines : Text → Text
  | [] => []
  | '\r' :: '\n' :: rest => '\n' :: unifyNewlines rest
  | '\r' :: rest => '\n' :: unifyNewlines rest
  | char :: rest => char :: unifyNewlines rest

/-- Whether a character ends a line of its own accord. -/
def isLineBoundary (char : Char) : Bool :=
  let code := char.toNat
  decide (0x0A ≤ code ∧ code ≤ 0x0D) || decide (0x1C ≤ code ∧ code ≤ 0x1E) ||
    code == 0x85 || code == 0x2028 || code == 0x2029

/-- The lines between the boundaries, without them. A carriage return before a
line feed belongs to the same boundary, and a boundary at the very end starts no
further line. -/
def lines : Text → List Text
  | [] => []
  | '\r' :: '\n' :: rest => [] :: lines rest
  | char :: rest =>
    if isLineBoundary char then
      [] :: lines rest
    else
      match lines rest with
      | [] => [[char]]
      | line :: more => (char :: line) :: more

/-- The one-based line of the position, counting the line feeds before it. -/
def lineAt (text : Text) (position : Nat) : Nat :=
  (text.take position).count '\n' + 1

/-- A signed index as a position: a negative one counts back from the end, and
one outside the text means its nearer end. -/
def positionOf (length : Nat) : Int → Nat
  | .ofNat index => index
  | .negSucc back => length - (back + 1)

/-- The one-based line of a signed index. -/
def lineAtIndex (text : Text) (index : Int) : Nat :=
  lineAt text (positionOf text.length index)

end RegionBuild.Text
