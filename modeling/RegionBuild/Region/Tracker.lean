import RegionBuild.Region.Code
import RegionBuild.Region.TailBuffer

/-!
# Tracking the inside of a region

Inside a region the tracker follows comments and, when it is string aware,
string and regular expression literals, so that braces in them do not disturb
the brace depth. The region closes at the brace that brings the depth to zero.

Tokens are matched only from the floor on, the position at which the last token
ended. The tail of one token is therefore never the head of the next, as it
would be in `/*/` or `*//`.
-/

namespace RegionBuild.Region

/-- The three delimiters of string literals. -/
inductive Quote where
  | single
  | double
  | template
deriving DecidableEq, Repr

/-- The character that opens and closes a string literal. -/
def Quote.mark : Quote → Char
  | .single => '\''
  | .double => '"'
  | .template => '\x60'

/-- The delimiter that a character stands for. -/
def Quote.ofChar? (char : Char) : Option Quote :=
  if char = '\'' then some .single
  else if char = '"' then some .double
  else if char = '\x60' then some .template
  else none

/-- What kind of text the tracker is in. -/
inductive Context where
  | code
  | lineComment
  | blockComment
  /-- A string literal; whether its next character is escaped. -/
  | quoted (quote : Quote) (escaped : Bool)
  /-- A regular expression literal: the number of its characters read, whether the
  next one is escaped, and whether it stands in a character class. -/
  | regex (length : Nat) (escaped inClass : Bool)
deriving DecidableEq, Repr

/-- Whether a character ends a line comment or an unfinished literal. -/
def isLineEnd (char : Char) : Bool := char == '\r' || char == '\n'

/-- What was read, from where tokens may be matched, the context, the number of
open braces and the last significant piece of code. -/
structure Tracker where
  consumed : TailBuffer
  floor : Nat
  context : Context
  depth : Nat
  piece : Piece

namespace Tracker

/-- Nothing read, outside every region. -/
def start : Tracker where
  consumed := .empty
  floor := 0
  context := .code
  depth := 0
  piece := .mark '{'

/-- Read one more character without looking at it. -/
def push (tracker : Tracker) (char : Char) : Tracker :=
  { tracker with consumed := tracker.consumed.pushChar char }

/-- Whether the last character read completes the literal above the floor. -/
def completes (tracker : Tracker) (literal : Text) : Bool :=
  decide (tracker.floor + literal.length ≤ tracker.consumed.size) &&
    tracker.consumed.endsWith literal

/-- Go over to a context. Tokens are matched from here on. -/
def enter (tracker : Tracker) (context : Context) : Tracker :=
  { tracker with context, floor := tracker.consumed.size }

/-- Enter a region: one brace is open and an operand is expected. -/
def openRegion (tracker : Tracker) : Tracker :=
  { tracker.enter .code with depth := 1, piece := .mark '{' }

/-- Leave a region. -/
def closeRegion (tracker : Tracker) : Tracker :=
  { tracker.enter .code with depth := 0 }

/-- The start of a region of its own, before its first character. -/
def fresh : Tracker := start.openRegion

/-- Close a literal. It is an operand, so a slash after it divides. -/
def closeLiteral (tracker : Tracker) (delimiter : Char) : Tracker :=
  { tracker.enter .code with piece := .mark delimiter }

/-- One character of a string literal. A line end closes a plain literal, which
cannot span lines. -/
def advanceQuoted (tracker : Tracker) (quote : Quote) (escaped : Bool) (char : Char) :
    Tracker :=
  if escaped then { tracker with context := .quoted quote false }
  else if char = '\\' then { tracker with context := .quoted quote true }
  else if char = quote.mark then tracker.closeLiteral char
  else if isLineEnd char && quote != .template then tracker.enter .code
  else tracker

/-- One character of a regular expression literal. What looked like its start is
the start of a comment if a slash or a star follows at once. -/
def advanceRegex (tracker : Tracker) (length : Nat) (escaped inClass : Bool) (char : Char) :
    Tracker :=
  if length = 0 ∧ char = '/' then tracker.enter .lineComment
  else if length = 0 ∧ char = '*' then tracker.enter .blockComment
  else if escaped then { tracker with context := .regex (length + 1) false inClass }
  else if char = '\\' then { tracker with context := .regex (length + 1) true inClass }
  else if char = '[' then { tracker with context := .regex (length + 1) false true }
  else if char = ']' then { tracker with context := .regex (length + 1) false false }
  else if char = '/' ∧ !inClass then tracker.closeLiteral char
  else if isLineEnd char then tracker.enter .code
  else { tracker with context := .regex (length + 1) false inClass }

/-- One character of code that starts no comment and no literal. The second
component says whether the region just closed. -/
def advancePlain (tracker : Tracker) (char : Char) : Tracker × Bool :=
  let noted := { tracker with piece := tracker.piece.note char }
  if char = '{' then ({ noted with depth := noted.depth + 1 }, false)
  else if char = '}' then
    ({ noted with depth := noted.depth - 1 }, decide (noted.depth ≤ 1))
  else (noted, false)

/-- One character of code. -/
def advanceCode (stringAware : Bool) (tracker : Tracker) (char : Char) : Tracker × Bool :=
  if tracker.completes ['/', '/'] then (tracker.enter .lineComment, false)
  else if tracker.completes ['/', '*'] then (tracker.enter .blockComment, false)
  else if stringAware && char == '/' && tracker.piece.expectsOperand then
    (tracker.enter (.regex 0 false false), false)
  else
    match if stringAware then Quote.ofChar? char else none with
    | some quote => (tracker.enter (.quoted quote false), false)
    | none => tracker.advancePlain char

/-- Follow one character that was just read inside a region. The second component
says whether the region just closed. -/
def advance (stringAware : Bool) (tracker : Tracker) (char : Char) : Tracker × Bool :=
  match tracker.context with
  | .code => tracker.advanceCode stringAware char
  | .lineComment => (if isLineEnd char then tracker.enter .code else tracker, false)
  | .blockComment =>
    (if tracker.completes ['*', '/'] then tracker.enter .code else tracker, false)
  | .quoted quote escaped => (tracker.advanceQuoted quote escaped char, false)
  | .regex length escaped inClass =>
    (tracker.advanceRegex length escaped inClass char, false)

end Tracker

end RegionBuild.Region
