import RegionBuild.Diagnostic.Basic
import RegionBuild.Text.Lines
import RegionBuild.Text.Numeral

/-!
# Reading the compiler's output

A diagnostic starts with a heading, `path(line,column): severity TScode: message`
or the same without the location. Indented lines after it continue its message.
All other lines are noise. Of the places in a line at which a location could
stand the first that makes it a heading counts, so the path is as short as it
can be.
-/

namespace RegionBuild.Diagnostic

/-- The severities a heading may have. -/
inductive Severity where
  | error
  | warning
  | message
  | suggestion
deriving DecidableEq, Repr

/-- A severity as the compiler writes it. -/
def Severity.name : Severity → Text
  | .error => "error".toList
  | .warning => "warning".toList
  | .message => "message".toList
  | .suggestion => "suggestion".toList

/-- A severity as it starts a message. -/
def Severity.capitalized : Severity → Text
  | .error => "Error".toList
  | .warning => "Warning".toList
  | .message => "Message".toList
  | .suggestion => "Suggestion".toList

/-- Every severity. -/
def Severity.all : List Severity := [.error, .warning, .message, .suggestion]

/-- The parts of a heading after its location. The code is a sequence of digits. -/
structure Body where
  severity : Severity
  code : Text
  message : Text
deriving DecidableEq, Repr

/-- The parts of a heading. Path, line and column are empty without a location. -/
structure Heading where
  path : Text
  line : Text
  column : Text
  body : Body
deriving DecidableEq, Repr

/-- The text after a literal at its start. -/
def after? (literal text : Text) : Option Text :=
  if literal.isPrefixOf text then some (text.drop literal.length) else none

/-- The text after at least one blank at its start, and after all further blanks. -/
def afterBlanks? : Text → Option Text
  | first :: rest => if Text.isBlank first then some (Text.stripStart rest) else none
  | [] => none

/-- At least one digit at the start of a text, and the rest. -/
def digits? (text : Text) : Option (Text × Text) :=
  match text.span Text.isDecimalDigit with
  | ([], _) => none
  | found => some found

/-- The severity at the start of a text, and the rest. -/
def severity? (text : Text) : Option (Severity × Text) :=
  Severity.all.findSome? fun severity =>
    (after? severity.name text).map fun rest => (severity, rest)

/-- Read `severity TScode: message`. -/
def body? (text : Text) : Option Body := do
  let (severity, rest) ← severity? text
  let rest ← afterBlanks? rest
  let rest ← after? ['T', 'S'] rest
  let (code, rest) ← digits? rest
  let rest ← after? [':'] rest
  return ⟨severity, code, Text.stripStart rest⟩

/-- Read `(line,column): severity TScode: message` after a path, whose characters are
given in reverse. -/
def located? (passed text : Text) : Option Heading := do
  let rest ← after? ['('] text
  let (line, rest) ← digits? rest
  let rest ← after? [','] rest
  let (column, rest) ← digits? rest
  let rest ← after? [')', ':'] rest
  let rest ← afterBlanks? rest
  let body ← body? rest
  return ⟨passed.reverse, line, column, body⟩

/-- Look for the first location after a non-empty path. The characters passed so
far are in reverse. -/
def findLocated? (passed : Text) : Text → Option Heading
  | [] => none
  | first :: rest =>
    match if passed.isEmpty then none else located? passed (first :: rest) with
    | some heading => some heading
    | none => findLocated? (first :: passed) rest

/-- The heading on a line: one with a location, or else one without. -/
def heading? (line : Text) : Option Heading :=
  match findLocated? [] line with
  | some heading => some heading
  | none => (body? (Text.strip line)).map fun body => ⟨[], [], [], body⟩

/-- A diagnostic that is still being read. Its continuation lines are in reverse. -/
structure Pending where
  heading : Heading
  code : Nat
  line : Nat
  column : Nat
  continuation : List Text
deriving DecidableEq, Repr

/-- Read the numbers of a heading. A location that is missing has zeros. -/
def pendingOf (heading : Heading) : Except Numeral.Fault Pending := do
  let code ← Numeral.ofDigits heading.body.code
  let line ← Numeral.ofDigits heading.line
  let column ← Numeral.ofDigits heading.column
  return ⟨heading, code, line, column, []⟩

/-- The diagnostic that was read. -/
def Pending.finish (pending : Pending) : Diagnostic :=
  let severity := pending.heading.body.severity
  let text := Text.join ['\n'] (pending.heading.body.message :: pending.continuation.reverse)
  { message := severity.capitalized ++ " TS".toList ++ Text.ofNat pending.code ++
      ':' :: ' ' :: text
    path := pending.heading.path
    line := pending.line
    column := pending.column
    severity := severity.name
    code := some pending.code }

/-- Whether a line is indented and not blank. -/
def continues (line : Text) : Bool :=
  match line with
  | first :: _ => (first == ' ' || first == '\t') && !(Text.strip line).isEmpty
  | [] => false

/-- Read lines after a diagnostic that may still be continued. -/
def collect (pending : Option Pending) : List Text → Except Numeral.Fault (List Diagnostic)
  | [] => .ok (pending.toList.map Pending.finish)
  | line :: rest =>
    match pending, continues line with
    | some current, true =>
      collect (some { current with continuation := Text.strip line :: current.continuation }) rest
    | _, _ =>
      match heading? line with
      | none => collect pending rest
      | some heading => do
        let next ← pendingOf heading
        let more ← collect (some next) rest
        return pending.toList.map Pending.finish ++ more

/-- The diagnostics in the compiler's output. -/
def parse (output : Text) : Except Numeral.Fault (List Diagnostic) :=
  collect none (Text.lines output)

end RegionBuild.Diagnostic
