import RegionBuild.Text.Basic

/-!
# Compiler diagnostics

A diagnostic is one message of the compiler. Line and column count from one and
are zero when the message is not tied to a file, in which case the path is empty.
-/

namespace RegionBuild

/-- One message of the compiler. -/
structure Diagnostic where
  message : Text
  path : Text
  line : Int
  column : Int
  severity : Text
  code : Option Int
deriving DecidableEq, Repr

/-- The severity of a diagnostic that makes a build fail. -/
def errorSeverity : Text := "error".toList

namespace Diagnostic

/-- Whether a diagnostic makes a build fail. -/
def isError (diagnostic : Diagnostic) : Bool := diagnostic.severity == errorSeverity

/-- A diagnostic on one line: its location, if it has one, and its message. -/
def render (diagnostic : Diagnostic) : Text :=
  match diagnostic.path with
  | [] => diagnostic.message
  | path =>
    path ++ ':' :: Text.ofInt diagnostic.line ++ ':' :: Text.ofInt diagnostic.column ++
      ':' :: ' ' :: diagnostic.message

end Diagnostic

end RegionBuild
