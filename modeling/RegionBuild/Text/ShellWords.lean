import RegionBuild.Text.Basic

/-!
# Words of a command line

A command line is cut into words as a shell does, without expansions. Words are
separated by spaces, tabs and line ends. Single quotes keep everything between
them; between double quotes a backslash escapes only a double quote or another
backslash; outside quotes it takes the next character as it is. A quoted part
makes a word even when it is empty.
-/

namespace RegionBuild.ShellWords

/-- Why a command line has no words. -/
inductive Fault where
  /-- A quote is still open at the end. -/
  | unclosedQuote
  /-- A backslash stands at the end. -/
  | nothingEscaped
deriving DecidableEq, Repr

/-- The wording of a fault. -/
def Fault.message : Fault → String
  | .unclosedQuote => "No closing quotation"
  | .nothingEscaped => "No escaped character"

/-- Where the reader stands. The characters of the current word are in reverse. -/
inductive State where
  /-- Between words. -/
  | gap
  /-- Inside a word and outside quotes. -/
  | word (letters : Text)
  /-- After a backslash outside quotes. -/
  | escaped (letters : Text)
  /-- Between single quotes. -/
  | single (letters : Text)
  /-- Between double quotes. -/
  | double (letters : Text)
  /-- After a backslash between double quotes. -/
  | doubleEscaped (letters : Text)
deriving DecidableEq, Repr

/-- Whether a character separates words. -/
def isSeparator (char : Char) : Bool :=
  char == ' ' || char == '\t' || char == '\r' || char == '\n'

/-- The state after a character that stands outside quotes, in or at the start of
the word with the given letters. -/
def outside (letters : Text) : Char → State
  | '\\' => .escaped letters
  | '\'' => .single letters
  | '"' => .double letters
  | char => .word (char :: letters)

/-- Read on from a state; the words found are the result. -/
def read : State → Text → Except Fault (List Text)
  | .gap, [] => .ok []
  | .word letters, [] => .ok [letters.reverse]
  | .escaped _, [] => .error .nothingEscaped
  | .doubleEscaped _, [] => .error .nothingEscaped
  | .single _, [] => .error .unclosedQuote
  | .double _, [] => .error .unclosedQuote
  | .gap, char :: rest =>
    if isSeparator char then read .gap rest else read (outside [] char) rest
  | .word letters, char :: rest =>
    if isSeparator char then (letters.reverse :: ·) <$> read .gap rest
    else read (outside letters char) rest
  | .escaped letters, char :: rest => read (.word (char :: letters)) rest
  | .single letters, char :: rest =>
    if char = '\'' then read (.word letters) rest else read (.single (char :: letters)) rest
  | .double letters, char :: rest =>
    if char = '"' then read (.word letters) rest
    else if char = '\\' then read (.doubleEscaped letters) rest
    else read (.double (char :: letters)) rest
  | .doubleEscaped letters, char :: rest =>
    if char = '"' ∨ char = '\\' then read (.double (char :: letters)) rest
    else read (.double (char :: '\\' :: letters)) rest

/-- The words of a command line. -/
def split (line : Text) : Except Fault (List Text) := read .gap line

end RegionBuild.ShellWords
