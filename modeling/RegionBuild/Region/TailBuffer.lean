import RegionBuild.Text.Basic

/-!
# Matching the tail of what was read

The scanner reads one character at a time and recognises a token when its last
character arrives. The buffer records everything read, last character first, so
a token is compared with the tail in as many steps as the token is long. The
number of characters read is kept beside them.
-/

namespace RegionBuild.Region

/-- The characters read so far, in reverse, and their number. -/
structure TailBuffer where
  reversed : Text
  size : Nat
  size_eq : size = reversed.length := by rfl

namespace TailBuffer

/-- Nothing read yet. -/
def empty : TailBuffer where
  reversed := []
  size := 0

/-- Everything read so far, in reading order. -/
def toText (buffer : TailBuffer) : Text := buffer.reversed.reverse

/-- Read one more character. -/
def pushChar (buffer : TailBuffer) (char : Char) : TailBuffer where
  reversed := char :: buffer.reversed
  size := buffer.size + 1
  size_eq := by simp [buffer.size_eq]

/-- Read a text, one character after the other. -/
def push (buffer : TailBuffer) (text : Text) : TailBuffer :=
  text.foldl pushChar buffer

/-- Whether what was read ends with the literal. -/
def endsWith (buffer : TailBuffer) (literal : Text) : Bool :=
  literal.reverse.isPrefixOf buffer.reversed

/-- Whether what was read ends with one of the literals. -/
def endsWithAny (buffer : TailBuffer) (literals : List Text) : Bool :=
  literals.any buffer.endsWith

end TailBuffer

end RegionBuild.Region
