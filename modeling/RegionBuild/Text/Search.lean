import RegionBuild.Text.Utf8

/-!
# Searching whole texts

Searches over a complete text run on its UTF-8 bytes. A search finds the first
occurrence; an empty pattern occurs at the start of every text.
-/

namespace RegionBuild.Text

/-- The position of the first occurrence of a pattern in a list. -/
def find? {α : Type} [BEq α] (pattern : List α) : List α → Option Nat
  | [] => if pattern.isPrefixOf [] then some 0 else none
  | first :: rest =>
    if pattern.isPrefixOf (first :: rest) then some 0
    else (find? pattern rest).map (· + 1)

/-- Whether the bytes of a pattern occur among the bytes of a text. -/
def contains (text pattern : Text) : Bool :=
  (find? (Utf8.encode pattern) (Utf8.encode text)).isSome

/-- Whether one of the patterns occurs in the text. Empty patterns are ignored. -/
def containsAny (text : Text) (patterns : List Text) : Bool :=
  patterns.any fun pattern => !pattern.isEmpty && contains text pattern

/-- The line feed byte, which ends a line. -/
def lineFeed : UInt8 := 0x0A

/-- The carriage return byte, which may stand before a line feed. -/
def carriageReturn : UInt8 := 0x0D

/-- The text without the first occurrence of the marker and the rest of its line.
The line's ending stays, both characters of it if it has two. The byte before
the ending is decoded on its own to tell whether it is a carriage return, so a
line that ends in a character of several bytes is a fault. -/
def removeLineFrom (text marker : Text) : Except Utf8.Fault Text :=
  let bytes := Utf8.encode text
  match find? (Utf8.encode marker) bytes with
  | none => .ok text
  | some start => do
    let line := (bytes.drop start).takeWhile (· != lineFeed)
    let ending := (bytes.drop start).dropWhile (· != lineFeed)
    let returned ← match line.getLast? with
      | none => pure false
      | some last => (· == ['\r']) <$> Utf8.decode [last]
    let before ← Utf8.decode (bytes.take start)
    let after ← Utf8.decode (if returned then carriageReturn :: ending else ending)
    return before ++ after

end RegionBuild.Text
