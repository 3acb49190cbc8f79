import RegionBuild.Text.Basic

/-!
# Output that can be taken back

Every character the scanner reads is first put into a draft. Once the scanner
knows that characters must not be emitted it takes them back from the end.
-/

namespace RegionBuild.Region

/-- The characters put out so far, in reverse. -/
structure Draft where
  reversed : Text
deriving DecidableEq, Repr

namespace Draft

/-- Nothing put out yet. -/
def empty : Draft := ⟨[]⟩

/-- The draft in writing order. -/
def toText (draft : Draft) : Text := draft.reversed.reverse

/-- The number of characters in the draft. -/
def size (draft : Draft) : Nat := draft.reversed.length

/-- Put out one more character. -/
def pushChar (draft : Draft) (char : Char) : Draft := ⟨char :: draft.reversed⟩

/-- Put out a text. -/
def push (draft : Draft) (text : Text) : Draft := text.foldl pushChar draft

/-- Take back the last characters. More than there are empties the draft. -/
def drop (draft : Draft) (count : Nat) : Draft := ⟨draft.reversed.drop count⟩

/-- Take back a signed number of characters; a negative number takes back none. -/
def shrink (draft : Draft) (count : Int) : Draft := draft.drop count.toNat

end Draft

end RegionBuild.Region
