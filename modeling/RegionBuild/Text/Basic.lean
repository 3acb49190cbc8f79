/-!
# Text as a sequence of code points

Every text the library reads or writes is a list of Unicode code points, so all
lengths, positions and cuts count code points. The operations here know nothing
of any one format: decimal numerals, pieces between separators, and membership
of a code point in a table of closed ranges. Cutting into pieces works for
sequences of anything.
-/

namespace RegionBuild

/-- A text is the list of its code points. -/
abbrev Text := List Char

namespace Text

/-- The decimal numeral of a natural number, without leading zeros. -/
def ofNat (number : Nat) : Text := Nat.toDigits 10 number

/-- The decimal numeral of an integer; a minus sign stands before a negative one. -/
def ofInt : Int → Text
  | .ofNat number => ofNat number
  | .negSucc number => '-' :: ofNat (number + 1)

/-- The pieces between the separators. There is one piece more than there are
separators, so even the empty sequence has one piece. -/
def splitOn {α : Type} [DecidableEq α] (separator : α) : List α → List (List α)
  | [] => [[]]
  | first :: rest =>
    if first = separator then
      [] :: splitOn separator rest
    else
      match splitOn separator rest with
      | [] => [[first]]
      | piece :: pieces => (first :: piece) :: pieces

/-- The pieces one after the other with the separator between neighbours. -/
def join {α : Type} (separator : List α) (pieces : List (List α)) : List α :=
  List.intercalate separator pieces

/-- Whether a code point lies in one of the closed ranges of a table. -/
def inRanges (table : List (Nat × Nat)) (code : Nat) : Bool :=
  table.any fun range => decide (range.1 ≤ code ∧ code ≤ range.2)

/-- Every occurrence of one code point becomes another. -/
def replaceChar (old new : Char) (text : Text) : Text :=
  text.map fun char => if char = old then new else char

end Text

end RegionBuild
