import RegionBuild.Text.Basic

/-!
# White space

White space is the Unicode property together with the four information
separators. The same set decides where text is stripped, where diagnostics and
configuration lines may have gaps, and which code characters end a word.
-/

namespace RegionBuild.Text

/-- The white space above the control characters and the plain space. -/
def wideBlanks : List (Nat × Nat) :=
  [(0x85, 0x85), (0xA0, 0xA0), (0x1680, 0x1680), (0x2000, 0x200A), (0x2028, 0x2029),
   (0x202F, 0x202F), (0x205F, 0x205F), (0x3000, 0x3000)]

/-- Whether a character is white space. -/
def isBlank (char : Char) : Bool :=
  let code := char.toNat
  if code < 0x80 then
    decide (0x09 ≤ code ∧ code ≤ 0x0D) || decide (0x1C ≤ code ∧ code ≤ 0x20)
  else
    inRanges wideBlanks code

/-- The text without its leading white space. -/
def stripStart (text : Text) : Text := text.dropWhile isBlank

/-- The text without its trailing white space. -/
def stripEnd (text : Text) : Text := (text.reverse.dropWhile isBlank).reverse

/-- The text without white space at either end. -/
def strip (text : Text) : Text := stripEnd (stripStart text)

end RegionBuild.Text
