import RegionBuild.Text.Printable

/-!
# Quoted text

Messages show paths, arguments and values between quotes. Single quotes are the
rule; double quotes stand around a text that has a single quote and no double
one. The quote in use, backslashes and everything unprintable are escaped.
-/

namespace RegionBuild.Text

/-- A number in lower-case hexadecimal, padded with zeros to a width. -/
def hexPadded (width number : Nat) : Text :=
  let digits := Nat.toDigits 16 number
  List.replicate (width - digits.length) '0' ++ digits

/-- One code point between the given quotes. The shortest escape that can hold
the code point is used. -/
def quoteCode (quote : Char) (code : Nat) : Text :=
  if code = quote.toNat ∨ code = 0x5C then
    ['\\', Char.ofNat code]
  else if code = 0x09 then ['\\', 't']
  else if code = 0x0A then ['\\', 'n']
  else if code = 0x0D then ['\\', 'r']
  else if isPrintable code then [Char.ofNat code]
  else if code < 0x100 then '\\' :: 'x' :: hexPadded 2 code
  else if code < 0x10000 then '\\' :: 'u' :: hexPadded 4 code
  else '\\' :: 'U' :: hexPadded 8 code

/-- A sequence of code points between quotes. -/
def quoteCodes (codes : List Nat) : Text :=
  let quote := if codes.contains 0x27 && !codes.contains 0x22 then '"' else '\''
  quote :: codes.flatMap (quoteCode quote) ++ [quote]

/-- A text between quotes. -/
def quoted (text : Text) : Text := quoteCodes (text.map Char.toNat)

/-- A list of texts, each quoted, between square brackets. -/
def quotedList (texts : List Text) : Text :=
  '[' :: join [',', ' '] (texts.map quoted) ++ [']']

end RegionBuild.Text
