import RegionBuild.Json.Printer
import RegionBuild.Settings.Usage

/-!
# Configuration files

A configuration file has one setting a line: a key and then, after an equals sign,
a colon or a blank, a value, which may stand in quotes. A comment starts with a
semicolon or a number sign after a blank. Empty lines, section headings and lines
that start with a comment sign or three dashes are skipped.

A line can often be read in more than one way. The readings are ordered: more
blanks before the sign come first, then more blanks after it, then quotes before
none, then shorter values before longer ones, and no value and no sign at last.
The first reading that covers the whole line counts.
-/

namespace RegionBuild

/-- The value of a setting: a text, or a list written in brackets. -/
inductive SettingValue where
  | text (text : Text)
  | list (items : List Json)

namespace ConfigurationFile

/-- What a line says: the key, the sign after it if any, and the value if any. -/
structure Line where
  key : Text
  sign : Option Char := none
  value : Option Text := none
deriving DecidableEq, Repr

/-- Whether a character may stand in a key. -/
def isKeyChar (char : Char) : Bool :=
  !(char == ':' || char == '=' || char == ';' || char == '#' || Text.isBlank char)

/-- Whether a line may end here: nothing follows but blanks, or a comment after at
least one of them. -/
def endsHere (text : Text) : Bool :=
  let rest := Text.stripStart text
  match rest with
  | [] => true
  | char :: _ => (char == ';' || char == '#') && decide (rest.length < text.length)

/-- Whether a line may end after a closing quote, which is empty if there was no
opening one. -/
def closesHere (closing text : Text) : Bool :=
  closing.isPrefixOf text && endsHere (text.drop closing.length)

/-- The shortest value after which the line may end. The characters before the text
belong to the value already, in reverse. -/
def shortestValue (closing : Text) (before : Text) : Text → Option Text
  | [] => none
  | char :: rest =>
    if closesHere closing rest then some (char :: before).reverse
    else shortestValue closing (char :: before) rest

/-- A value up to a closing quote, or no value. -/
def valueUpTo (closing text : Text) : Option (Option Text) :=
  match shortestValue closing [] text with
  | some value => some (some value)
  | none => if closesHere closing text then some none else none

/-- A value, in quotes if there is one. -/
def valueAt (text : Text) : Option (Option Text) :=
  let unquoted := valueUpTo [] text
  match text with
  | '\'' :: rest => valueUpTo ['\''] rest <|> unquoted
  | '"' :: rest => valueUpTo ['"'] rest <|> unquoted
  | _ => unquoted

/-- The texts that are left after all leading blanks, after all but one, and so on. -/
def afterBlanks (text : Text) : List Text :=
  match text with
  | [] => [text]
  | char :: rest => if Text.isBlank char then afterBlanks rest ++ [text] else [text]

/-- A sign and the value after it, or a line that ends after its key. -/
def readSign (key text : Text) : Option Line :=
  let signed :=
    match text with
    | [] => none
    | sign :: rest =>
      if sign == ':' || sign == '=' || Text.isBlank sign then
        ((afterBlanks rest).findSome? valueAt).map fun value => ⟨key, some sign, value⟩
      else none
  signed <|> (if endsHere text then some ⟨key, none, none⟩ else none)

/-- Read a line that is stripped and not skipped. -/
def readLine (line : Text) : Option Line :=
  let key := line.takeWhile isKeyChar
  if key.isEmpty then none
  else (afterBlanks (line.drop key.length)).findSome? (readSign key)

/-- The text of a line's value. A key alone is true; a sign with nothing after it
means the empty text, unless it is a blank. -/
def Line.text (line : Line) : Text :=
  match line.value with
  | some value => value
  | none =>
    match line.sign with
    | none | some ' ' => "true".toList
    | some _ => []

/-- The items of a list in brackets. Where it is no JSON, the pieces between the
commas are its items. -/
def listItems (text : Text) : List Json :=
  match Json.parse text with
  | .ok (.arr items) => items
  | _ =>
    let pieces := Text.splitOn ',' (text.drop 1).dropLast
    pieces.map fun piece => Json.ofText (Text.strip piece)

/-- A value in brackets is a list. -/
def settingValue (text : Text) : SettingValue :=
  if text.head? = some '[' ∧ text.getLast? = some ']' then .list (listItems text)
  else .text text

/-- Whether a stripped line is skipped. -/
def isSkipped (line : Text) : Bool :=
  match line with
  | [] => true
  | '-' :: '-' :: '-' :: _ => true
  | char :: _ => char == '#' || char == ';' || char == '['

/-- Settings with one more. A later one for the same key takes the place of the
earlier one. -/
def putSetting (key : Text) (value : SettingValue) :
    List (Text × SettingValue) → List (Text × SettingValue)
  | [] => [(key, value)]
  | (name, old) :: rest =>
    if name = key then (name, value) :: rest else (name, old) :: putSetting key value rest

/-- Read the lines of a file from one on, with the settings before it. -/
def readLines (file : Text) (index : Nat) (settings : List (Text × SettingValue)) :
    List Text → Except UsageProblem (List (Text × SettingValue))
  | [] => .ok settings
  | line :: rest =>
    let stripped := Text.strip line
    if isSkipped stripped then readLines file (index + 1) settings rest
    else
      match readLine stripped with
      | none => .error (.unexpectedLine index file stripped)
      | some read =>
        readLines file (index + 1) (putSetting read.key (settingValue read.text) settings) rest

/-- How many bytes of a file are decoded at a time. -/
def blockSize : Nat := 8192

/-- A list in blocks of a size, the last of which may be smaller. -/
def blocks {α : Type} (size : Nat) (list : List α) : List (List α) :=
  if size = 0 ∨ list.length ≤ size then [list]
  else list.take size :: blocks size (list.drop size)
termination_by list.length
decreasing_by
  simp only [List.length_drop]
  omega

/-- Decode blocks one after the other, with the text before them and the bytes of a
character that is not yet complete. A fault is counted from these bytes on. -/
def decodeBlocks (text : Text) (incomplete : List UInt8) :
    List (List UInt8) → Text × Option Utf8.Fault
  | [] =>
    match Utf8.decode incomplete with
    | .ok more => (text ++ more, none)
    | .error fault => (text, some fault)
  | block :: rest =>
    let bytes := incomplete ++ block
    match Utf8.decode bytes with
    | .ok more => decodeBlocks (text ++ more) [] rest
    | .error fault =>
      if fault.reason = .ended then
        match Utf8.decode (bytes.take fault.position) with
        | .ok more => decodeBlocks (text ++ more) (bytes.drop fault.position) rest
        | .error earlier => (text, some earlier)
      else (text, some fault)

/-- The text without a carriage return at its end, which may be half of a line
ending. -/
def withoutFinalReturn (text : Text) : Text :=
  if text.getLast? = some '\r' then text.dropLast else text

/-- The lines of a file. If a block cannot be decoded there are only those lines that
are complete before it, and the fault. -/
def decodedLines (bytes : List UInt8) : List Text × Option Utf8.Fault :=
  match decodeBlocks [] [] (blocks blockSize bytes) with
  | (text, none) => (Text.splitOn '\n' (Text.unifyNewlines text), none)
  | (text, some fault) =>
    ((Text.splitOn '\n' (Text.unifyNewlines (withoutFinalReturn text))).dropLast, some fault)

/-- The settings of a file, in the order in which their keys first came. -/
def parse (file : Text) (bytes : List UInt8) : Except Halt (List (Text × SettingValue)) :=
  let (lines, undecodable) := decodedLines bytes
  match readLines file 0 [] lines, undecodable with
  | .error problem, _ => .error (.usage problem)
  | .ok _, some fault => .error (.fault (.undecodable fault))
  | .ok settings, none => .ok settings

end ConfigurationFile

end RegionBuild
