import RegionBuild.FileStore

/-!
# Patterns for paths

A pattern stands for the paths in a file store that match it. A star matches any
characters, a question mark any one, and brackets one of those between them, or one
of the others if they start with an exclamation mark. None of them matches a slash,
and a name that starts with a dot is matched only by a pattern that does too.

A hyphen between two characters in brackets means all from the first to the second,
unless there are none. A bracket that is not closed stands for itself, and so does
a closing one right after the opening one or its exclamation mark.
-/

namespace RegionBuild

/-- Characters to choose from: single ones and closed ranges, or all but these. -/
structure CharChoice where
  negated : Bool
  single : Text
  ranges : List (Char × Char)
deriving DecidableEq, Repr

/-- Whether a character is among those to choose from. -/
def CharChoice.admits (choice : CharChoice) (char : Char) : Bool :=
  let listed := choice.single.contains char ||
    choice.ranges.any fun range => decide (range.1 ≤ char ∧ char ≤ range.2)
  listed != choice.negated

/-- One piece of a pattern for a name. -/
inductive NamePiece where
  | char (char : Char)
  | one
  | many
  | choice (among : CharChoice)
deriving DecidableEq, Repr

/-- Whether a piece matches a character. -/
def NamePiece.admits : NamePiece → Char → Bool
  | .char expected, letter => expected == letter
  | .one, _ | .many, _ => true
  | .choice among, letter => among.admits letter

namespace PathPattern

/-- What stands in brackets at the start of a text, after the opening one. `none` if
they are not closed. -/
def bracketed? (text : Text) : Option Text :=
  let lead := if text.head? = some '!' then ['!'] else []
  let rest := text.drop lead.length
  let own := if rest.head? = some ']' then [']'] else []
  let body := (rest.drop own.length).takeWhile (· != ']')
  let content := lead ++ own ++ body
  if content.length < text.length then some content else none

/-- The texts between the hyphens that make ranges. A hyphen among the first
characters makes none, and neither does one right after a range. -/
def betweenHyphens (first : Nat) (content : Text) : List Text :=
  let lead := content.take first ++ (content.drop first).takeWhile (· != '-')
  if lead.length < content.length then
    lead :: betweenHyphens 2 (content.drop (lead.length + 1))
  else [content]
termination_by content.length
decreasing_by
  simp only [List.length_drop]
  omega

/-- A hyphen with nothing after it stands for itself. -/
def keepFinalHyphen : List Text → List Text
  | [lead, []] => [lead ++ ['-']]
  | lead :: rest => lead :: keepFinalHyphen rest
  | [] => []

/-- Take out the ranges in which there are no characters, with their ends. -/
def dropEmptyRanges : List Text → List Text
  | [] => []
  | first :: rest =>
    match dropEmptyRanges rest with
    | [] => [first]
    | second :: more =>
      match first.getLast?, second.head? with
      | some low, some high =>
        if high < low then (first.dropLast ++ second.drop 1) :: more
        else first :: second :: more
      | _, _ => first :: second :: more

/-- The ranges between neighbours, from the last character of one to the first of
the next. -/
def rangesBetween : List Text → List (Char × Char)
  | first :: second :: rest =>
    match first.getLast?, second.head? with
    | some low, some high => (low, high) :: rangesBetween (second :: rest)
    | _, _ => rangesBetween (second :: rest)
  | _ => []

/-- The choice that the content of brackets describes. -/
def choiceOf (content : Text) : CharChoice :=
  let first := if content.head? = some '!' then 2 else 1
  let parts := dropEmptyRanges (keepFinalHyphen (betweenHyphens first content))
  match parts with
  | ('!' :: lead) :: rest =>
    let hyphen := if lead.isEmpty && !rest.isEmpty then ['-'] else []
    ⟨true, hyphen ++ lead ++ rest.flatten, rangesBetween (lead :: rest)⟩
  | parts => ⟨false, parts.flatten, rangesBetween parts⟩

/-- The pieces of a pattern for a name. -/
def pieces (pattern : Text) : List NamePiece :=
  match pattern with
  | [] => []
  | '*' :: rest => .many :: pieces rest
  | '?' :: rest => .one :: pieces rest
  | '[' :: rest =>
    match bracketed? rest with
    | none => .char '[' :: pieces rest
    | some content => .choice (choiceOf content) :: pieces (rest.drop (content.length + 1))
  | char :: rest => .char char :: pieces rest
termination_by pattern.length

/-- Whether pieces match a whole name. -/
def matchesAll : List NamePiece → Text → Bool
  | [], [] => true
  | [], _ => false
  | .many :: rest, [] => matchesAll rest []
  | .many :: rest, char :: more => matchesAll rest (char :: more) || matchesAll (.many :: rest) more
  | _ :: _, [] => false
  | piece :: rest, char :: more => piece.admits char && matchesAll rest more
termination_by pieces text => pieces.length + text.length

/-- Whether a pattern matches a name. -/
def matchesName (pattern name : Text) : Bool := matchesAll (pieces pattern) name

/-- Whether a name is hidden from patterns that do not ask for it. -/
def isHidden (name : Text) : Bool := name.head? == some '.'

/-- Whether a path is a pattern for more than itself. -/
def isPattern (path : Text) : Bool :=
  path.any fun char => char == '*' || char == '?' || char == '['

end PathPattern

namespace FileStore

open PathPattern

/-- The names in a directory that match a pattern. A directory that cannot be read
has none. -/
def matchingNames (store : FileStore) (onlyDirectories : Bool) (directory pattern : Text) :
    Except FileFault (List Text) :=
  match store.names (if directory.isEmpty then Path.here else directory) with
  | .error .embeddedNull => .error ⟨.embeddedNull, some directory⟩
  | .error _ => .ok []
  | .ok names =>
    .ok (names.filter fun name =>
      (!onlyDirectories || store.isDirectory (Path.join directory name)) &&
        (isHidden pattern || !isHidden name) && matchesName pattern name)

/-- Whether there is something with a name in a directory. Without a name it is the
directory itself. -/
def hasName (store : FileStore) (directory name : Text) : Bool :=
  if name.isEmpty then store.isDirectory directory else store.exists? (Path.join directory name)

/-- The paths that match a pattern, as far as the fuel lasts. -/
def matchingFrom (store : FileStore) (fuel : Nat) (onlyDirectories : Bool) (pattern : Text) :
    Except FileFault (List Text) :=
  match fuel with
  | 0 => .ok []
  | fuel + 1 =>
    let directory := Path.parent pattern
    let last := Path.lastComponent pattern
    if !isPattern pattern then
      let found := if last.isEmpty then store.isDirectory directory else store.exists? pattern
      .ok (if found then [pattern] else [])
    else if directory.isEmpty then store.matchingNames onlyDirectories [] last
    else do
      let directories ←
        if isPattern directory then store.matchingFrom fuel true directory else .ok [directory]
      let found ← directories.mapM fun directory => do
        let names ←
          if isPattern last then store.matchingNames onlyDirectories directory last
          else .ok (if store.hasName directory last then [last] else [])
        return names.map (Path.join directory)
      return found.flatten

/-- The paths that match a pattern. One component is taken off at a time, so there
are never more steps than characters. -/
def matching (store : FileStore) (pattern : Text) : Except FileFault (List Text) :=
  store.matchingFrom (pattern.length + 1) false pattern

end FileStore

end RegionBuild
