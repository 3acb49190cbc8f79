import RegionBuild.Fault
import RegionBuild.Json.Printer

/-!
# Source maps

The compiler writes its output and a source map, a JSON object whose `sources`
name the files that the output was made of. Before the two are handed on, the
reference to the map is taken out of the output, the map's `file` becomes the
path it is asked for, and the texts of all sources are embedded.

The path that the map is for may be any code points, since nothing is read from it.

The name of a source may hold surrogates without a partner. Some of them stand for
bytes that are no UTF-8, and a file could have such a name though none does; the
others can stand in no name.
-/

namespace RegionBuild.SourceMap

/-- The comment that refers from the output to its map. -/
def reference : Text := "//# sourceMappingURL=".toList

/-- The key of the file that a map is for. -/
def fileKey : List CodePoint := Json.codesOf "file".toList

/-- The key of the sources' names. -/
def sourcesKey : List CodePoint := Json.codesOf "sources".toList

/-- The key of the sources' texts. -/
def contentsKey : List CodePoint := Json.codesOf "sourcesContent".toList

/-- The sources of a map. A string stands for its characters and an object for its
keys; a map without sources has none. -/
def sources (members : List (List CodePoint × Json)) : Except ShapeFault (List Json) :=
  match Json.get? sourcesKey members with
  | none => .ok []
  | some (.arr items) => .ok items
  | some (.str codes) => .ok (codes.map fun code => .str [code])
  | some (.obj inner) => .ok (inner.map fun member => .str member.1)
  | some other => .error (.notIterable other.kind)

/-- Code points are letters of paths. -/
instance : Path.Letter CodePoint where
  slash := Json.codeOf '/'
  dot := Json.codeOf '.'
  nul := Json.codeOf '\x00'

/-- Whether a code point is a surrogate. -/
def isSurrogate (code : CodePoint) : Bool := decide (0xD800 ≤ code.val ∧ code.val ≤ 0xDFFF)

/-- Whether a code point stands for a byte that is no UTF-8. -/
def standsForByte (code : CodePoint) : Bool := decide (0xDC80 ≤ code.val ∧ code.val ≤ 0xDCFF)

/-- The first surrogate from a position on that can stand in no name, with those
right after it. -/
def unencodable? (position : Nat) : List CodePoint → Option ShapeFault
  | [] => none
  | code :: rest =>
    if isSurrogate code && !standsForByte code then
      some (.unencodable position ((rest.takeWhile isSurrogate).length + 1) code.val)
    else unencodable? (position + 1) rest

/-- The path that a source names inside a directory. -/
def sourcePath (directory : Text) : Json → Except ShapeFault (List CodePoint)
  | .str codes => .ok (Path.join (Json.codesOf directory) codes)
  | other => .error (.notPath other.kind)

/-- Why there is no file at a path that is no text. No name holds a NUL, so one in
place of each surrogate makes a path that leads as far. -/
def problemAt (files : FileStore) (path : List CodePoint) : FileProblem :=
  if path.contains Path.Letter.nul then .embeddedNull
  else
    match files.reach (path.map fun code => (Json.charOf? code).getD '\x00') with
    | .error problem => problem
    | .ok _ => .notFound

/-- The text of the file at a path. -/
def readSource (files : FileStore) (path : List CodePoint) : Except Fault Text :=
  match Json.textOf? path with
  | some path => files.readText path
  | none =>
    match unencodable? 0 path with
    | some fault => .error (.shape fault)
    | none => .error (.unreadable (problemAt files path) path)

/-- The texts of sources, each read relative to a directory. -/
def contents (files : FileStore) (directory : Text) : List Json → Except Fault (List Json)
  | [] => .ok []
  | source :: rest => do
    let path ← ofShape (sourcePath directory source)
    let text ← readSource files path
    let more ← contents files directory rest
    return Json.ofText text :: more

/-- A hint for the map's file. Without one it is null. -/
def hintValue : Option (List CodePoint) → Json
  | some hint => .str hint
  | none => .null

/-- The members of a value that something is to be put into. -/
def membersToChange : Json → Except ShapeFault (List (List CodePoint × Json))
  | .obj members => .ok members
  | other => .error (.noMembers other.kind)

/-- The members of a value in which something is looked up. -/
def membersToRead : Json → Except ShapeFault (List (List CodePoint × Json))
  | .obj members => .ok members
  | other => .error (.noLookup other.kind)

/-- Make output and map ready to be handed on, under a hint of any code points. The
reference is removed before the map is looked at. -/
def finishAs (files : FileStore) (source map : Text) (hint : Option (List CodePoint))
    (directory : Text) : Except Fault (Text × Text) := do
  let source ← ofDecoding (Text.removeLineFrom source reference)
  let value ← ofJson (Json.parse map)
  let members ← ofShape (membersToChange value)
  let named := Json.put fileKey (hintValue hint) members
  let listed ← ofShape (sources named)
  let texts ← contents files directory listed
  return (source, Json.write (.obj (Json.put contentsKey (.arr texts) named)))

/-- Make output and map ready under a hint that is a text. -/
def finish (files : FileStore) (source map : Text) (hint : Option Text) (directory : Text) :
    Except Fault (Text × Text) :=
  finishAs files source map (hint.map Json.codesOf) directory

/-- A source that is relative to one directory, as seen from another. -/
def rebaseSource (workingDirectory outputDirectory : Text) (source : Json) :
    Except ShapeFault Json := do
  let path ← sourcePath outputDirectory source
  let here := Json.codesOf workingDirectory
  return .str (Path.relative here (Path.normalize path) here)

/-- The compiler names sources relative to its output. Name them relative to the
working directory instead. -/
def rebase (workingDirectory outputDirectory map : Text) : Except Fault Text := do
  let value ← ofJson (Json.parse map)
  let members ← ofShape (membersToRead value)
  let listed ← ofShape (sources members)
  let rebased ← ofShape (listed.mapM (rebaseSource workingDirectory outputDirectory))
  return Json.write (.obj (Json.put sourcesKey (.arr rebased) members))

end RegionBuild.SourceMap
