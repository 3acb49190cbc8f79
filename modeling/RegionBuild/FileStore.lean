import RegionBuild.Path
import RegionBuild.Text.Lines
import RegionBuild.Text.Numeral
import RegionBuild.Text.Utf8

/-!
# The file store

A store holds directories and files at locations, which are lists of component
names below the root. A path is followed component by component: each one on the
way has to be a directory that is there, and a parent component leads back to
the directory above. There are no links.

The bytes of a name and those of a path are limited. A path is measured as it is
given and before it is followed, a name when it is looked up.

A file is written in two steps: opening it takes away what it held, and then its bytes
are written. Where the size of files is limited, the second step may break off. The
bytes that fit are there then, and the old ones are gone. Only what is written from
outside is always written whole.

Every write stamps the file with the store's clock, which then moves on by one second,
so a later write always has a later time.
-/

namespace RegionBuild

/-- Where something is: the names from the root down. -/
abbrev Location := List Text

/-- A file with its bytes, or a directory, and the time of its last change in
nanoseconds. -/
inductive Node where
  | file (content : List UInt8) (modified : Int)
  | directory (modified : Int)
deriving DecidableEq, Repr

/-- The time of a node's last change. -/
def Node.modified : Node → Int
  | .file _ modified => modified
  | .directory modified => modified

/-- Why the store refuses an operation. -/
inductive FileProblem where
  | notFound
  | alreadyExists
  | notDirectory
  | isDirectory
  /-- The path holds a NUL character, which no name can. -/
  | embeddedNull
  /-- The path or a name in it has too many bytes. -/
  | nameTooLong
  /-- The time is beyond what a file can have. -/
  | timeRange
  /-- There are too many directories to make at once. -/
  | tooDeep
deriving DecidableEq, Repr

/-- The wording of a problem. -/
def FileProblem.message : FileProblem → String
  | .notFound => "[Errno 2] No such file or directory"
  | .alreadyExists => "[Errno 17] File exists"
  | .notDirectory => "[Errno 20] Not a directory"
  | .isDirectory => "[Errno 21] Is a directory"
  | .embeddedNull => "embedded null byte"
  | .nameTooLong => "[Errno 36] File name too long"
  | .timeRange => "timestamp out of range for platform time_t"
  | .tooDeep => "maximum recursion depth exceeded"

/-- Whether the wording goes on with the path. -/
def FileProblem.namesPath : FileProblem → Bool
  | .embeddedNull | .timeRange | .tooDeep => false
  | _ => true

/-- A refused operation, with the path as it was given if the message names it. -/
structure FileFault where
  problem : FileProblem
  path : Option Text
deriving DecidableEq, Repr

/-- The wording of a fault. -/
def FileFault.message (fault : FileFault) : String :=
  match fault.path with
  | none => fault.problem.message
  | some path =>
    if fault.problem.namesPath then
      s!"{fault.problem.message}: {String.ofList (Text.quoted path)}"
    else fault.problem.message

/-- Everything that is stored, the working directory, the clock in milliseconds, and
the most bytes that a file can be filled with, if there is a limit. -/
structure FileStore where
  nodes : List (Location × Node)
  workingDirectory : Text
  clock : Int
  sizeLimit : Option Nat := none
deriving Repr

namespace FileStore

/-- What is at a location. The root is always there. -/
def lookup (store : FileStore) (location : Location) : Option Node :=
  if location = [] then some (.directory 0)
  else (store.nodes.find? fun entry => entry.1 == location).map Prod.snd

/-- Put a node at a location: in place if there is one already. -/
def putNode (location : Location) (node : Node) : List (Location × Node) → List (Location × Node)
  | [] => [(location, node)]
  | entry :: rest =>
    if entry.1 = location then (location, node) :: rest else entry :: putNode location node rest

/-- The store with a node at a location. -/
def put (store : FileStore) (location : Location) (node : Node) : FileStore :=
  { store with nodes := putNode location node store.nodes }

/-- The most bytes in a name. -/
def longestName : Nat := 255

/-- The most bytes in a path. -/
def longestPath : Nat := 4095

/-- Whether a name can be looked up. -/
def isShortName (name : Text) : Bool := decide (Utf8.size name ≤ longestName)

/-- Follow components from a directory. The last one is not looked up; every other
one has to be a directory. -/
def follow (store : FileStore) (location : Location) :
    List Text → Except FileProblem Location
  | [] => .ok location
  | component :: rest =>
    if component = [] ∨ component = Path.here then store.follow location rest
    else if component = Path.up then store.follow location.dropLast rest
    else
      let next := location ++ [component]
      if rest = [] then .ok next
      else if !isShortName component then .error .nameTooLong
      else
        match store.lookup next with
        | none => .error .notFound
        | some (.file _ _) => .error .notDirectory
        | some (.directory _) => store.follow next rest

/-- Where the components of a path lead. There is no empty path. -/
def followPath (store : FileStore) (path : Text) : Except FileProblem Location :=
  if path = [] then .error .notFound
  else
    let start := if Path.isAbsolute path then [] else Path.components store.workingDirectory
    store.follow start (Text.splitOn '/' path)

/-- A location whose last name can be looked up. -/
def named (location : Location) : Except FileProblem Location :=
  match location.getLast? with
  | some name => if isShortName name then .ok location else .error .nameTooLong
  | none => .ok location

/-- Refuse a path with too many bytes. -/
def measured (path : Text) : Except FileProblem Unit :=
  if longestPath < Utf8.size path then .error .nameTooLong else .ok ()

/-- Refuse a path with a NUL or with too many bytes. -/
def accepted (path : Text) : Except FileProblem Unit :=
  if path.any (· == '\x00') then .error .embeddedNull else measured path

/-- Where a path leads, whatever it is made of. -/
def reach (store : FileStore) (path : Text) : Except FileProblem Location := do
  measured path
  named (← store.followPath path)

/-- The location that a path leads to. -/
def locate (store : FileStore) (path : Text) : Except FileProblem Location := do
  accepted path
  named (← store.followPath path)

/-- What a path leads to. -/
def node (store : FileStore) (path : Text) : Except FileProblem Node := do
  let location ← store.locate path
  match store.lookup location with
  | some node => .ok node
  | none => .error .notFound

/-- Name the path in a refusal. -/
def naming {α : Type} (path : Text) : Except FileProblem α → Except FileFault α
  | .ok value => .ok value
  | .error problem => .error ⟨problem, some path⟩

/-- Whether there is anything at a path. -/
def exists? (store : FileStore) (path : Text) : Bool := (store.node path).toBool

/-- Whether there is a file at a path. -/
def isFile (store : FileStore) (path : Text) : Bool :=
  match store.node path with
  | .ok (.file _ _) => true
  | _ => false

/-- Whether there is a directory at a path. -/
def isDirectory (store : FileStore) (path : Text) : Bool :=
  match store.node path with
  | .ok (.directory _) => true
  | _ => false

/-- The time of the last change at a path, in nanoseconds. -/
def modified (store : FileStore) (path : Text) : Except FileFault Int :=
  naming path (Node.modified <$> store.node path)

/-- The names of what is in a directory, in order. -/
def names (store : FileStore) (path : Text) : Except FileProblem (List Text) := do
  let location ← store.locate path
  match store.lookup location with
  | none => .error .notFound
  | some (.file _ _) => .error .notDirectory
  | some (.directory _) =>
    let found := store.nodes.filterMap fun entry =>
      match entry.1.getLast? with
      | some name => if entry.1.dropLast = location then some name else none
      | none => none
    .ok (found.mergeSort fun left right => !decide (right < left))

/-- The bytes of a file. -/
def content (store : FileStore) (path : Text) : Except FileProblem (List UInt8) := do
  match ← store.node path with
  | .file content _ => .ok content
  | .directory _ => .error .isDirectory

/-- The bytes of a file, with the path named in a refusal. -/
def readBytes (store : FileStore) (path : Text) : Except FileFault (List UInt8) :=
  naming path (store.content path)

/-- A path without the slashes at its end, unless there is nothing else. -/
def withoutFinalSlashes (path : Text) : Text :=
  let stripped := Path.stripSlashes path
  if stripped.isEmpty then path else stripped

/-- The location that a write to a path goes to. It may be new, but it is no
directory and a path that ends in a slash can only mean one. -/
def locateForWriting (store : FileStore) (path : Text) : Except FileProblem Location := do
  accepted path
  let location ← store.followPath (withoutFinalSlashes path)
  if path.getLast? = some '/' then .error .isDirectory
  else
    match store.lookup (← named location) with
    | some (.directory _) => .error .isDirectory
    | _ => .ok location

/-- The store with a file at a location, stamped with the clock. -/
def putStamped (store : FileStore) (location : Location) (content : List UInt8) : FileStore :=
  store.put location (.file content (store.clock * 1000000))

/-- The store one second later. -/
def later (store : FileStore) : FileStore := { store with clock := store.clock + 1000 }

/-- Open a file, new or not, to fill it. What it held is gone. -/
def openEmpty (store : FileStore) (path : Text) : Except FileFault (Location × FileStore) :=
  naming path do
    let location ← store.locateForWriting path
    .ok (location, store.putStamped location [])

/-- The bytes that a file can be filled with: all of them, or as many as the limit
allows. -/
def fitting (store : FileStore) (content : List UInt8) : List UInt8 :=
  match store.sizeLimit with
  | none => content
  | some limit => content.take limit

/-- Fill a file that was opened, as far as it can be. -/
def fill (store : FileStore) (location : Location) (content : List UInt8) : FileStore :=
  (store.putStamped location (store.fitting content)).later

/-- Write the bytes of a file, new or not, from outside: all of them in any case. -/
def writeBytes (store : FileStore) (path : Text) (content : List UInt8) :
    Except FileFault FileStore :=
  naming path do
    let location ← store.locateForWriting path
    .ok (store.putStamped location content).later

/-- Write the bytes of a file as another program does: the clock does not move. -/
def leaveBytes (store : FileStore) (path : Text) (content : List UInt8) :
    Except FileFault FileStore := do
  let written ← store.writeBytes path content
  return { written with clock := store.clock }

/-- Make one directory. Its parent has to be there. -/
def makeDirectory (store : FileStore) (path : Text) : Except FileProblem FileStore := do
  accepted path
  let location ← named (← store.followPath (withoutFinalSlashes path))
  match store.lookup location with
  | some _ => .error .alreadyExists
  | none => .ok (store.put location (.directory 0))

/-- The directory that holds a path and the path's last component; slashes at the
end do not make a component of their own. -/
def splitLast (path : Text) : Text × Text :=
  match Path.lastComponent path with
  | [] => (Path.parent (Path.parent path), Path.lastComponent (Path.parent path))
  | last => (Path.parent path, last)

/-- Make a directory and, where they are missing, those above it. One that is there
already may be taken or not. What was made stays made when a later step is refused.
The levels are how many directories may be made at most. -/
def makeDirectoriesFrom (taken : Bool) (levels : Nat) (store : FileStore) (path : Text) :
    Except FileFault Unit × FileStore :=
  match levels with
  | 0 => (.error ⟨.tooDeep, some path⟩, store)
  | levels + 1 =>
    let (above, last) := splitLast path
    let own (store : FileStore) : Except FileFault Unit × FileStore :=
      match store.makeDirectory path with
      | .ok made => (.ok (), made)
      | .error problem =>
        if taken ∧ problem ≠ .embeddedNull ∧ store.isDirectory path then (.ok (), store)
        else (.error ⟨problem, some path⟩, store)
    if !above.isEmpty && !last.isEmpty && !store.exists? above then
      match makeDirectoriesFrom taken levels store above with
      | (.error ⟨.alreadyExists, _⟩, made) | (.ok (), made) =>
        if last = Path.here then (.ok (), made) else own made
      | refused => refused
    else own store

/-- How many directories can be made at once. -/
def levelLimit : Nat := 985

/-- Make a directory with everything above it, unless it is there already. -/
def makeDirectories (store : FileStore) (path : Text) : Except FileFault Unit × FileStore :=
  makeDirectoriesFrom true levelLimit store path

/-- Make a directory that is not there yet with everything above it. -/
def makeNewDirectory (store : FileStore) (path : Text) : Except FileFault Unit × FileStore :=
  makeDirectoriesFrom false levelLimit store path

/-- Write a file and make the directories above it. -/
def install (store : FileStore) (path : Text) (content : List UInt8) :
    Except FileFault Unit × FileStore :=
  let above := Path.parent path
  let (made, store) := if above.isEmpty then (.ok (), store) else store.makeDirectories above
  match made with
  | .error fault => (.error fault, store)
  | .ok () =>
    match store.writeBytes path content with
    | .error fault => (.error fault, store)
    | .ok written => (.ok (), written)

/-- Whether a time in nanoseconds has seconds of 64 bits. -/
def isTime (nanoseconds : Int) : Bool := Numeral.fitsWord (nanoseconds.fdiv 1000000000)

/-- Set the time of the last change in nanoseconds. A refusal names no path. -/
def touch (store : FileStore) (path : Text) (modified : Int) : Except FileFault FileStore :=
  let touched := do
    let location ← if path.any (· == '\x00') ∨ isTime modified then store.locate path
      else .error .timeRange
    match store.lookup location with
    | none => .error .notFound
    | some (.file content _) => .ok (store.put location (.file content modified))
    | some (.directory _) => .ok (store.put location (.directory modified))
  match touched with
  | .ok store => .ok store
  | .error problem => .error ⟨problem, none⟩

/-- Remove a file. -/
def remove (store : FileStore) (path : Text) : Except FileFault FileStore :=
  naming path do
    let location ← store.locate path
    match store.lookup location with
    | none => .error .notFound
    | some (.directory _) => .error .isDirectory
    | some (.file _ _) =>
      .ok { store with nodes := store.nodes.filter fun entry => entry.1 != location }

/-- Remove a directory with everything in it. -/
def removeTree (store : FileStore) (path : Text) : FileStore :=
  match store.locate path with
  | .error _ => store
  | .ok location =>
    { store with nodes := store.nodes.filter fun entry => !location.isPrefixOf entry.1 }

/-- The files below the working directory with their bytes and times, by path. -/
def listing (store : FileStore) : List (Text × List UInt8 × Int) :=
  let root := Path.components store.workingDirectory
  let files := store.nodes.filterMap fun (location, node) =>
    match node with
    | .file content modified =>
      if root.isPrefixOf location then
        some (Text.join ['/'] (location.drop root.length), content, modified)
      else none
    | .directory _ => none
  files.mergeSort fun left right => !decide (right.1 < left.1)

/-- An empty store: the given directories, the working directory and the clock. -/
def withDirectories (directories : List Text) (workingDirectory : Text) (clock : Int) :
    FileStore where
  nodes := directories.map fun path => (Path.components path, .directory 0)
  workingDirectory := workingDirectory
  clock := clock

end FileStore

end RegionBuild
