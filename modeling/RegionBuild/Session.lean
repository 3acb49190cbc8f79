import RegionBuild.Cache

/-!
# Build sessions

Sources are registered one at a time. Each is pruned for its architecture and the
result goes to a scratch copy, whose path joins the pending unit. Finalizing sends
the unit through the compile cache and starts a new one. A unit belongs to one
package: the first source of another package discards what is pending.

A scratch copy is written again only when its text changes, because writing it gives
it a new time and with that the unit a new key.
-/

namespace RegionBuild

/-- The pruner in use, where scratch copies go, and the pending unit: its package
and the scratch paths registered so far. -/
structure Session where
  pruner : Pruner
  scratchRoot : Option Text := none
  verbosity : Int := 0
  package : Option Text := none
  paths : List Text := []

/-- A source to register: where it is, the path that decides whether it is pruned
and stands in messages, and what it is for. -/
structure Source where
  path : Text
  logicalPath : Text
  architecture : Text
  package : Option Text := none
  transpile : Bool := true
deriving DecidableEq, Repr

/-- What finalizing a unit gives. There is no data when nothing was emitted. -/
structure Output where
  path : Text
  sourcePath : Text
  data : Option Text
  map : Option Text
  diagnostics : List Diagnostic
deriving DecidableEq, Repr

/-- A session over a cache, at work on a bench. -/
structure Build (κ : Type) where
  session : Session
  cache : Cache := {}
  bench : Bench κ

/-- Where scratch copies go unless another place is chosen. -/
def defaultScratchRoot (workingDirectory : Text) : Text :=
  Path.joinAll workingDirectory ["packages".toList, "_temp".toList]

/-- The path of the scratch copy of a file: the whole path below the root and the
architecture. A colon becomes an underscore. -/
def scratchPath (root architecture path : Text) : Text :=
  Path.joinAll root [architecture, Text.replaceChar ':' '_' (Path.withoutRoot path)]

/-- Make the directories that the scratch copy of a file needs and give its path. -/
def prepareScratch (files : FileStore) (root : Option Text) (architecture path : Text) :
    Except FileFault Text × FileStore :=
  let root := root.getD (defaultScratchRoot files.workingDirectory)
  let scratch := scratchPath root architecture path
  match files.makeDirectories (Path.parent scratch) with
  | (.error fault, made) => (.error fault, made)
  | (.ok (), made) => (.ok scratch, made)

/-- The text of a file, if there is one at the path. -/
def existingText (files : FileStore) (path : Text) : Except Fault (Option Text) :=
  if files.isFile path then some <$> files.readText path else .ok none

/-- Write a text unless it is what the file holds already. -/
def refresh (files : FileStore) (path text : Text) : Except Fault Unit × FileStore :=
  match existingText files path with
  | .error fault => (.error fault, files)
  | .ok existing => if existing = some text then (.ok (), files) else files.writeText path text

/-- Write the scratch copy of a file and give its path. -/
def writeScratch (files : FileStore) (root : Option Text) (architecture path text : Text) :
    Except Fault Text × FileStore :=
  match prepareScratch files root architecture path with
  | (.error fault, made) => (.error (.file fault), made)
  | (.ok scratch, made) =>
    match refresh made scratch text with
    | (.error fault, after) => (.error fault, after)
    | (.ok (), written) => (.ok scratch, written)

variable {κ : Type}

/-- Read a source and prune it, printing what the pruner has to say. -/
def pruneSource (pruner : Pruner) (source : Source) (bench : Bench κ) :
    Except Fault Text × Bench κ :=
  match bench.files.readText source.path with
  | .error fault => (.error fault, bench)
  | .ok text =>
    let pruned := pruner.prune text source.logicalPath source.architecture
    let bench := bench.sayAll pruned.notices
    match pruned.outcome with
    | .error fault => (.error (.unterminated fault), bench)
    | .ok text => (.ok text, bench)

/-- The name under which pruning for an architecture is timed. -/
def pruneTimingName (architecture : Text) : Text := "prune_".toList ++ architecture

/-- How messages name a package. -/
def packageName (package : Option Text) : String := (package.map String.ofList).getD "None"

/-- The session once a source of a package comes: nothing is pending that belongs
to another package. -/
def Session.enter (session : Session) (package : Option Text) : Session :=
  if package = session.package then session else { session with package, paths := [] }

/-- The line about pending files that are discarded for a package, if any are. -/
def Session.discardLine (session : Session) (package : Option Text) : List String :=
  if package ≠ session.package ∧ 4 ≤ session.verbosity ∧ session.paths ≠ [] then
    [s!"Package changed to {packageName package}, " ++
      s!"discarding {session.paths.length} pending files"]
  else []

namespace Build

/-- Register a source and give the path of its scratch copy, or none if it opted
out. A source that cannot be pruned or copied does not join the unit. -/
def add (build : Build κ) (source : Source) : Except Fault (Option Text) × Build κ :=
  if source.transpile then
    let session := build.session.enter source.package
    let bench := build.bench.sayAll (build.session.discardLine source.package)
    match bench.timed (pruneTimingName source.architecture)
        (pruneSource session.pruner source) with
    | (.error fault, bench) => (.error fault, { build with session, bench })
    | (.ok text, bench) =>
      match writeScratch bench.files session.scratchRoot source.architecture source.path text with
      | (.error fault, files) =>
        (.error fault, { build with session, bench := { bench with files } })
      | (.ok scratch, files) =>
        let bench := { bench with files }
        (.ok (some scratch),
          { build with
            session := { session with paths := session.paths ++ [scratch] }
            bench := bench.sayAt session.verbosity 3
              s!"Pruned {String.ofList source.path} -> {String.ofList scratch}" })
  else
    (.ok none,
      { build with
        bench := build.bench.sayAt build.session.verbosity 4
          s!"Skipping {String.ofList source.logicalPath}: transpile disabled" })

/-- A text, or none if it is empty. -/
def nonEmpty (text : Text) : Option Text := if text.isEmpty then none else some text

/-- The output for a compiled unit. -/
def outputOf (input : Text) (result : Compiled) : Output where
  path := input ++ ".js".toList
  sourcePath := input
  data := nonEmpty result.source
  map := nonEmpty result.map
  diagnostics := result.diagnostics

/-- Compile the pending unit or take it from the cache. The unit is reset in any
case. The output is named for the input or, without one, for the hint. -/
def finalize (build : Build κ) (compiler : Compiler κ) (architecture : Text)
    (hint input : Option Text) : Except Fault Output × Build κ :=
  let session := { build.session with paths := [] }
  match build.cache.get compiler architecture build.session.paths hint build.bench with
  | (.error fault, cache, bench) => (.error fault, { session, cache, bench })
  | (.ok result, cache, bench) =>
    match input <|> hint with
    | none => (.error .unnamedOutput, { session, cache, bench })
    | some input => (.ok (outputOf input result), { session, cache, bench })

end Build

end RegionBuild
