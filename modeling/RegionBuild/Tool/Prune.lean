import RegionBuild.Session
import RegionBuild.Tool.Basic

/-!
# The pruning tool

Prune one file for an architecture, and print the result or write it to a file.
-/

namespace RegionBuild

/-- The settings of the pruning tool. -/
structure PruneSettings where
  shared : SharedSettings := {}
  filename : Text := []
  logicalPath : Option OptionValue := none
  output : Option OptionValue := none
deriving DecidableEq, Repr

namespace PruneSettings

/-- Change the shared settings. -/
def onShared (change : SharedSettings → SharedSettings) (settings : PruneSettings) :
    PruneSettings :=
  { settings with shared := change settings.shared }

/-- The options of the tool. -/
def parameters : List (Parameter PruneSettings) :=
  SharedSettings.parameters.map (Parameter.lift onShared) ++
  [{ names := ["--logical-path".toList]
     effect := .value (fun given settings => { settings with logicalPath := some given }) none },
   { names := ["-o".toList, "--output".toList]
     effect := .value (fun given settings => { settings with output := some given }) none }]

/-- The pruning tool. -/
def tool : Tool PruneSettings where
  name := "archsplit-prune".toList
  parameters := parameters
  operand :=
    { title := "filename".toList
      repeated := false
      put := fun texts settings => { settings with filename := texts.headD [] } }
  initial := {}
  shared := PruneSettings.shared

/-- A text that is given and not empty. -/
def present (given : Option OptionValue) : Option Text :=
  (given.map OptionValue.toText).filter fun text => !text.isEmpty

/-- The logical path of the file: the one that is set, or the path as seen from the
working directory. -/
def logicalPathIn (settings : PruneSettings) (files : FileStore) : Except Fault Text :=
  match present settings.logicalPath with
  | some path => .ok path
  | none => seenFromHere files settings.filename

variable {κ : Type}

/-- Hand over the pruned text. -/
def emit (settings : PruneSettings) (text : Text) (bench : Bench κ) :
    Except Fault Nat × Bench κ :=
  let verbosity := settings.shared.verbosity
  match present settings.output with
  | none => (.ok 0, (bench.write (String.ofList text)).reportTimes verbosity)
  | some path =>
    match bench.files.writeText path text with
    | (.error fault, files) => (.error fault, { bench with files })
    | (.ok (), files) => (.ok 0, { bench with files }.reportTimes verbosity)

/-- Prune with settings that have been read, and give the exit status. -/
def run (settings : PruneSettings) (bench : Bench κ) : Except Fault Nat × Bench κ :=
  match Pruner.ofOptions settings.shared.prunerOptions with
  | .error fault => (.error (.pruner fault), bench)
  | .ok pruner =>
    match settings.logicalPathIn bench.files with
    | .error fault => (.error fault, bench)
    | .ok logicalPath =>
      match pruneSource pruner ⟨settings.filename, logicalPath,
          settings.shared.architectureShown, none, true⟩ bench with
      | (.error (.unterminated fault), bench) =>
        (.ok 1, bench.sayError s!"Error: {fault.message}")
      | (.error fault, bench) => (.error fault, bench)
      | (.ok text, bench) => settings.emit text bench

/-- Run the tool. -/
def runTool (invocation : Invocation) (bench : Bench κ) : Except Halt Nat × Bench κ :=
  match tool.settings invocation bench with
  | (.error halt, bench) => (.error halt, tool.announce halt bench)
  | (.ok settings, bench) =>
    match settings.run bench with
    | (.error fault, bench) => (.error (.fault fault), bench)
    | (.ok status, bench) => (.ok status, bench)

end PruneSettings

end RegionBuild
