import RegionBuild.Compiler.External
import RegionBuild.Session
import RegionBuild.Tool.Basic

/-!
# The building tool

Prune and compile the files of one unit for an architecture, and write the output
and its source map. Runs may share a workshop, so that a unit whose files have not
changed is not compiled again.
-/

namespace RegionBuild

/-- The settings of the building tool. -/
structure BuildSettings where
  shared : SharedSettings := {}
  compiler : OptionValue := .text "tsc".toList
  scratchDirectory : Option OptionValue := none
  filenames : List Text := []
  package : Option OptionValue := none
  output : OptionValue := .text "app".toList
deriving DecidableEq, Repr

/-- A compiler with the cache of its results. -/
structure Workshop (κ : Type) where
  compiler : Compiler κ
  cache : Cache

namespace BuildSettings

/-- Change the shared settings. -/
def onShared (change : SharedSettings → SharedSettings) (settings : BuildSettings) :
    BuildSettings :=
  { settings with shared := change settings.shared }

/-- The options of the tool. -/
def parameters : List (Parameter BuildSettings) :=
  let defaults : BuildSettings := {}
  SharedSettings.parameters.map (Parameter.lift onShared) ++
  [{ names := ["--tsc".toList]
     effect := .value (fun given settings => { settings with compiler := given })
       (some defaults.compiler.shown) },
   { names := ["--scratch-dir".toList]
     effect := .value (fun given settings => { settings with scratchDirectory := some given })
       none },
   { names := ["--package".toList]
     effect := .value (fun given settings => { settings with package := some given }) none },
   { names := ["--output".toList]
     effect := .value (fun given settings => { settings with output := given })
       (some defaults.output.shown) }]

/-- The building tool. -/
def tool : Tool BuildSettings where
  name := "archsplit-build".toList
  parameters := parameters
  operand :=
    { title := "filenames".toList
      repeated := true
      put := fun texts settings => { settings with filenames := texts } }
  initial := {}
  shared := BuildSettings.shared

/-- A compiler that cannot compile any files for want of something. -/
def withoutNeeded (need : Need) : Compiler Launcher := fun paths _ _ bench =>
  (if paths.isEmpty then .ok {} else .error (.missing need), bench)

/-- The compiler that settings ask for. -/
def compile (settings : BuildSettings) : Compiler Launcher :=
  match settings.shared.serverArchitecture, settings.compiler with
  | .nothing, _ => withoutNeeded .serverArchitecture
  | _, .nothing => withoutNeeded .command
  | .text server, .text command =>
    External.compile { command, server, verbosity := settings.shared.verbosity }

/-- An empty cache as verbose as the settings. -/
def freshCache (settings : BuildSettings) : Cache := { verbosity := settings.shared.verbosity }

variable {κ : Type}

/-- A file as a source to register: by its absolute path, and by its path as seen
from the working directory. -/
def sourceOf (settings : BuildSettings) (files : FileStore) (filename : Text) :
    Except Fault Source := do
  let logicalPath ← seenFromHere files filename
  return {
    path := Path.absolute files.workingDirectory filename
    logicalPath
    architecture := settings.shared.architectureShown
    package := settings.package.map OptionValue.shown }

/-- Register files one after the other. -/
def addAll (settings : BuildSettings) (build : Build κ) :
    List Text → Except Fault Unit × Build κ
  | [] => (.ok (), build)
  | filename :: rest =>
    match settings.sourceOf build.bench.files filename with
    | .error fault => (.error fault, build)
    | .ok source =>
      match build.add source with
      | (.error fault, build) => (.error fault, build)
      | (.ok _, build) => settings.addAll build rest

/-- What is needed for scratch copies and was not given, if anything. -/
def scratchNeed (settings : BuildSettings) : Option Need :=
  if settings.scratchDirectory = some .nothing then some .scratchRoot
  else if settings.shared.architecture = .nothing then some .architecture
  else none

/-- Register files for want of something that scratch copies need: the first one is
pruned and then there is nowhere to put it. -/
def addNone (settings : BuildSettings) (need : Need) (build : Build κ) :
    List Text → Except Fault Unit × Build κ
  | [] => (.ok (), build)
  | filename :: _ =>
    match settings.sourceOf build.bench.files filename with
    | .error fault => (.error fault, build)
    | .ok source =>
      match build.bench.timed (pruneTimingName source.architecture)
          (pruneSource build.session.pruner source) with
      | (.error fault, bench) => (.error fault, { build with bench })
      | (.ok _, bench) => (.error (.missing need), { build with bench })

/-- Register the files of the settings. -/
def register (settings : BuildSettings) (build : Build κ) : Except Fault Unit × Build κ :=
  match settings.scratchNeed with
  | some need => settings.addNone need build settings.filenames
  | none => settings.addAll build settings.filenames

/-- Compile what is registered, if the output has a name. -/
def finalize (settings : BuildSettings) (build : Build κ) (compiler : Compiler κ) :
    Except Fault Output × Build κ :=
  match settings.output with
  | .nothing => (.error (.missing .outputName), build)
  | .text output =>
    build.finalize compiler settings.shared.architectureShown (some (output ++ ".js".toList))
      (some output)

/-- Write the output and its map, if there is any output. -/
def writeOutput (settings : BuildSettings) (output : Output) (bench : Bench κ) :
    Except Fault Unit × Bench κ :=
  match output.data with
  | none => (.ok (), bench)
  | some data =>
    match bench.files.writeText output.path data with
    | (.error fault, files) => (.error fault, { bench with files })
    | (.ok (), files) =>
      match files.writeText (output.path ++ ".map".toList) (output.map.getD []) with
      | (.error fault, files) => (.error fault, { bench with files })
      | (.ok (), files) =>
        (.ok (), { bench with files }.sayAt settings.shared.verbosity 1
          s!"Wrote {String.ofList output.path}")

/-- Whether any diagnostic is an error. -/
def hasErrors (output : Output) : Bool := output.diagnostics.any Diagnostic.isError

/-- Hand over what finalizing gave: diagnostics, files, statistics and times. -/
def emit (settings : BuildSettings) (output : Output) (cache : Cache) (bench : Bench κ) :
    Except Fault Nat × Bench κ :=
  let verbosity := settings.shared.verbosity
  let bench := output.diagnostics.foldl
    (fun bench diagnostic => bench.sayError (String.ofList diagnostic.render)) bench
  match settings.writeOutput output bench with
  | (.error fault, bench) => (.error fault, bench)
  | (.ok (), bench) =>
    let bench := if 2 ≤ verbosity then bench.write cache.report else bench
    (.ok (if hasErrors output then 1 else 0), bench.reportTimes verbosity)

/-- Build with settings that have been read, and give the exit status. -/
def run (settings : BuildSettings) (workshop : Workshop κ) (bench : Bench κ) :
    Except Fault Nat × Workshop κ × Bench κ :=
  match Pruner.ofOptions settings.shared.prunerOptions with
  | .error fault => (.error (.pruner fault), workshop, bench)
  | .ok pruner =>
    let session : Session :=
      { pruner
        scratchRoot := settings.scratchDirectory.map OptionValue.shown
        verbosity := settings.shared.verbosity }
    match settings.register { session, cache := workshop.cache, bench } with
    | (.error (.unterminated fault), build) =>
      (.ok 1, workshop, build.bench.sayError s!"Error: {fault.message}")
    | (.error fault, build) => (.error fault, workshop, build.bench)
    | (.ok (), build) =>
      match settings.finalize build workshop.compiler with
      | (.error fault, build) =>
        (.error fault, { workshop with cache := build.cache }, build.bench)
      | (.ok output, build) =>
        let (status, bench) := settings.emit output build.cache build.bench
        (status, { workshop with cache := build.cache }, bench)

/-- Run the tool in a workshop. If there is none yet, the settings open one. -/
def runTool (invocation : Invocation) (opened : BuildSettings → Workshop κ)
    (workshop : Option (Workshop κ)) (bench : Bench κ) :
    Except Halt Nat × Option (Workshop κ) × Bench κ :=
  match tool.settings invocation bench with
  | (.error halt, bench) => (.error halt, workshop, tool.announce halt bench)
  | (.ok settings, bench) =>
    match settings.run (workshop.getD (opened settings)) bench with
    | (.error fault, workshop, bench) => (.error (.fault fault), some workshop, bench)
    | (.ok status, workshop, bench) => (.ok status, some workshop, bench)

end BuildSettings

end RegionBuild
