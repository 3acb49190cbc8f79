import RegionBuild.Tool.Build
import RegionBuild.Tool.Prune

/-!
# The command line

The first argument chooses the tool. The files that the other arguments can mean are
loaded from disk, the tool works on them in memory, and what it changed is written
back. No program is started from here, so building ends where the compiler would be
run, and no clock is read, so that reported times are zero.
-/

namespace RegionBuild.Main

/-- The directory of the compiler's output. -/
def outputDirectory : Text := "/tmp/archsplit-tsc".toList

/-- What is on disk at a location. -/
def nodeAt (location : Location) : IO (Option Node) := do
  let place := (← IO.currentDir) / String.ofList ('/' :: Text.join ['/'] location)
  if !(← place.pathExists) then return none
  let modified := (← place.metadata).modified
  let time := modified.sec * 1000000000 + modified.nsec.toNat
  if ← place.isDir then return some (.directory time)
  return some (.file (← IO.FS.readBinFile place).toList time)

/-- Load what is at a location and at all locations above it. -/
def load (store : FileStore) (location : Location) : IO FileStore := do
  let above := (List.range location.length).map fun length => location.take (length + 1)
  above.foldlM (fun store location => do
    match ← nodeAt location with
    | some node => return store.put location node
    | none => return store) store

/-- The paths that an argument can mean: itself, or a value attached to an option. -/
def pathsIn (argument : Text) : List Text :=
  [argument, ((cutAtEquals argument).2).getD [], argument.drop 2]

/-- Load everything that a run has to read: files that arguments can mean, and
configuration files. Scratch copies are not loaded, so each is written anew. -/
def loadAll (invocation : Invocation) (workingDirectory : Text) : IO FileStore := do
  let named := invocation.arguments.flatMap pathsIn
  let paths := invocation.surroundings.configurationFiles ++ named
  let locations := (workingDirectory :: paths.filter fun path => !path.isEmpty).map fun path =>
    Path.components (Path.absolute workingDirectory path)
  let store ← locations.foldlM load (FileStore.withDirectories [] workingDirectory 0)
  let latest := store.nodes.foldl (fun latest entry => max latest entry.2.modified) 0
  return { store with clock := latest / 1000000 + 1000 }

/-- Write back what changed. -/
def save (before after : FileStore) : IO Unit := do
  let here ← IO.currentDir
  for (location, node) in after.nodes do
    if before.lookup location != some node then
      let place := here / String.ofList ('/' :: Text.join ['/'] location)
      match node with
      | .directory _ => IO.FS.createDirAll place
      | .file content _ => IO.FS.writeBinFile place (ByteArray.mk content.toArray)

/-- The environment variables that matter to a tool. -/
def environmentOf {σ : Type} (tool : Tool σ) : IO (List (Text × Text)) := do
  let names := "XDG_CONFIG_HOME".toList ::
    tool.parameters.filterMap (Parameter.variableName variableLead)
  names.filterMapM fun name => do
    return (← IO.getEnv (String.ofList name)).map fun value => (name, value.toList)

/-- What a tool finds around it. -/
def invocationOf {σ : Type} (tool : Tool σ) (arguments : List Text) (workingDirectory : Text) :
    IO Invocation := do
  let environment ← environmentOf tool
  let home := ((← IO.getEnv "HOME").getD "").toList
  let files := defaultConfigurationFiles environment home workingDirectory
  return ⟨arguments, { environment, home, configurationFiles := files }⟩

/-- Run a tool on the files of the disk and give the exit status. -/
def runOnDisk {σ : Type} (tool : Tool σ) (arguments : List Text)
    (run : Invocation → Bench Launcher → Except Halt Nat × Bench Launcher) : IO UInt32 := do
  let workingDirectory := (← IO.currentDir).toString.toList
  let invocation ← invocationOf tool arguments workingDirectory
  let files ← loadAll invocation workingDirectory
  let bench : Bench Launcher :=
    { files
      printed := {}
      watch := ⟨Timer.new false, fun _ => Decimal.Binary64.zero, 0⟩
      tools := { script := [.missing], outputDirectory } }
  let (ending, bench) := run invocation bench
  save files bench.files
  IO.print bench.printed.out
  IO.eprint bench.printed.err
  match ending with
  | .ok status => return UInt32.ofNat status
  | .error (.fault fault) =>
    IO.eprintln fault.message
    return 1
  | .error halt => return UInt32.ofNat halt.status

/-- Build in a workshop of the run's own. -/
def build (invocation : Invocation) (bench : Bench Launcher) :
    Except Halt Nat × Bench Launcher :=
  let opened (settings : BuildSettings) : Workshop Launcher :=
    ⟨settings.compile, settings.freshCache⟩
  let (ending, _, bench) := BuildSettings.runTool invocation opened none bench
  (ending, bench)

end RegionBuild.Main

/-- Run the tool that the first argument names. -/
def main (arguments : List String) : IO UInt32 := do
  match arguments with
  | "prune" :: rest =>
    RegionBuild.Main.runOnDisk RegionBuild.PruneSettings.tool (rest.map String.toList)
      RegionBuild.PruneSettings.runTool
  | "build" :: rest =>
    RegionBuild.Main.runOnDisk RegionBuild.BuildSettings.tool (rest.map String.toList)
      RegionBuild.Main.build
  | _ =>
    IO.eprintln "expected a tool: prune or build"
    return 2
