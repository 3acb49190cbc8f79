import RegionBuild.Compiler.Basic
import RegionBuild.Diagnostic.Parser
import RegionBuild.SourceMap

/-!
# The external compiler

The external compiler is a command that compiles all files of a unit into one
output file with a source map beside it, both in a directory of their own. The
directory is gone by the time the map's sources are read. Running the command is
the work of a launcher; everything about the command itself is decided here.

A command with an output option of its own may write elsewhere. What it wrote there
stays, and for the unit nothing was emitted.
-/

namespace RegionBuild

/-- How a run of the command ended: what it printed, its status, and the output
and the map if it wrote them. -/
structure Ended where
  output : Text := []
  status : Int := 0
  source : Option Text := none
  map : Option Text := none
deriving DecidableEq, Repr

/-- What the next run of a command will do: end in some way, or not start because
there is no such program. -/
inductive Run where
  | ended (ended : Ended)
  | missing
deriving DecidableEq, Repr

/-- The runs to come, the commands run so far in order, and the directory that
output is written to. -/
structure Launcher where
  script : List Run := []
  commands : List (List Text) := []
  outputDirectory : Text
deriving DecidableEq, Repr

/-- The option before the output file. -/
def outputOption : Text := "--outFile".toList

/-- The file that a command writes to: the first that follows the option. -/
def outputFileOf (command : List Text) : Text :=
  (((command.dropWhile (· != outputOption)).drop 1).head?).getD []

/-- Write a text if there is one, as another program does. -/
def leaveText (files : FileStore) (path : Text) : Option Text → Except FileFault FileStore
  | none => .ok files
  | some text => files.leaveBytes path (Utf8.encode text)

/-- Write what a run leaves behind. The output stays when the map is refused. -/
def Ended.leave (ended : Ended) (path : Text) (files : FileStore) :
    Except FileFault Unit × FileStore :=
  match leaveText files path ended.source with
  | .error fault => (.error fault, files)
  | .ok files =>
    match leaveText files (path ++ ".map".toList) ended.map with
    | .error fault => (.error fault, files)
    | .ok files => (.ok (), files)

namespace Launcher

/-- Take the next run of the script for a command. After the last one, commands end
without having done anything. -/
def next (launcher : Launcher) (command : List Text) : Run × Launcher :=
  let commands := launcher.commands ++ [command]
  match launcher.script with
  | [] => (.ended {}, { launcher with commands })
  | run :: script => (run, { launcher with script, commands })

end Launcher

/-- The command, which may have arguments of its own, the server architecture, and
the verbosity. -/
structure External where
  command : Text := "tsc".toList
  server : Text := Architecture.defaultServer
  verbosity : Int := 0
deriving DecidableEq, Repr

namespace External

/-- The name of the output file. -/
def outputName : Text := "out.js".toList

/-- The arguments between the command's own and the files. -/
def arguments (target outputFile : Text) : List Text :=
  ["--pretty".toList, "false".toList, "--target".toList, target, outputOption, outputFile,
   "--sourceMap".toList, "--alwaysStrict".toList, "--removeComments".toList,
   "--noEmitOnError".toList]

/-- The words of the command that compiles files for an architecture. -/
def commandFor (external : External) (paths : List Text) (architecture outputFile : Text) :
    Except ShellWords.Fault (List Text) := do
  let own ← ShellWords.split external.command
  let target := (Architecture.tier architecture external.server).target.toList
  return own ++ arguments target outputFile ++ paths

/-- What is said when the command cannot be started. -/
def startFailure (external : External) (fault : FileFault) : String :=
  s!"Failed to run the TypeScript compiler '{String.ofList external.command}'. " ++
    s!"Error={fault.message}"

/-- The diagnostics of a run that ended. A failure without any is a broken
toolchain. -/
def diagnosticsOf (command : List Text) (ended : Ended) : Except Fault (List Diagnostic) :=
  match Diagnostic.parse ended.output with
  | .error fault => .error (.numeral fault)
  | .ok diagnostics =>
    if ended.status ≠ 0 ∧ diagnostics.isEmpty then .error (.command command ended.status)
    else .ok diagnostics

/-- The output and the map that a run wrote, if it wrote both. -/
def emittedTexts (files : FileStore) (outputFile : Text) : Except Fault (Option (Text × Text)) :=
  let mapFile := outputFile ++ ".map".toList
  if files.isFile outputFile && files.isFile mapFile then do
    let source ← files.readText outputFile
    let map ← files.readText mapFile
    return some (source, map)
  else .ok none

/-- The result of a run that ended. The output directory is there when the files are
read and gone when the output is made ready. -/
def interpret (files : FileStore) (outputDirectory : Text) (command : List Text)
    (hint : Option Text) (ended : Ended) : Except Fault Compiled := do
  let diagnostics ← diagnosticsOf command ended
  match ← emittedTexts files (Path.join outputDirectory outputName) with
  | none => return { diagnostics }
  | some (source, map) =>
    let here := files.workingDirectory
    let rebased ← SourceMap.rebase here outputDirectory map
    let (source, map) ←
      SourceMap.finish (files.removeTree outputDirectory) source rebased hint here
    return { source, map, diagnostics }

/-- Report that the command could not do its work. A path with a NUL is refused
before there is anything to report. -/
def reportFailure (external : External) (fault : FileFault) (bench : Bench Launcher) :
    Except Fault Ended × Bench Launcher :=
  let bench :=
    if fault.problem = .embeddedNull then bench
    else bench.sayError (external.startFailure fault)
  (.error (.file fault), bench)

/-- Run the command on a bench. -/
def launch (external : External) (command : List Text) (bench : Bench Launcher) :
    Except Fault Ended × Bench Launcher :=
  let (run, tools) := bench.tools.next command
  let bench := { bench with tools }
  match run with
  | .missing => external.reportFailure ⟨.notFound, command.head?⟩ bench
  | .ended ended =>
    match ended.leave (outputFileOf command) bench.files with
    | (.error fault, files) => external.reportFailure fault { bench with files }
    | (.ok (), files) => (.ok ended, { bench with files })

/-- Run the command and make something of what it did, while the output directory is
there. -/
def compileInto (external : External) (outputDirectory : Text) (command : List Text)
    (architecture : Text) (hint : Option Text) (bench : Bench Launcher) :
    Except Fault Compiled × Bench Launcher :=
  let bench := bench.sayAt external.verbosity 3 (String.ofList (Text.join [' '] command))
  match bench.timed ("tsc_".toList ++ architecture) (external.launch command) with
  | (.error fault, bench) => (.error fault, bench)
  | (.ok ended, bench) =>
    let bench := bench.sayAt external.verbosity 5 (String.ofList ended.output)
    (interpret bench.files outputDirectory command hint ended, bench)

/-- Compile files with the command. No files give an empty result without a run. -/
def compile (external : External) : Compiler Launcher := fun paths architecture hint bench =>
  if paths.isEmpty then (.ok {}, bench)
  else
    let outputDirectory := bench.tools.outputDirectory
    match external.commandFor paths architecture (Path.join outputDirectory outputName) with
    | .error fault => (.error (.words fault), bench)
    | .ok command =>
      let (_, files) := bench.files.makeDirectories outputDirectory
      let (result, bench) :=
        external.compileInto outputDirectory command architecture hint { bench with files }
      (result, { bench with files := bench.files.removeTree outputDirectory })

end External

end RegionBuild
