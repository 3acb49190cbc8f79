import RegionBuild.Bench
import RegionBuild.Settings.Sources

/-!
# Tools

A tool reads its settings from the command line and its surroundings and then does
its work on a bench. What all tools share stands here: the shared options, the
version, the listing of settings and the ways a run can end.
-/

namespace RegionBuild

/-- The version of all tools. -/
def version : Text := "0.1.0".toList

/-- The settings that all tools share. -/
structure SharedSettings where
  configurationFile : Option OptionValue := none
  verbose : Nat := 0
  quiet : Nat := 0
  architecture : OptionValue := .text "web.browser".toList
  serverArchitecture : OptionValue := .text Architecture.defaultServer
  timing : Bool := false
  clientPrologue : OptionValue := .text ({} : PrunerOptions).clientPrologue
  serverPrologue : OptionValue := .text ({} : PrunerOptions).serverPrologue
  stringAware : Bool := true
deriving DecidableEq, Repr

namespace SharedSettings

/-- The verbosity that is left after all requests for more and for less. -/
def verbosity (settings : SharedSettings) : Int := settings.verbose - settings.quiet

/-- The architecture as messages show it. -/
def architectureShown (settings : SharedSettings) : Text := settings.architecture.shown

/-- A name for the server architecture that is the architecture as shown exactly if
the two settings are the same. It is the setting itself unless nothing was given. -/
def serverName (settings : SharedSettings) : Text :=
  let shown := settings.serverArchitecture.shown
  if settings.architecture = settings.serverArchitecture then shown
  else if settings.architectureShown = shown then shown ++ ['.']
  else shown

/-- The options of the pruner that a tool uses. -/
def prunerOptions (settings : SharedSettings) : PrunerOptions where
  clientPrologue := settings.clientPrologue.toText
  serverPrologue := settings.serverPrologue.toText
  serverArchitecture := settings.serverName
  stringAware := settings.stringAware
  verbosity := settings.verbosity

/-- Two options that turn something on and off, each of which excludes the other. -/
def pair (name : String) (put : Bool → SharedSettings → SharedSettings) :
    List (Parameter SharedSettings) :=
  let on := "--".toList ++ name.toList
  let off := "--no-".toList ++ name.toList
  [⟨[on], .flag (put true), some off, false⟩, ⟨[off], .flag (put false), some on, false⟩]

/-- The shared options. -/
def parameters : List (Parameter SharedSettings) :=
  let defaults : SharedSettings := {}
  [{ names := ["-h".toList, "--help".toList], effect := .help },
   { names := ["-c".toList, "--config".toList]
     effect := .value (fun given settings => { settings with configurationFile := some given })
       none
     locatesFile := true },
   { names := ["--version".toList], effect := .version },
   { names := ["-v".toList, "--verbose".toList]
     effect := .count fun settings => { settings with verbose := settings.verbose + 1 } },
   { names := ["-q".toList, "--quiet".toList]
     effect := .count fun settings => { settings with quiet := settings.quiet + 1 } },
   { names := ["--arch".toList]
     effect := .value (fun given settings => { settings with architecture := given })
       (some defaults.architecture.shown) },
   { names := ["--server-arch".toList]
     effect := .value (fun given settings => { settings with serverArchitecture := given })
       (some defaults.serverArchitecture.shown) }] ++
  pair "timing" (fun value settings => { settings with timing := value }) ++
  [{ names := ["--client-prologue".toList]
     effect := .value (fun given settings => { settings with clientPrologue := given })
       (some defaults.clientPrologue.shown) },
   { names := ["--server-prologue".toList]
     effect := .value (fun given settings => { settings with serverPrologue := given })
       (some defaults.serverPrologue.shown) }] ++
  pair "string-aware" (fun value settings => { settings with stringAware := value })

end SharedSettings

/-- A tool: its name, its options and operand, the settings to start from, and the
shared ones among them. -/
structure Tool (σ : Type) where
  name : Text
  parameters : List (Parameter σ)
  operand : Operand σ
  initial : σ
  shared : σ → SharedSettings

/-- The name of the configuration files that are looked for. -/
def configurationFileName : Text := "archsplit.conf".toList

/-- The configuration files to look for, weakest first: one for the user and one in
a directory. -/
def defaultConfigurationFiles (environment : List (Text × Text)) (home directory : Text) :
    List Text :=
  let userDirectory := (environment.lookup "XDG_CONFIG_HOME".toList).getD
    (Path.expandHome home [] "~/.config".toList)
  [Path.joinAll userDirectory ["archsplit".toList, configurationFileName],
   Path.join directory configurationFileName]

/-- How a run of a tool is called: its arguments and what it finds around it. -/
structure Invocation where
  arguments : List Text
  surroundings : Surroundings
deriving DecidableEq, Repr

variable {σ κ : Type}

/-- Read the settings of a run. The timer starts anew, and a verbose run lists where
its settings come from. -/
def Tool.settings (tool : Tool σ) (invocation : Invocation) (bench : Bench κ) :
    Except Halt σ × Bench κ :=
  let read := do
    let gathered ←
      gather tool.parameters invocation.surroundings bench.files invocation.arguments
    let settings ← settingsOf invocation.surroundings.dropsSeparator tool.parameters tool.operand
      tool.initial gathered.arguments
    return (settings, gathered.sections)
  match read with
  | .error halt => (.error halt, bench)
  | .ok (settings, sections) =>
    let shared := tool.shared settings
    let bench := { bench with watch := { bench.watch with timer := Timer.new shared.timing } }
    (.ok settings,
      if 2 ≤ shared.verbosity then bench.sayError (String.ofList (listing sections)) else bench)

/-- What a tool prints when it stops before its work: the version, or its name and
the problem. -/
def Tool.announce (tool : Tool σ) (halt : Halt) (bench : Bench κ) : Bench κ :=
  match halt with
  | .usage problem => bench.sayError s!"{String.ofList tool.name}: error: {problem.message}"
  | .version => bench.say (String.ofList version)
  | .help | .fault _ => bench

/-- The exit status of a tool that stops before its work. -/
def Halt.status : Halt → Nat
  | .usage _ => 2
  | .version | .help => 0
  | .fault _ => 1

/-- Report the times that were recorded. -/
def Bench.reportTimes (bench : Bench κ) (verbosity : Int) : Bench κ :=
  bench.writeError (bench.watch.timer.report verbosity)

/-- A path as seen from the working directory. There is none for the empty path. -/
def seenFromHere (files : FileStore) (path : Text) : Except Fault Text :=
  if path.isEmpty then .error .emptyPath
  else .ok (Path.relative files.workingDirectory path files.workingDirectory)

end RegionBuild
