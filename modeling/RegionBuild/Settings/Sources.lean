import RegionBuild.PathPattern
import RegionBuild.Settings.Arguments
import RegionBuild.Settings.ConfigurationFile

/-!
# Where settings come from

A setting may come from the command line, from an environment variable or from a
configuration file, the stronger source first. Settings from elsewhere become
further arguments, unless the command line or a stronger source has them already.
A flag that a stronger source turned off stays off, and so does a count that one set
to zero or less. All that is used can be listed by its source, together with the
defaults that remain.
-/

namespace RegionBuild

variable {σ : Type}

/-- What a tool finds around it: environment variables, the home directory and those
of others by name, patterns for the configuration files to look for, weakest first,
and a reader of command lines that drops separators from the values of options or
does not. -/
structure Surroundings where
  environment : List (Text × Text)
  home : Text
  otherHomes : List (Text × Text) := []
  configurationFiles : List Text
  dropsSeparator : Bool := true
deriving DecidableEq, Repr

/-- A path with the home directory in place of a tilde. Nobody can be looked up by a
name with a NUL. -/
def Surroundings.expandHome (surroundings : Surroundings) (path : Text) :
    Except FileFault Text :=
  let name := (Path.homeName? path).getD []
  if name.any (· == '\x00') then .error ⟨.embeddedNull, some path⟩
  else .ok (Path.expandHome surroundings.home surroundings.otherHomes path)

/-- Settings listed by source. -/
inductive Section where
  | commandLine (arguments : List Text)
  | environment (entries : List (Text × Text))
  | file (path : Text) (entries : List (Text × Text))
  | defaults (entries : List (Text × Text))
deriving DecidableEq, Repr

/-- The width of the column of keys in a listing. -/
def keyColumn : Nat := 19

/-- A key and its value in a listing. -/
def entryLine (entry : Text × Text) : Text :=
  let key := entry.1 ++ [':']
  "  ".toList ++ key ++ List.replicate (keyColumn - key.length) ' ' ++ entry.2 ++ ['\n']

/-- The text of a section. -/
def Section.render : Section → Text
  | .commandLine arguments =>
    "Command Line Args:   ".toList ++ Text.join [' '] arguments ++ ['\n']
  | .environment entries => "Environment Variables:\n".toList ++ entries.flatMap entryLine
  | .file path entries =>
    "Config File (".toList ++ path ++ "):\n".toList ++ entries.flatMap entryLine
  | .defaults entries => "Defaults:\n".toList ++ entries.flatMap entryLine

/-- The text of all sections. -/
def listing (sections : List Section) : Text := sections.flatMap Section.render

/-- An argument that starts with a dash, up to its equals sign. -/
def argumentName (argument : Text) : Text :=
  if argument.head? = some '-' then (cutAtEquals argument).1 else argument

/-- Whether an option, or the one it excludes, is among the arguments before the
separator. Names are compared as they stand. -/
def isGiven (arguments : List Text) (parameter : Parameter σ) : Bool :=
  let names := (arguments.takeWhile (· != separatorText)).map argumentName
  (parameter.rival.toList ++ parameter.names).any names.contains

/-- Put further arguments before the separator if there is one, else before the
first argument with a dash, else at the end. -/
def insertArguments (arguments further : List Text) : List Text :=
  let before :=
    if arguments.contains separatorText then arguments.takeWhile (· != separatorText)
    else arguments.takeWhile fun argument => argument.head? != some '-'
  before ++ further ++ arguments.drop before.length

/-- What a flag can be set to. -/
inductive FlagValue where
  | on
  | off
  | other

/-- Read the value of a flag. The case of letters does not matter. -/
def flagValue (text : Text) : FlagValue :=
  let lower := String.ofList (text.map Char.toLower)
  if ["true", "yes", "on", "1"].contains lower then .on
  else if ["false", "no", "off", "0"].contains lower then .off
  else .other

/-- How often a count can be repeated before there is no memory for it. -/
def repetitionLimit : Nat := 1073741824

/-- An option repeated so many times as a number says, which has 64 bits. A negative
number is as good as zero. -/
def repeated (name : Text) (number : Int) : Except Fault (List Text) :=
  if !Numeral.fitsWord number then .error .countRange
  else if repetitionLimit ≤ number.toNat then .error .countMemory
  else .ok (List.replicate number.toNat name)

/-- The arguments for a count that is set to a text. -/
def countArguments (name text : Text) : Except Fault (List Text) :=
  match Numeral.readInt text with
  | .ok number => repeated name number
  | .error fault => .error (.numeral fault)

/-- The arguments for a flag or a count that is set to a text. A count may also be
set to a number. -/
def flagArguments (parameter : Parameter σ) (counted : Bool) (key text : Text) :
    Except Halt (List Text) :=
  match flagValue text with
  | .on => .ok [parameter.lastName]
  | .off => .ok []
  | .other =>
    if counted then
      match countArguments parameter.firstName text with
      | .ok arguments => .ok arguments
      | .error fault => .error (.fault fault)
    else .error (.usage (.unexpectedValue key text))

/-- The arguments that a setting from elsewhere becomes. -/
def settingArguments (parameter : Parameter σ) (key : Text) (value : SettingValue) :
    Except Halt (List Text) :=
  match parameter.effect, value with
  | .flag _, .text text => flagArguments parameter false key text
  | .count _, .text text => flagArguments parameter true key text
  | .flag _, .list _ | .count _, .list _ => .error (.fault .listForFlag)
  | _, .text text => .ok [parameter.lastName ++ '=' :: text]
  | _, .list items => .error (.usage (.unexpectedList key (Json.display (.arr items))))

/-- A setting from elsewhere: its key there, the option it sets and the value. -/
structure Setting (σ : Type) where
  key : Text
  parameter : Parameter σ
  value : SettingValue

/-- What has been gathered: the arguments, the titles of the flags and counts turned
off, and the sections of the listing in order. -/
structure Gathered where
  arguments : List Text
  turnedOff : List Text := []
  sections : List Section := []
deriving DecidableEq, Repr

/-- Whether a setting is to be used after what has been gathered. -/
def Gathered.admits (gathered : Gathered) (parameter : Parameter σ) : Bool :=
  !isGiven gathered.arguments parameter && !gathered.turnedOff.contains parameter.title

/-- The arguments of each setting, one after the other. -/
def allArguments : List (Setting σ) → Except Halt (List (Setting σ × List Text))
  | [] => .ok []
  | setting :: rest => do
    let own ← settingArguments setting.parameter setting.key setting.value
    let more ← allArguments rest
    return (setting, own) :: more

/-- Add the settings of one source. Those that become no argument are turned off. -/
def Gathered.addSettings (gathered : Gathered) (settings : List (Setting σ)) :
    Except Halt Gathered := do
  let all ← allArguments settings
  let off := all.filter fun found => found.2.isEmpty
  return { gathered with
    arguments := insertArguments gathered.arguments (all.flatMap Prod.snd)
    turnedOff := gathered.turnedOff ++ off.map fun found => found.1.parameter.title }

/-- The key and the value of a setting in a listing. -/
def Setting.entry (setting : Setting σ) : Text × Text :=
  match setting.value with
  | .text text => (setting.key, text)
  | .list items => (setting.key, Json.display (.arr items))

/-- What stands before the names of environment variables. -/
def variableLead : Text := "ARCHSPLIT_".toList

/-- Start with the command line. -/
def Gathered.start (arguments : List Text) : Gathered where
  arguments := arguments
  sections := if arguments.isEmpty then [] else [.commandLine arguments]

/-- Add the settings from the environment, in the order of the options. -/
def Gathered.addEnvironment (gathered : Gathered) (parameters : List (Parameter σ))
    (environment : List (Text × Text)) : Except Halt Gathered := do
  let settings := parameters.filterMap fun parameter => do
    let name ← parameter.variableName variableLead
    let value ← environment.lookup name
    if gathered.admits parameter then some (Setting.mk name parameter (.text value)) else none
  let added ← gathered.addSettings settings
  return if settings.isEmpty then added
    else { added with sections := added.sections ++ [.environment (settings.map Setting.entry)] }

/-- Entries with one more, in place of an earlier one with its key. -/
def putEntry (entry : Text × Text) : List (Text × Text) → List (Text × Text)
  | [] => [entry]
  | first :: rest => if first.1 = entry.1 then entry :: rest else first :: putEntry entry rest

/-- Sections with the entries of a file. A file that came before keeps its section. -/
def putFileSection (path : Text) (entries : List (Text × Text)) : List Section → List Section
  | [] => [.file path entries]
  | .file other before :: rest =>
    if other = path then
      .file path (entries.foldl (fun all entry => putEntry entry all) before) :: rest
    else .file other before :: putFileSection path entries rest
  | first :: rest => first :: putFileSection path entries rest

/-- Add the settings of a configuration file. Keys that no option has are ignored. -/
def Gathered.addFile (gathered : Gathered) (parameters : List (Parameter σ)) (path : Text)
    (bytes : List UInt8) : Except Halt Gathered := do
  let read ← ConfigurationFile.parse path bytes
  let settings := read.filterMap fun (key, value) => do
    let parameter ← parameters.find? fun parameter => parameter.keys.contains key
    if gathered.admits parameter then some (Setting.mk key parameter value) else none
  let added ← gathered.addSettings settings
  return if settings.isEmpty then added
    else { added with
      sections := putFileSection path (settings.map Setting.entry) added.sections }

/-- Add the settings of several files, the strongest first. -/
def Gathered.addFiles (gathered : Gathered) (parameters : List (Parameter σ)) :
    List (Text × List UInt8) → Except Halt Gathered
  | [] => .ok gathered
  | (path, bytes) :: rest => do
    let added ← gathered.addFile parameters path bytes
    added.addFiles parameters rest

/-- The configuration file that the arguments ask for, read leniently: only the
option for it is known, and nothing is reported. -/
def requestedFile (dropsSeparator : Bool) (parameters : List (Parameter σ))
    (arguments : List Text) : Option Text :=
  let locators : List (Parameter Text) := parameters.filterMap fun parameter =>
    if parameter.locatesFile then
      some ⟨parameter.names, .value (fun given _ => given.toText) none, none, true⟩
    else none
  let (_, progress) := readArguments dropsSeparator locators none [] arguments
  if progress.settings.isEmpty then none else some progress.settings

/-- The files at paths, with their bytes. -/
def openAll (files : FileStore) : List Text → Except FileFault (List (Text × List UInt8))
  | [] => .ok []
  | path :: rest => do
    let bytes ← files.readBytes path
    let more ← openAll files rest
    return (path, bytes) :: more

/-- The files that match the patterns to look for, with their bytes. -/
def presentFiles (files : FileStore) (surroundings : Surroundings) :
    List Text → Except FileFault (List (Text × List UInt8))
  | [] => .ok []
  | pattern :: rest => do
    let paths ← files.matching (← surroundings.expandHome pattern)
    let found ← openAll files paths
    let more ← presentFiles files surroundings rest
    return found ++ more

/-- The configuration files that apply, the strongest first. One that is asked for
has to be there. -/
def configurationFiles (parameters : List (Parameter σ)) (surroundings : Surroundings)
    (files : FileStore) (arguments : List Text) : Except Halt (List (Text × List UInt8)) :=
  match presentFiles files surroundings surroundings.configurationFiles with
  | .error fault => .error (.fault (.file fault))
  | .ok present =>
    match requestedFile surroundings.dropsSeparator parameters arguments with
    | none => .ok present.reverse
    | some path =>
      match surroundings.expandHome path with
      | .error fault => .error (.fault (.file fault))
      | .ok path =>
        match files.readBytes path with
        | .ok bytes => .ok ((path, bytes) :: present.reverse)
        | .error fault => .error (.usage (.unreadable path fault))

/-- Whether the arguments ask for help, which needs no configuration file. -/
def asksForHelp (arguments : List Text) : Bool :=
  arguments.contains "-h".toList || arguments.contains "--help".toList

/-- The defaults that remain: of options that take a value and are not given. -/
def remainingDefaults (parameters : List (Parameter σ)) (arguments : List Text) :
    List (Text × Text) :=
  parameters.filterMap fun parameter =>
    match parameter.effect with
    | .value _ (some default) =>
      if isGiven arguments parameter then none else some (parameter.lastName, default)
    | _ => none

/-- Gather settings from all sources. -/
def gather (parameters : List (Parameter σ)) (surroundings : Surroundings) (files : FileStore)
    (arguments : List Text) : Except Halt Gathered := do
  let start ← (Gathered.start arguments).addEnvironment parameters surroundings.environment
  let applying ←
    if asksForHelp start.arguments then .ok []
    else configurationFiles parameters surroundings files start.arguments
  let gathered ← start.addFiles parameters applying
  let defaults := remainingDefaults parameters gathered.arguments
  return if defaults.isEmpty then gathered
    else { gathered with sections := gathered.sections ++ [.defaults defaults] }

end RegionBuild
