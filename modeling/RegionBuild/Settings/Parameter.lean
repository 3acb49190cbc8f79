import RegionBuild.Text.Basic

/-!
# The parameters of a tool

A tool's settings are a record. Each option says what it does to the record, so
the reading of a command line never has to know what the settings mean. A tool
has one more parameter, its operand: the file or files to work on.
-/

namespace RegionBuild

/-- Two dashes alone, which separate options from operands. -/
def separatorText : Text := ['-', '-']

/-- What an option was given: a text or nothing. Readers of command lines do not agree on
a separator that is attached to an option. Some take it away wherever it stands, so that
the option is left with nothing; for others it is a text like any other. -/
inductive OptionValue where
  | text (given : Text)
  | nothing
deriving DecidableEq, Repr

namespace OptionValue

/-- What is left of a text for an option, if separators are dropped from values or not. -/
def ofText (dropsSeparator : Bool) (text : Text) : OptionValue :=
  if dropsSeparator ∧ text = separatorText then .nothing else .text text

/-- The text, which is empty if there is none. -/
def toText : OptionValue → Text
  | .text given => given
  | .nothing => []

/-- How a message shows what was given. -/
def shown : OptionValue → Text
  | .text given => given
  | .nothing => ['[', ']']

end OptionValue

/-- What an option does to the settings when it is given. -/
inductive Effect (σ : Type) where
  /-- Ask for help. -/
  | help
  /-- Ask for the version. -/
  | version
  /-- Change the settings each time the option is given. -/
  | count (change : σ → σ)
  /-- Turn something on or off. -/
  | flag (change : σ → σ)
  /-- Take a value. A default is what holds when the option is not given. -/
  | value (put : OptionValue → σ → σ) (default : Option Text)

/-- An option: its names with their dashes, its effect, the name of the option it
excludes, and whether it says where a configuration file is. -/
structure Parameter (σ : Type) where
  names : List Text
  effect : Effect σ
  rival : Option Text := none
  locatesFile : Bool := false

/-- The operand: its name, whether it may be repeated, and where it goes. -/
structure Operand (σ : Type) where
  title : Text
  repeated : Bool
  put : List Text → σ → σ

namespace Effect

variable {σ τ : Type}

/-- The effect on settings of which those it was made for are a part. -/
def lift (within : (σ → σ) → τ → τ) : Effect σ → Effect τ
  | .help => .help
  | .version => .version
  | .count change => .count (within change)
  | .flag change => .flag (within change)
  | .value put default => .value (fun given => within (put given)) default

/-- Whether the option takes a value. -/
def takesValue : Effect σ → Bool
  | .value _ _ => true
  | _ => false

end Effect

namespace Parameter

variable {σ τ : Type}

/-- The option on settings of which those it was made for are a part. -/
def lift (within : (σ → σ) → τ → τ) (parameter : Parameter σ) : Parameter τ where
  names := parameter.names
  effect := parameter.effect.lift within
  rival := parameter.rival
  locatesFile := parameter.locatesFile

/-- How messages name an option. -/
def title (parameter : Parameter σ) : Text := Text.join ['/'] parameter.names

/-- The name under which a setting from elsewhere is passed on: the last one. -/
def lastName (parameter : Parameter σ) : Text := parameter.names.getLast?.getD []

/-- The name under which a count is repeated: the first one. -/
def firstName (parameter : Parameter σ) : Text := parameter.names.head?.getD []

/-- Whether a name is a long one, with two dashes. -/
def isLong (name : Text) : Bool := ['-', '-'].isPrefixOf name

/-- The names under which a configuration file may set an option: the long ones,
with or without their dashes. -/
def keys (parameter : Parameter σ) : List Text :=
  (parameter.names.filter isLong).flatMap fun name => [name.drop 2, name]

/-- The letters of a name as they stand in a variable: capitals, and an underscore
for each dash. -/
def variableLetter (char : Char) : Char := if char = '-' then '_' else char.toUpper

/-- The environment variable that sets an option. There is none for options that
ask for something or name a configuration file. -/
def variableName (lead : Text) (parameter : Parameter σ) : Option Text :=
  if parameter.locatesFile then none
  else
    match parameter.effect with
    | .help | .version => none
    | _ => (parameter.keys.head?).map fun key => lead ++ key.map variableLetter

end Parameter

end RegionBuild
