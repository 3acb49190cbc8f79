import RegionBuild.Fault

/-!
# How reading settings ends early

A command line can be wrong, or ask for the version or for help instead of work.
A wrong one is answered by a message after the tool's name.
-/

namespace RegionBuild

/-- What is wrong with a command line or a setting. -/
inductive UsageProblem where
  /-- An abbreviation of several options. -/
  | ambiguous (given : Text) (candidates : List Text)
  /-- A value attached to an option that takes none. -/
  | ignoredValue (title value : Text)
  /-- An option without the value it takes. -/
  | missingValue (title : Text)
  /-- Two options that exclude each other. -/
  | conflict (title other : Text)
  /-- No operand where one is needed. -/
  | missingOperand (title : Text)
  /-- Arguments that nothing takes. -/
  | unrecognized (arguments : List Text)
  /-- A line of a configuration file that is no setting; lines count from zero. -/
  | unexpectedLine (index : Nat) (file line : Text)
  /-- A flag set to something that is neither true nor false. -/
  | unexpectedValue (key value : Text)
  /-- A list for a setting that takes one value. -/
  | unexpectedList (key shown : Text)
  /-- A configuration file that was asked for and cannot be opened. -/
  | unreadable (file : Text) (fault : FileFault)
deriving DecidableEq, Repr

/-- The wording of a problem. -/
def UsageProblem.message : UsageProblem → String
  | .ambiguous given candidates =>
    s!"ambiguous option: {String.ofList given} could match " ++
      String.ofList (Text.join ", ".toList candidates)
  | .ignoredValue title value =>
    s!"argument {String.ofList title}: ignored explicit argument " ++
      String.ofList (Text.quoted value)
  | .missingValue title => s!"argument {String.ofList title}: expected one argument"
  | .conflict title other =>
    s!"argument {String.ofList title}: not allowed with argument {String.ofList other}"
  | .missingOperand title =>
    s!"the following arguments are required: {String.ofList title}"
  | .unrecognized arguments =>
    "unrecognized arguments: " ++ String.ofList (Text.join [' '] arguments)
  | .unexpectedLine index file line =>
    s!"Unexpected line {index} in {String.ofList file}: {String.ofList line}"
  | .unexpectedValue key value =>
    s!"Unexpected value for {String.ofList key}: '{String.ofList value}'. " ++
      "Expecting 'true', 'false', 'yes', 'no', 'on', 'off', '1' or '0'"
  | .unexpectedList key shown =>
    s!"{String.ofList key} can't be set to a list '{String.ofList shown}' unless its action " ++
      "type is changed to 'append' or nargs is set to '*', '+', or > 1"
  | .unreadable file fault =>
    s!"Unable to open config file: {String.ofList file}. Error: {fault.message}"

/-- Why a tool stops before its work. -/
inductive Halt where
  | usage (problem : UsageProblem)
  | version
  | help
  | fault (fault : Fault)
deriving DecidableEq, Repr

end RegionBuild
