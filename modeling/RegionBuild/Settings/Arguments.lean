import RegionBuild.Settings.Parameter
import RegionBuild.Settings.Usage
import RegionBuild.Text.DecimalDigit

/-!
# Reading a command line

Every argument is classified before any takes effect. Long options may be cut
short as long as only one fits, short flags may stand together, and a value may
be attached to its option or follow it. What is attached to a short flag, with an
equals sign or without one, has to be further short options. After two dashes alone
everything is an operand. An argument that looks like an option is never taken for
a value; negative numbers and arguments with a blank do not look like one.

Operands are taken at the first place where there are any. Later ones, and options
that nobody knows, are left over.
-/

namespace RegionBuild

variable {σ : Type}

/-- An argument as it is read. An option may have a text attached to it. -/
inductive Argument (σ : Type) where
  /-- Two dashes alone. -/
  | separator
  | operand (text : Text)
  | option (parameter : Parameter σ) (name : Text) (attached : Option Text)
  /-- An option that nobody knows. -/
  | unknown (text : Text)

/-- The option with a name. -/
def findOption (parameters : List (Parameter σ)) (name : Text) : Option (Parameter σ) :=
  parameters.find? fun parameter => parameter.names.contains name

/-- A text up to its first equals sign, and what follows if there is one. -/
def cutAtEquals (text : Text) : Text × Option Text :=
  let name := text.takeWhile (· != '=')
  match text.drop name.length with
  | [] => (name, none)
  | _ :: rest => (name, some rest)

/-- The text without one line break at its end. -/
def withoutFinalBreak (text : Text) : Text :=
  if text.getLast? = some '\n' then text.dropLast else text

/-- Whether a text is a negative number: a whole one, or one with a point that has
digits after it. -/
def isNegativeNumber (text : Text) : Bool :=
  match withoutFinalBreak text with
  | '-' :: number =>
    let whole := number.takeWhile Text.isDecimalDigit
    match number.drop whole.length with
    | [] => !whole.isEmpty
    | '.' :: places => !places.isEmpty && places.all Text.isDecimalDigit
    | _ => false
  | _ => false

/-- The options that an argument could mean, though it is the name of none: long
ones that it abbreviates, or the short one with the rest attached. -/
def candidates (parameters : List (Parameter σ)) (text : Text) :
    List (Parameter σ × Text × Option Text) :=
  let named := parameters.flatMap fun parameter => parameter.names.map fun name => (parameter, name)
  if Parameter.isLong text then
    let (lead, value) := cutAtEquals text
    named.filterMap fun (parameter, name) =>
      if lead.isPrefixOf name then some (parameter, name, value) else none
  else
    named.filterMap fun (parameter, name) =>
      if name = text.take 2 then some (parameter, name, some (text.drop 2))
      else if text.isPrefixOf name then some (parameter, name, none)
      else none

/-- Read one argument. -/
def classify (parameters : List (Parameter σ)) (text : Text) :
    Except UsageProblem (Argument σ) :=
  if text.head? ≠ some '-' then .ok (.operand text)
  else
    match findOption parameters text with
    | some parameter => .ok (.option parameter text none)
    | none =>
      if text.length = 1 then .ok (.operand text)
      else
        let (name, value) := cutAtEquals text
        match value, findOption parameters name with
        | some value, some parameter => .ok (.option parameter name (some value))
        | _, _ =>
          match candidates parameters text with
          | [(parameter, name, attached)] => .ok (.option parameter name attached)
          | [] =>
            if isNegativeNumber text || text.any (· == ' ') then .ok (.operand text)
            else .ok (.unknown text)
          | several => .error (.ambiguous text (several.map fun candidate => candidate.2.1))

/-- Read all arguments. After the first separator there are only operands. -/
def classifyAll (parameters : List (Parameter σ)) :
    List Text → Except UsageProblem (List (Argument σ))
  | [] => .ok []
  | text :: rest =>
    if text = separatorText then .ok (.separator :: rest.map .operand)
    else do
      let argument ← classify parameters text
      let more ← classifyAll parameters rest
      return argument :: more

/-- What the last option of an argument needs. -/
inductive LastOption (σ : Type) where
  /-- Its value is attached. -/
  | valued (parameter : Parameter σ) (value : Text)
  /-- Its value, if it takes one, is the next argument. -/
  | bare (parameter : Parameter σ)

/-- The options that stand together in one argument: flags, and a last one. -/
structure Cluster (σ : Type) where
  flags : List (Parameter σ)
  last : LastOption σ

/-- Take an argument with an attached text apart. A short option that takes no value
leaves the text to further short options, the first of which has to be known. -/
def clusterOf (parameters : List (Parameter σ)) (parameter : Parameter σ) (short : Bool)
    (flags : List (Parameter σ)) (text : Text) : Except UsageProblem (Cluster σ) :=
  if parameter.effect.takesValue then .ok ⟨flags.reverse, .valued parameter text⟩
  else
    match text with
    | [] => .error (.ignoredValue parameter.title text)
    | letter :: rest =>
      match if short then findOption parameters ['-', letter] else none with
      | none => .error (.ignoredValue parameter.title text)
      | some next =>
        if rest.isEmpty then .ok ⟨(parameter :: flags).reverse, .bare next⟩
        else clusterOf parameters next true (parameter :: flags) rest
termination_by text.length

/-- The options of an argument. -/
def cluster (parameters : List (Parameter σ)) (parameter : Parameter σ) (name : Text) :
    Option Text → Except UsageProblem (Cluster σ)
  | none => .ok ⟨[], .bare parameter⟩
  | some text => clusterOf parameters parameter (!Parameter.isLong name) [] text

/-- How far the reading has come: the settings, the titles of the options that were
given, what is left over, and the operand if it is still to come. Whether separators are
dropped from values does not change on the way. -/
structure Progress (σ : Type) where
  dropsSeparator : Bool
  settings : σ
  given : List Text := []
  leftOver : List Text := []
  awaited : Option (Operand σ)

/-- Let an option take effect. -/
def Progress.take (progress : Progress σ) (parameter : Parameter σ) (value : Text) :
    Except Halt (Progress σ) :=
  let noted := { progress with given := parameter.title :: progress.given }
  match parameter.rival.filter progress.given.contains with
  | some rival => .error (.usage (.conflict parameter.title rival))
  | none =>
    match parameter.effect with
    | .help => .error .help
    | .version => .error .version
    | .count change | .flag change => .ok { noted with settings := change progress.settings }
    | .value put _ =>
      let given := OptionValue.ofText progress.dropsSeparator value
      .ok { noted with settings := put given progress.settings }

/-- Let several flags take effect, one after the other. -/
def Progress.takeFlags (progress : Progress σ) : List (Parameter σ) → Except Halt (Progress σ)
  | [] => .ok progress
  | parameter :: rest => do
    let next ← progress.take parameter []
    next.takeFlags rest

/-- Let flags and then one more option take effect. -/
def Progress.takeCluster (progress : Progress σ) (flags : List (Parameter σ))
    (parameter : Parameter σ) (value : Text) : Except Halt (Progress σ) := do
  let next ← progress.takeFlags flags
  next.take parameter value

/-- Leave an argument over. -/
def Progress.leave (progress : Progress σ) (text : Text) : Progress σ :=
  { progress with leftOver := progress.leftOver ++ [text] }

/-- Give the operand its texts. -/
def Progress.fill (progress : Progress σ) (operand : Operand σ) (texts : List Text) :
    Progress σ :=
  { progress with settings := operand.put texts progress.settings, awaited := none }

/-- The operands up to the next option, and what follows them. -/
def takeOperands : List (Argument σ) → List Text × List (Argument σ)
  | .operand text :: rest =>
    let (texts, after) := takeOperands rest
    (text :: texts, after)
  | .separator :: rest => takeOperands rest
  | arguments => ([], arguments)

/-- The operands an operand parameter takes after its first, and what follows. One
that is not repeated takes no more, but passes a separator. -/
def Operand.takeMore (operand : Operand σ) (arguments : List (Argument σ)) :
    List Text × List (Argument σ) :=
  if operand.repeated then takeOperands arguments
  else
    match arguments with
    | .separator :: rest => ([], rest)
    | rest => ([], rest)

/-- Taking operands leaves no more arguments than there were. -/
theorem length_takeOperands_le (arguments : List (Argument σ)) :
    (takeOperands arguments).2.length ≤ arguments.length := by
  fun_induction takeOperands arguments with
  | case1 text rest texts after taken inductionHypothesis =>
    simp only [taken] at inductionHypothesis
    simp only [List.length_cons]
    omega
  | case2 rest inductionHypothesis =>
    simp only [List.length_cons]
    omega
  | case3 => exact Nat.le_refl _

/-- Taking more operands leaves no more arguments than there were. -/
theorem Operand.length_takeMore_le (operand : Operand σ) (arguments : List (Argument σ)) :
    (operand.takeMore arguments).2.length ≤ arguments.length := by
  unfold Operand.takeMore
  split
  · exact length_takeOperands_le arguments
  · split <;> simp

/-- Go through the arguments. What was read before an early end is kept. -/
def consume (parameters : List (Parameter σ)) (progress : Progress σ) :
    List (Argument σ) → Option Halt × Progress σ
  | [] => (none, progress)
  | .unknown text :: rest => consume parameters (progress.leave text) rest
  | .operand text :: rest =>
    match progress.awaited with
    | none => consume parameters (progress.leave text) rest
    | some operand =>
      have := operand.length_takeMore_le rest
      consume parameters (progress.fill operand (text :: (operand.takeMore rest).1))
        (operand.takeMore rest).2
  | .separator :: .operand text :: rest =>
    match progress.awaited with
    | none => consume parameters ((progress.leave separatorText).leave text) rest
    | some operand =>
      have := operand.length_takeMore_le rest
      consume parameters (progress.fill operand (text :: (operand.takeMore rest).1))
        (operand.takeMore rest).2
  | .separator :: rest => consume parameters (progress.leave separatorText) rest
  | .option parameter name attached :: rest =>
    match cluster parameters parameter name attached with
    | .error problem => (some (.usage problem), progress)
    | .ok ⟨flags, .valued last value⟩ =>
      match progress.takeCluster flags last value with
      | .error halt => (some halt, progress)
      | .ok next => consume parameters next rest
    | .ok ⟨flags, .bare last⟩ =>
      if last.effect.takesValue then
        match rest with
        | .operand value :: rest =>
          match progress.takeCluster flags last value with
          | .error halt => (some halt, progress)
          | .ok next => consume parameters next rest
        | _ => (some (.usage (.missingValue last.title)), progress)
      else
        match progress.takeCluster flags last [] with
        | .error halt => (some halt, progress)
        | .ok next => consume parameters next rest
termination_by arguments => arguments.length

/-- Read a command line as far as possible. -/
def readArguments (dropsSeparator : Bool) (parameters : List (Parameter σ))
    (operand : Option (Operand σ)) (settings : σ) (arguments : List Text) :
    Option Halt × Progress σ :=
  let progress : Progress σ := { dropsSeparator, settings, awaited := operand }
  match classifyAll parameters arguments with
  | .error problem => (some (.usage problem), progress)
  | .ok classified => consume parameters progress classified

/-- The settings that a command line gives. The operand has to be there and nothing
may be left over. -/
def settingsOf (dropsSeparator : Bool) (parameters : List (Parameter σ)) (operand : Operand σ)
    (settings : σ) (arguments : List Text) : Except Halt σ :=
  match readArguments dropsSeparator parameters (some operand) settings arguments with
  | (some halt, _) => .error halt
  | (none, progress) =>
    match progress.awaited with
    | some missing => .error (.usage (.missingOperand missing.title))
    | none =>
      if progress.leftOver.isEmpty then .ok progress.settings
      else .error (.usage (.unrecognized progress.leftOver))

end RegionBuild
