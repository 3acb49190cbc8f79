import RegionBuild.FileStore
import RegionBuild.Json.Parser
import RegionBuild.Pruner
import RegionBuild.Text.ShellWords

/-!
# What can go wrong

A fault is the cause for which an operation gives up. The wording of all of them
stands here, beside the faults of single formats that have wordings of their own.
-/

namespace RegionBuild

/-- How a value in a source map differs from what is expected there. -/
inductive ShapeFault where
  /-- A map that is no object, when a member is to be put into it. -/
  | noMembers (kind : Json.Kind)
  /-- A map that is no object, when a member is looked up. -/
  | noLookup (kind : Json.Kind)
  /-- Sources over which there is nothing to go. -/
  | notIterable (kind : Json.Kind)
  /-- A source that is no string. -/
  | notPath (kind : Json.Kind)
  /-- A source with surrogates that no file name can have: the position of the
  first, how many stand there, and the first itself. -/
  | unencodable (position count code : Nat)
deriving DecidableEq, Repr

/-- The wording of a fault. -/
def ShapeFault.message : ShapeFault → String
  | .noMembers .arr => "list indices must be integers or slices, not str"
  | .noMembers kind => s!"'{kind.name}' object does not support item assignment"
  | .noLookup kind => s!"'{kind.name}' object has no attribute 'get'"
  | .notIterable kind => s!"'{kind.name}' object is not iterable"
  | .notPath kind =>
    s!"join() argument must be str, bytes, or os.PathLike object, not '{kind.name}'"
  | .unencodable position count code =>
    let place :=
      if count = 1 then
        s!"character '\\u{String.ofList (Text.hexPadded 4 code)}' in position {position}"
      else s!"characters in position {position}-{position + count - 1}"
    s!"'utf-8' codec can't encode {place}: surrogates not allowed"

/-- The names of the signals, from the first on. -/
def signalNames : List String :=
  ["SIGHUP", "SIGINT", "SIGQUIT", "SIGILL", "SIGTRAP", "SIGABRT", "SIGBUS", "SIGFPE", "SIGKILL",
   "SIGUSR1", "SIGSEGV", "SIGUSR2", "SIGPIPE", "SIGALRM", "SIGTERM", "SIGSTKFLT", "SIGCHLD",
   "SIGCONT", "SIGSTOP", "SIGTSTP", "SIGTTIN", "SIGTTOU", "SIGURG", "SIGXCPU", "SIGXFSZ",
   "SIGVTALRM", "SIGPROF", "SIGWINCH", "SIGIO", "SIGPWR", "SIGSYS"]

/-- The name of a signal. Of the real-time signals only the ends of the range have
one. -/
def signalName? (number : Nat) : Option String :=
  match number with
  | 0 => none
  | 34 => some "SIGRTMIN"
  | 64 => some "SIGRTMAX"
  | index + 1 => signalNames[index]?

/-- How a command failed. A negative status is the signal that ended it. -/
def statusMessage : Int → String
  | .ofNat status => s!"returned non-zero exit status {status}."
  | .negSucc index =>
    match signalName? (index + 1) with
    | some name => s!"died with <Signals.{name}: {index + 1}>."
    | none => s!"died with unknown signal {index + 1}."

/-- What a text is needed for when an option was given nothing. -/
inductive Need where
  | command
  | serverArchitecture
  | architecture
  | scratchRoot
  | outputName
deriving DecidableEq, Repr

/-- The wording for something that is needed and not there. -/
def Need.message : Need → String
  | .command => "'list' object has no attribute 'read'"
  | .serverArchitecture => "unhashable type: 'list'"
  | .architecture => "join() argument must be str, bytes, or os.PathLike object, not 'list'"
  | .scratchRoot => "expected str, bytes or os.PathLike object, not list"
  | .outputName => "can only concatenate list (not \"str\") to list"

/-- The cause for which an operation gives up. -/
inductive Fault where
  | pruner (fault : PrunerFault)
  | unterminated (fault : Unterminated)
  | undecodable (fault : Utf8.Fault)
  | json (fault : Json.Fault)
  | numeral (fault : Numeral.Fault)
  | words (fault : ShellWords.Fault)
  | file (fault : FileFault)
  /-- A file that was opened cannot be filled with all of its bytes. -/
  | fileTooLarge
  | shape (fault : ShapeFault)
  /-- A command failed without saying why. -/
  | command (invoked : List Text) (status : Int)
  /-- A path that has to be relative is empty. -/
  | emptyPath
  /-- An output has no name. -/
  | unnamedOutput
  /-- A flag is set to a list. -/
  | listForFlag
  /-- A count is set to a number that has more than 64 bits. -/
  | countRange
  /-- A count is set to a number of repetitions that no memory holds. -/
  | countMemory
  /-- A path of code points that are not all characters. -/
  | unreadable (problem : FileProblem) (path : List CodePoint)
  /-- An option was given nothing, and a text is needed. -/
  | missing (need : Need)
deriving DecidableEq, Repr

/-- The wording of a fault. -/
def Fault.message : Fault → String
  | .pruner fault => fault.message
  | .unterminated fault => fault.message
  | .undecodable fault => fault.message
  | .json fault => fault.message
  | .numeral fault => fault.message
  | .words fault => fault.message
  | .file fault => fault.message
  | .fileTooLarge => "[Errno 27] File too large"
  | .shape fault => fault.message
  | .command invoked status =>
    s!"Command '{String.ofList (Text.quotedList invoked)}' {statusMessage status}"
  | .emptyPath => "no path specified"
  | .unnamedOutput => "unsupported operand type(s) for +: 'NoneType' and 'str'"
  | .listForFlag => "config parser should convert anything that is not a list to string."
  | .countRange => "cannot fit 'int' into an index-sized integer"
  | .countMemory => ""
  | .unreadable .embeddedNull _ => FileProblem.embeddedNull.message
  | .unreadable problem path =>
    s!"{problem.message}: {String.ofList (Text.quoteCodes (path.map Fin.val))}"
  | .missing need => need.message

/-- A refusal of the file store as a fault. -/
def ofFile {α : Type} : Except FileFault α → Except Fault α
  | .ok value => .ok value
  | .error fault => .error (.file fault)

/-- An undecodable text as a fault. -/
def ofDecoding {α : Type} : Except Utf8.Fault α → Except Fault α
  | .ok value => .ok value
  | .error fault => .error (.undecodable fault)

/-- A text that is no JSON as a fault. -/
def ofJson {α : Type} : Except Json.Fault α → Except Fault α
  | .ok value => .ok value
  | .error fault => .error (.json fault)

/-- A misshapen value as a fault. -/
def ofShape {α : Type} : Except ShapeFault α → Except Fault α
  | .ok value => .ok value
  | .error fault => .error (.shape fault)

/-- The text of a file: its bytes decoded, with universal newlines. -/
def FileStore.readText (store : FileStore) (path : Text) : Except Fault Text := do
  let bytes ← ofFile (store.readBytes path)
  let text ← ofDecoding (Utf8.decode bytes)
  return Text.unifyNewlines text

/-- Write a text to a file as UTF-8. The file is opened first, so what it held is gone
also when the text does not fit. -/
def FileStore.writeText (store : FileStore) (path text : Text) : Except Fault Unit × FileStore :=
  let content := Utf8.encode text
  match store.openEmpty path with
  | .error fault => (.error (.file fault), store)
  | .ok (location, opened) =>
    (if opened.fitting content = content then .ok () else .error .fileTooLarge,
      opened.fill location content)

end RegionBuild
