import RegionBuild.Fault
import RegionBuild.Timing

/-!
# What a build works on

Pruning and compiling read and write files, print lines and take time. The bench
holds these together with the tools of the compiler in use. An operation on the
bench may give up; what it did to the bench until then remains.
-/

namespace RegionBuild

/-- What was printed, on either stream. -/
structure Transcript where
  out : String := ""
  err : String := ""
deriving DecidableEq, Repr

/-- Files, printed text, the stopwatch and the compiler's tools. -/
structure Bench (κ : Type) where
  files : FileStore
  printed : Transcript
  watch : Stopwatch
  tools : κ

namespace Bench

variable {κ : Type}

/-- Print a text as it is. -/
def write (bench : Bench κ) (text : String) : Bench κ :=
  { bench with printed := { bench.printed with out := bench.printed.out ++ text } }

/-- Print a line. -/
def say (bench : Bench κ) (line : String) : Bench κ := bench.write (line ++ "\n")

/-- Print a text as it is on the error stream. -/
def writeError (bench : Bench κ) (text : String) : Bench κ :=
  { bench with printed := { bench.printed with err := bench.printed.err ++ text } }

/-- Print a line on the error stream. -/
def sayError (bench : Bench κ) (line : String) : Bench κ := bench.writeError (line ++ "\n")

/-- Print a line if the verbosity reaches a level. -/
def sayAt (bench : Bench κ) (verbosity level : Int) (line : String) : Bench κ :=
  if level ≤ verbosity then bench.say line else bench

/-- Print lines one after the other. -/
def sayAll (bench : Bench κ) (lines : List String) : Bench κ := lines.foldl say bench

/-- Do something and record the time it takes, also when it gives up. -/
def timed {α : Type} (bench : Bench κ) (name : Text) (act : Bench κ → α × Bench κ) :
    α × Bench κ :=
  let (started, watch) := bench.watch.start
  let (result, after) := act { bench with watch }
  (result, { after with watch := after.watch.finish name started })

end Bench

end RegionBuild
