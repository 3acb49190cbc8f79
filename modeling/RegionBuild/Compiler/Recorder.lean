import RegionBuild.Compiler.Basic

/-!
# A compiler that joins files

The joining compiler concatenates the texts of its files and remembers every
call. It can be given diagnostics, which it then reports instead of compiling.
-/

namespace RegionBuild

/-- One call of the compiler. -/
structure Call where
  paths : List Text
  architecture : Text
  hint : Option Text
deriving DecidableEq, Repr

/-- The calls so far, in order, and the diagnostics to report. -/
structure Recorder where
  calls : List Call := []
  diagnostics : List Diagnostic := []
deriving DecidableEq, Repr

namespace Recorder

/-- The texts of files, one after the other. -/
def joined (files : FileStore) : List Text → Except Fault Text
  | [] => .ok []
  | path :: rest => do
    let text ← files.readText path
    let more ← joined files rest
    return text ++ more

/-- The map of a joined output: no sources, and the hint as it stands. -/
def mapFor (hint : Option Text) : Text :=
  "\x7b\"version\":3,\"file\":\"".toList ++ hint.getD "None".toList ++
    "\",\"sources\":[]\x7d".toList

/-- What joining files gives. -/
def result (recorder : Recorder) (files : FileStore) (paths : List Text) (hint : Option Text) :
    Except Fault Compiled :=
  if recorder.diagnostics.isEmpty then do
    let source ← joined files paths
    return { source, map := mapFor hint }
  else .ok { diagnostics := recorder.diagnostics }

/-- Join files and remember the call. -/
def compile : Compiler Recorder := fun paths architecture hint bench =>
  let recorder := bench.tools
  (recorder.result bench.files paths hint,
    { bench with
      tools := { recorder with calls := recorder.calls ++ [⟨paths, architecture, hint⟩] } })

end Recorder

end RegionBuild
