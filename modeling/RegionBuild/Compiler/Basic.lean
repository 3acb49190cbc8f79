import RegionBuild.Bench
import RegionBuild.Diagnostic.Basic

/-!
# Compilers

A compiler turns an ordered list of files into output, a source map and
diagnostics. It knows the architecture and the path that the map is asked for.
Diagnostics are part of the result; a compiler gives up only when it could not
do its work at all.
-/

namespace RegionBuild

/-- What a compiler hands back. The output is empty when nothing was emitted. -/
structure Compiled where
  source : Text := []
  map : Text := []
  diagnostics : List Diagnostic := []
deriving DecidableEq, Repr

/-- Whether there is any output. -/
def Compiled.emitted (result : Compiled) : Bool := !result.source.isEmpty

/-- A compiler: paths, architecture and hint for the map, on a bench. -/
abbrev Compiler (κ : Type) :=
  List Text → Text → Option Text → Bench κ → Except Fault Compiled × Bench κ

namespace Compiler

variable {κ κ' : Type}

/-- A compiler that uses the first of two sets of tools. -/
def onFirst (compiler : Compiler κ) : Compiler (κ × κ') :=
  fun paths architecture hint bench =>
    let (result, after) :=
      compiler paths architecture hint { bench with tools := bench.tools.1 }
    (result, { after with tools := (after.tools, bench.tools.2) })

/-- A compiler that uses the second of two sets of tools. -/
def onSecond (compiler : Compiler κ) : Compiler (κ' × κ) :=
  fun paths architecture hint bench =>
    let (result, after) :=
      compiler paths architecture hint { bench with tools := bench.tools.2 }
    (result, { after with tools := (bench.tools.1, after.tools) })

end Compiler

end RegionBuild
