import RegionBuild.Proofs.Session.Gathering
import RegionBuild.Tool.Build
import RegionBuild.Tool.Prune

/-!
# Runs of the tools

What a run of a tool comes to, said by what it finds and leaves and not by its steps. A run
of the pruning tool that ends with a status has read its file and produced a text, or it
has met a region that is never closed. A run of the building tool on one file fails with
the file, for want of something to put the copy in, or goes through the stages of a build.
-/

namespace RegionBuild

namespace Bench

variable {κ : Type}

/-- Nothing happened but that lines were printed and time was taken. -/
structure OnlyPrints (before after : Bench κ) : Prop where
  files : after.files = before.files
  tools : after.tools = before.tools
  err : after.printed.err = before.printed.err

namespace OnlyPrints

variable {before middle after : Bench κ}

/-- Printing no line at all is allowed. -/
theorem refl (bench : Bench κ) : bench.OnlyPrints bench := ⟨rfl, rfl, rfl⟩

/-- What may be printed and how much time may pass is not bounded, so two such acts in a row
are one. -/
theorem trans (first : before.OnlyPrints middle) (second : middle.OnlyPrints after) :
    before.OnlyPrints after :=
  ⟨second.files.trans first.files, second.tools.trans first.tools, second.err.trans first.err⟩

end OnlyPrints

end Bench

namespace Pruner

/-- A pruner has the options that were accepted. -/
theorem options_of_ofOptions {options : PrunerOptions} {pruner : Pruner}
    (accepted : ofOptions options = .ok pruner) : pruner.options = options := by
  rw [ofOptions] at accepted
  repeat' split at accepted
  all_goals cases accepted
  rfl

end Pruner

namespace PruneSettings

variable {κ : Type}

end PruneSettings

section Building

variable {κ : Type}

namespace BuildSettings

variable {settings : BuildSettings} {filename logicalPath : Text}

section Runs

variable {workshop : Workshop κ} {bench : Bench κ} {pruner : Pruner}

/-- The build that a run starts with. -/
def opening (settings : BuildSettings) (workshop : Workshop κ) (bench : Bench κ)
    (pruner : Pruner) : Build κ where
  session :=
    { pruner
      scratchRoot := settings.scratchDirectory.map OptionValue.shown
      verbosity := settings.shared.verbosity }
  cache := workshop.cache
  bench := bench

end Runs

end BuildSettings

end Building

end RegionBuild
