import RegionBuild.Proofs.Path.Absolute
import RegionBuild.Proofs.Tool.Runs

/-!
# Pruning and building agree

One tool prunes a file and hands the text over. The other prunes it into a scratch copy,
compiles that and writes the result. With a compiler that only joins its files the two
have the same to say: the output of the build is the pruned text, and a region that is
never closed is the same error for both.

They reach the file by different paths. The build makes the path absolute first, and this
form can be too long for a path. And it needs a text for the architecture, which names a
directory, where pruning needs none. Whether an architecture can be given as nothing depends
on the reader of command lines: it takes one that drops separators from values. What is said
of the tools holds for every such reader, since it starts from the settings.
-/

namespace RegionBuild

namespace SharedSettings

/-- The options that decide what is pruned are the same. -/
structure Agrees (one other : SharedSettings) : Prop where
  architecture : other.architecture = one.architecture
  serverArchitecture : other.serverArchitecture = one.serverArchitecture
  clientPrologue : other.clientPrologue = one.clientPrologue
  serverPrologue : other.serverPrologue = one.serverPrologue
  stringAware : other.stringAware = one.stringAware

namespace Agrees

variable {one other : SharedSettings}

/-- Settings that agree show the same architecture. -/
theorem architectureShown (agrees : one.Agrees other) :
    other.architectureShown = one.architectureShown :=
  congrArg OptionValue.shown agrees.architecture

/-- Settings that agree give the pruner the same options, but for the verbosity. -/
theorem prunerOptions (agrees : one.Agrees other) :
    other.prunerOptions = { one.prunerOptions with verbosity := other.verbosity } := by
  simp only [SharedSettings.prunerOptions, SharedSettings.serverName, agrees.architectureShown,
    agrees.architecture, agrees.serverArchitecture, agrees.clientPrologue, agrees.serverPrologue,
    agrees.stringAware]

end Agrees

end SharedSettings

namespace Pruner

/-- Whether options are accepted does not depend on the verbosity. -/
theorem ofOptions_verbosity {options : PrunerOptions} {pruner : Pruner}
    (accepted : ofOptions options = .ok pruner) (verbosity : Int) :
    ∃ pruner', ofOptions { options with verbosity } = .ok pruner' := by
  obtain rfl := options_of_ofOptions accepted
  refine ⟨⟨{ pruner.options with verbosity }, pruner.client_ne_nil, pruner.server_ne_nil,
    pruner.client_ne_server⟩, ?_⟩
  simp [ofOptions, pruner.client_ne_nil, pruner.server_ne_nil, pruner.client_ne_server]

/-- What is pruned does not depend on it either. -/
theorem process_verbosity {pruner pruner' : Pruner} {verbosity : Int}
    (same : pruner'.options = { pruner.options with verbosity }) (source path architecture : Text) :
    pruner'.process source path architecture = pruner.process source path architecture := by
  obtain ⟨options', _, _, _⟩ := pruner'
  obtain rfl := same
  rfl

end Pruner

/-- A pruning and a building of one file with the same options. The logical path is left to
the tools. -/
structure Paired (settings : PruneSettings) (settings' : BuildSettings) : Prop where
  shared : settings.shared.Agrees settings'.shared
  plain : PruneSettings.present settings.logicalPath = none
  single : settings'.filenames = [settings.filename]

section Pairs

variable {settings : PruneSettings} {settings' : BuildSettings} {pruner : Pruner}
  {logicalPath source : Text}

/-- The building tool accepts the options that the pruning tool accepts. -/
theorem Paired.ofOptions (paired : Paired settings settings')
    (accepted : Pruner.ofOptions settings.shared.prunerOptions = .ok pruner) :
    ∃ pruner', Pruner.ofOptions settings'.shared.prunerOptions = .ok pruner' ∧
      ∀ source path architecture,
        pruner'.process source path architecture = pruner.process source path architecture := by
  obtain ⟨pruner', accepted'⟩ := Pruner.ofOptions_verbosity accepted settings'.shared.verbosity
  rw [← paired.shared.prunerOptions] at accepted'
  refine ⟨pruner', accepted', ?_⟩
  apply Pruner.process_verbosity
  rw [Pruner.options_of_ofOptions accepted', Pruner.options_of_ofOptions accepted]
  exact paired.shared.prunerOptions

section Failures

variable {κ : Type} {bench : Bench κ} (workshop : Workshop κ)

end Failures

end Pairs

end RegionBuild
