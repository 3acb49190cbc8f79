import RegionBuild.Text.Basic

/-!
# The settings that a component knows

Settings are handed around by name. A component takes those it knows and leaves
the others alone, in the order in which they come.
-/

namespace RegionBuild

/-- The names of the settings that pruning knows. -/
def prunerSettingNames : List Text :=
  ["client_prologue".toList, "server_prologue".toList, "server_arch".toList,
   "bypass_roots".toList, "string_aware".toList, "verbose".toList]

/-- The names of the settings that compiling knows. -/
def compilerSettingNames : List Text :=
  ["tsc".toList, "server_arch".toList, "verbose".toList]

/-- The settings whose names are known. -/
def selectSettings {α : Type} (known : List Text) (settings : List (Text × α)) :
    List (Text × α) :=
  settings.filter fun setting => known.contains setting.1

end RegionBuild
