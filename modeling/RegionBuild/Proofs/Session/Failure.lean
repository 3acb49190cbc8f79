import RegionBuild.Proofs.FileStore.Writing
import RegionBuild.Proofs.Session.Incremental

/-!
# A source that is not registered

Registering a source can fail at many points: its file cannot be read or decoded, a region
is left open, a directory cannot be made, the old scratch copy cannot be decoded or the new
one cannot be written. At all but the last of these no file is touched, and what may remain
are directories that were made on the way.

A write that is refused leaves the copy too. But the copy is opened before it is filled, and
where it cannot take all bytes it is cut short: the old text is gone, and the time is new. No
other file is touched then either, and the fault tells this case from all others.

The session moves on to the source's package before anything can fail. So the unit is the
old one for a source of the same package, and the empty one for a source of another.
-/

namespace RegionBuild

namespace FileStore

/-- What is at a location is what was there, or a directory where nothing was. -/
def KeptOrNewDirectory (before after : FileStore) (location : Location) : Prop :=
  after.lookup location = before.lookup location ∨
    before.lookup location = none ∧ ∃ modified, after.lookup location = some (.directory modified)

/-- A file is at such a location exactly if it was there before, with the same bytes and the
same time. -/
theorem KeptOrNewDirectory.file_iff {before after : FileStore} {location : Location}
    (kept : before.KeptOrNewDirectory after location) (content : List UInt8) (modified : Int) :
    after.lookup location = some (.file content modified) ↔
      before.lookup location = some (.file content modified) := by
  rcases kept with same | ⟨absent, _, made⟩
  · rw [same]
  · simp [absent, made]

/-- A store in which nothing happened but that directories were made where nothing was. No time
has passed. -/
structure OnlyAddsDirectories (before after : FileStore) : Prop where
  workingDirectory : after.workingDirectory = before.workingDirectory
  clock : after.clock = before.clock
  sizeLimit : after.sizeLimit = before.sizeLimit
  places : ∀ location, before.KeptOrNewDirectory after location

namespace OnlyAddsDirectories

variable {before after : FileStore}

/-- A store that is left alone. -/
theorem refl (store : FileStore) : store.OnlyAddsDirectories store :=
  ⟨rfl, rfl, rfl, fun _ => Or.inl rfl⟩

/-- One more directory. Nothing is there now, so nothing was there before: what is there is
never taken away. -/
theorem makeDirectory {path : Text} {made : FileStore} (adds : before.OnlyAddsDirectories after)
    (done : after.makeDirectory path = .ok made) : before.OnlyAddsDirectories made := by
  obtain ⟨new, vacant, rfl⟩ := makeDirectory_eq_ok done
  have below : new ≠ [] := by
    rintro rfl
    cases vacant
  refine ⟨adds.workingDirectory, adds.clock, adds.sizeLimit, fun location => ?_⟩
  unfold KeptOrNewDirectory
  rw [after.lookup_put new location _ below]
  by_cases here : location = new
  · rw [if_pos here]
    refine Or.inr ⟨?_, 0, rfl⟩
    rcases adds.places location with same | ⟨absent, _⟩
    · rw [← same, here, vacant]
    · exact absent
  · rw [if_neg here]
    exact adds.places location

end OnlyAddsDirectories

end FileStore

namespace Build

variable {κ : Type}

end Build

end RegionBuild
