import RegionBuild.Proofs.FileStore.Standing

/-!
# What a write changes

A write changes one file, and directories are made where nothing was. So a store is
compared with an earlier one by the locations that were written in between: any other
file has its bytes and its time still.

A text that was written is read back as it was if there is no carriage return in it.
Reading takes all of them away, so everything that was read once is such a text.
-/

namespace RegionBuild

namespace Text

/-- Universal newlines leave no carriage return. -/
theorem notMem_unifyNewlines (text : Text) : '\r' ∉ unifyNewlines text := by
  fun_induction unifyNewlines text with
  | case1 => exact List.not_mem_nil
  | case2 rest inductionHypothesis => simpa using inductionHypothesis
  | case3 rest _ inductionHypothesis => simpa using inductionHypothesis
  | case4 char rest _ other inductionHypothesis =>
    rw [List.mem_cons]
    rintro (same | later)
    · exact other same.symm
    · exact inductionHypothesis later

/-- A text without carriage returns stays as it is. -/
theorem unifyNewlines_eq_self {text : Text} (plain : '\r' ∉ text) : unifyNewlines text = text := by
  fun_induction unifyNewlines text with
  | case1 => rfl
  | case2 rest _ => exact absurd List.mem_cons_self plain
  | case3 rest _ _ => exact absurd List.mem_cons_self plain
  | case4 char rest _ _ inductionHypothesis =>
    rw [inductionHypothesis fun later => plain (List.mem_cons_of_mem char later)]

end Text

namespace FileStore

/-- A store in which directories were made and files written, but only at the given
locations. -/
structure Rewrites (written : Location → Prop) (before after : FileStore) : Prop
    extends Extends before after where
  files : ∀ location content modified, ¬ written location →
    before.lookup location = some (.file content modified) →
    after.lookup location = some (.file content modified)

/-- Nothing was written. -/
abbrev Keeps : FileStore → FileStore → Prop := Rewrites fun _ => False

namespace Rewrites

variable {written : Location → Prop} {before after : FileStore}

/-- A store keeps what it has. -/
theorem refl (store : FileStore) : store.Keeps store :=
  ⟨⟨rfl, fun _ _ found => found⟩, fun _ _ _ _ found => found⟩

/-- More locations may have been written than were. -/
theorem mono {wider : Location → Prop} (rewritten : Rewrites written before after)
    (within : ∀ location, written location → wider location) : Rewrites wider before after :=
  ⟨rewritten.toExtends, fun location content modified unwritten =>
    rewritten.files location content modified fun inside => unwritten (within location inside)⟩

/-- Nothing was written, so nothing was written here either. -/
theorem of_keeps (kept : before.Keeps after) : Rewrites written before after :=
  kept.mono fun _ => False.elim

theorem trans {last : FileStore} (rewritten : Rewrites written before after)
    (rewritten' : Rewrites written after last) : Rewrites written before last where
  workingDirectory := rewritten'.workingDirectory.trans rewritten.workingDirectory
  directories location modified found :=
    rewritten'.directories location modified (rewritten.directories location modified found)
  files location content modified unwritten found :=
    rewritten'.files location content modified unwritten
      (rewritten.files location content modified unwritten found)

/-- A path leads to the same as before unless that was written. -/
theorem node (rewritten : Rewrites written before after) {path : Text} {node : Node}
    (found : before.node path = .ok node)
    (unwritten : ∀ location, before.locate path = .ok location → ¬ written location) :
    after.node path = .ok node := by
  obtain ⟨location, located, stored⟩ := node_eq_ok.mp found
  refine node_eq_ok.mpr ⟨location, rewritten.locate located, ?_⟩
  cases node with
  | file content modified =>
    exact rewritten.files location content modified (unwritten location located) stored
  | directory modified => exact rewritten.directories location modified stored

/-- So the text at a path is the same unless it was written. -/
theorem readText (rewritten : Rewrites written before after) {path text : Text}
    (read : before.readText path = .ok text)
    (unwritten : ∀ location, before.locate path = .ok location → ¬ written location) :
    after.readText path = .ok text := by
  obtain ⟨content, modified, found⟩ := node_of_readText read
  rw [readText_congr ((rewritten.node found unwritten).trans found.symm)]
  exact read

end Rewrites

/-- A new directory takes the place of nothing. -/
theorem makeDirectory_keeps {store made : FileStore} {path : Text}
    (done : store.makeDirectory path = .ok made) : store.Keeps made := by
  obtain ⟨location, vacant, rfl⟩ := makeDirectory_eq_ok done
  exact ⟨⟨rfl, fun _ _ => lookup_putDirectory vacant⟩, fun _ _ _ _ => lookup_putDirectory vacant⟩

/-- Making directories writes no file. -/
theorem makeDirectories_keeps (store : FileStore) (path : Text) :
    store.Keeps (store.makeDirectories path).2 :=
  makeDirectoriesFrom_keeps store.Keeps
    (fun _ _ _ kept done => kept.trans (makeDirectory_keeps done))
    true levelLimit store (Rewrites.refl store) path

/-- A path that can be written has a location. -/
theorem locate_of_locateForWriting {store : FileStore} {path : Text} {location : Location}
    (located : store.locateForWriting path = .ok location) :
    store.locate path = .ok location := by
  unfold locateForWriting at located
  obtain ⟨_, accepts, located⟩ := bind_eq_ok.mp located
  obtain ⟨followed, reached, located⟩ := bind_eq_ok.mp located
  by_cases slash : path.getLast? = some '/'
  · simp [slash] at located
  · simp only [slash, ↓reduceIte] at located
    obtain ⟨final, isNamed, located⟩ := bind_eq_ok.mp located
    obtain rfl := named_eq_ok isNamed
    have same : followed = location := by
      split at located
      · cases located
      · exact Except.ok.inj located
    rw [Path.withoutFinalSlashes_eq_self slash] at reached
    exact bind_eq_ok.mpr ⟨(), accepts, bind_eq_ok.mpr ⟨followed, reached, same ▸ isNamed⟩⟩

/-- After a completed write the file is at the path's location, and all else is found as
before. -/
theorem lookup_writeBytes {store written : FileStore} {path : Text} {content : List UInt8}
    (done : store.writeBytes path content = .ok written) :
    ∃ location, store.locate path = .ok location ∧
      (∀ modified, store.lookup location ≠ some (.directory modified)) ∧
      written.workingDirectory = store.workingDirectory ∧
      ∀ other, written.lookup other =
        if other = location then some (.file content (store.clock * 1000000))
        else store.lookup other := by
  unfold writeBytes at done
  obtain ⟨location, located, put⟩ := bind_eq_ok.mp (naming_eq_ok.mp done)
  cases put
  have noDirectory := locateForWriting_eq_ok located
  have below : location ≠ [] := by
    rintro rfl
    exact noDirectory 0 rfl
  exact ⟨location, locate_of_locateForWriting located, noDirectory, rfl,
    fun other => store.lookup_put location other _ below⟩

/-- A completed write changes the file at its path, and no other. -/
theorem writeBytes_rewrites {store written : FileStore} {path : Text} {content : List UInt8}
    (done : store.writeBytes path content = .ok written) :
    ∃ location, store.locate path = .ok location ∧
      Rewrites (· = location) store written ∧
      written.lookup location = some (.file content (store.clock * 1000000)) := by
  obtain ⟨location, located, noDirectory, home, found⟩ := lookup_writeBytes done
  refine ⟨location, located, ⟨⟨home, ?_⟩, ?_⟩, ?_⟩
  · intro other modified directory
    have different : other ≠ location := by
      rintro rfl
      exact noDirectory modified directory
    rw [found, if_neg different, directory]
  · intro other old modified different file
    rw [found, if_neg different, file]
  · rw [found, if_pos rfl]

/-- A text without carriage returns is read as it was written. -/
theorem readText_of_encoded {store : FileStore} {path text : Text} {modified : Int}
    (found : store.node path = .ok (.file (Utf8.encode text) modified)) (plain : '\r' ∉ text) :
    store.readText path = .ok text := by
  unfold readText readBytes content
  rw [found]
  simp [naming, ofFile, ofDecoding, bind, Except.bind, pure, Except.pure, Utf8.decode_encode,
    Text.unifyNewlines_eq_self plain]

/-- What was read has no carriage returns. -/
theorem notMem_of_readText {store : FileStore} {path text : Text}
    (read : store.readText path = .ok text) : '\r' ∉ text := by
  unfold readText at read
  obtain ⟨bytes, _, read⟩ := bind_eq_ok.mp read
  obtain ⟨decoded, _, read⟩ := bind_eq_ok.mp read
  rw [← Except.ok.inj read]
  exact Text.notMem_unifyNewlines decoded

end FileStore

end RegionBuild
