import RegionBuild.Proofs.FileStore.Writing
import RegionBuild.Proofs.Path.Nesting
import RegionBuild.Proofs.Session.Incremental

/-!
# Where registering writes

Registering a source makes directories and writes one file, the scratch copy. The copy
belongs below the directory of its architecture in the scratch root, and where its path
leads there, nothing else is touched: every file elsewhere has its bytes and its time still,
no file appears, and the only new directories elsewhere are those on the way down to the
directory.

Where the path leads elsewhere, so does the write. That is the case exactly for a file whose
path loses the slashes and backslashes at its start and is left with nothing, or with a first
component that leads nowhere or up and is not followed by what would lead back below.
-/

namespace RegionBuild

namespace Path

/-- Slashes have no components. -/
theorem components_slashes {path : Text} (slashes : ∀ char ∈ path, char = '/') :
    components path = [] := by
  induction path with
  | nil => rfl
  | cons char rest inductionHypothesis =>
    have slash : char = '/' := slashes char List.mem_cons_self
    have later := inductionHypothesis fun other listed => slashes other (List.mem_cons_of_mem _ listed)
    rw [slash]
    exact (components_slash [] rest).trans later

/-- The directory of a path has components of the path. -/
theorem components_parent (path : Text) : components (parent path) <+: components path := by
  rcases slashes_or_slash_after_parent path with slashes | ⟨rest, whole⟩
  · rw [components_slashes slashes]
    exact List.nil_prefix
  · have cut : components path = components (parent path) ++ components rest := by
      conv_lhs => rw [whole]
      exact components_slash (parent path) rest
    rw [cut]
    exact List.prefix_append _ _

/-- What is made before a directory is its directory, or that one's if it ends in a slash. -/
theorem splitLast_fst (path : Text) :
    (FileStore.splitLast path).1 = parent path ∨
      (FileStore.splitLast path).1 = parent (parent path) := by
  by_cases noLast : lastComponent path = []
  · exact Or.inr (by simp only [FileStore.splitLast, noLast])
  · exact Or.inl (by simp only [FileStore.splitLast])

/-- It starts the path and has components of the path. -/
theorem splitLast_starts (path : Text) :
    (FileStore.splitLast path).1 <+: path ∧
      components (FileStore.splitLast path).1 <+: components path := by
  rcases splitLast_fst path with above | above
  · rw [above]
    exact ⟨parent_starts path, components_parent path⟩
  · rw [above]
    exact ⟨(parent_starts _).trans (parent_starts path),
      (components_parent _).trans (components_parent path)⟩

/-- A path without the slashes at its end has components of the path. -/
theorem components_withoutFinalSlashes (path : Text) :
    components (FileStore.withoutFinalSlashes path) <+: components path := by
  rw [FileStore.withoutFinalSlashes]
  split
  · exact List.prefix_rfl
  · have whole : stripSlashes path ++ path.rtakeWhile (· == '/') = path :=
      List.rdropWhile_append_rtakeWhile
    cases ended : path.rtakeWhile (· == '/') with
    | nil =>
      rw [ended, List.append_nil] at whole
      rewrite [whole]
      exact List.prefix_rfl
    | cons char rest =>
      have slash : char = '/' := by
        have holds := List.mem_rtakeWhile_imp (ended ▸ List.mem_cons_self)
        exact beq_iff_eq.mp holds
      have cut : components path = components (stripSlashes path) ++ components rest := by
        conv_lhs => rw [← whole, ended, slash]
        exact components_slash (stripSlashes path) rest
      rw [cut]
      exact List.prefix_append _ _

/-- What starts an absolute path is absolute, unless it is nothing. -/
theorem isAbsolute_of_starts {front path : Text} (starts : front <+: path) (nonempty : front ≠ [])
    (absolute : isAbsolute path = true) : isAbsolute front = true := by
  obtain ⟨rest, rfl⟩ := starts
  obtain ⟨char, more, rfl⟩ := List.exists_cons_of_ne_nil nonempty
  exact absolute

end Path

namespace FileStore

/-- A directory made by an absolute path is where components at the path's start lead. -/
theorem makeDirectory_on_way {store made : FileStore} {path : Text}
    (absolute : Path.isAbsolute path = true) (done : store.makeDirectory path = .ok made) :
    ∃ front, front <+: Path.components path ∧
      store.lookup (front.foldl Path.onward []) = none ∧
      made = store.put (front.foldl Path.onward []) (.directory 0) := by
  unfold makeDirectory at done
  obtain ⟨_, _, done⟩ := bind_eq_ok.mp done
  obtain ⟨target, followed, done⟩ := bind_eq_ok.mp done
  obtain ⟨location, isNamed, done⟩ := bind_eq_ok.mp done
  obtain rfl := named_eq_ok isNamed
  have filled : withoutFinalSlashes path ≠ [] := by
    intro none
    simp [followPath, none] at followed
  have short : Path.isAbsolute (withoutFinalSlashes path) = true :=
    Path.isAbsolute_of_starts (Path.withoutFinalSlashes_starts path) filled absolute
  have reached : target = (Path.components (withoutFinalSlashes path)).foldl Path.onward [] := by
    rw [← Path.place_eq_foldl_components]
    simp only [followPath, filled, ↓reduceIte, short] at followed
    exact follow_lexical followed
  refine ⟨_, Path.components_withoutFinalSlashes path, ?_⟩
  rw [← reached]
  split at done
  · cases done
  · next vacant => exact ⟨vacant, (Except.ok.inj done).symm⟩

/-- A store in which nothing happened outside a directory, but that directories were made
where nothing was, on the way to it. -/
structure Confined (directory : Location) (way : List Text) (before after : FileStore) :
    Prop where
  workingDirectory : after.workingDirectory = before.workingDirectory
  places : ∀ location, Path.Below directory location ∨
    after.lookup location = before.lookup location ∨
    before.lookup location = none ∧
      (∃ modified, after.lookup location = some (.directory modified)) ∧
      ∃ front, front <+: way ∧ location = front.foldl Path.onward []

namespace Confined

variable {directory : Location} {way : List Text} {before after : FileStore}

/-- Nothing need have happened. -/
theorem refl (directory : Location) (way : List Text) (store : FileStore) :
    store.Confined directory way store :=
  ⟨rfl, fun _ => Or.inr (Or.inl rfl)⟩

/-- Outside the directory the files are the same. -/
theorem file_iff (confined : before.Confined directory way after) {location : Location}
    (outside : ¬ Path.Below directory location) (content : List UInt8) (modified : Int) :
    after.lookup location = some (.file content modified) ↔
      before.lookup location = some (.file content modified) := by
  rcases confined.places location with below | same | ⟨absent, ⟨_, made⟩, _⟩
  · exact absurd below outside
  · rw [same]
  · simp [absent, made]

/-- One more directory, below the given one or on the way to it. -/
theorem makeDirectory {path : Text} {made : FileStore} {components : List Text}
    (confined : before.Confined directory way after)
    (onward : ∀ front, front <+: components →
      Path.Below directory (front.foldl Path.onward []) ∨
        ∃ earlier, earlier <+: way ∧
          front.foldl Path.onward [] = earlier.foldl Path.onward [])
    (absolute : Path.isAbsolute path = true) (within : Path.components path <+: components)
    (done : after.makeDirectory path = .ok made) : before.Confined directory way made := by
  obtain ⟨front, starts, vacant, rfl⟩ := makeDirectory_on_way absolute done
  have below : front.foldl Path.onward [] ≠ [] := by
    intro root
    rw [root] at vacant
    cases vacant
  refine ⟨confined.workingDirectory, fun location => ?_⟩
  rw [after.lookup_put _ location _ below]
  by_cases new : location = front.foldl Path.onward []
  · rw [if_pos new]
    rcases onward front (starts.trans within) with inside | onWay
    · exact Or.inl (new ▸ inside)
    · have absent : Path.Below directory location ∨ before.lookup location = none := by
        rcases confined.places location with inside | same | ⟨absent, _⟩
        · exact Or.inl inside
        · exact Or.inr (by rw [← same, new, vacant])
        · exact Or.inr absent
      refine absent.imp_right fun absent => Or.inr ⟨absent, ⟨0, rfl⟩, ?_⟩
      rw [new]
      exact onWay
  · rw [if_neg new]
    exact confined.places location

/-- One file is written below the directory, or a write to it breaks off. -/
theorem refresh {path : Text} (confined : before.Confined directory way after)
    (absolute : Path.isAbsolute path = true) (below : Path.Below directory (Path.place path))
    (text : Text) : before.Confined directory way (RegionBuild.refresh after path text).2 := by
  rcases refresh_cases after path text with ⟨_, same, _⟩ | ⟨written, wrote, same⟩
  · rw [same]
    exact confined
  · rw [same]
    obtain ⟨location, located, _, home, found⟩ := lookup_writeBytes wrote
    have reached : location = Path.place path := by
      rw [locate_lexical located, Path.lexical_of_isAbsolute _ absolute]
    refine ⟨home.trans confined.workingDirectory, fun other => ?_⟩
    rw [found]
    by_cases own : other = location
    · exact Or.inl (by rw [own, reached]; exact below)
    · rw [if_neg own]
      exact confined.places other

end Confined

end FileStore

/-- The directory for an architecture in a scratch root. -/
def directoryFor (root architecture : Text) : Location := Path.place root ++ [architecture]

/-- The components on the way to the directory for an architecture. -/
def wayTo (root architecture : Text) : List Text := Path.components root ++ [architecture]

/-- The path of a scratch copy is absolute if its root is. -/
theorem isAbsolute_scratchPath {root : Text} (rooted : Path.isAbsolute root = true)
    (architecture path : Text) : Path.isAbsolute (scratchPath root architecture path) = true :=
  Path.isAbsolute_join_left (Path.isAbsolute_join_left rooted architecture) _

/-- Making the directory of a scratch copy that stays below the directory for its architecture
makes directories there or on the way there. -/
theorem makeDirectories_confined (files : FileStore) {root architecture path : Text}
    (rooted : Path.isAbsolute root = true) (single : Path.LeadsDown architecture)
    (shortest : Path.normalize path = path) (absolute : Path.isAbsolute path = true)
    (stays : Path.StaysBelow architecture (Path.nested path)) :
    files.Confined (directoryFor root architecture) (wayTo root architecture)
      (files.makeDirectories (Path.parent (scratchPath root architecture path))).2 := by
  have whole := Path.components_scratchPath root single shortest absolute
  -- Only paths at the start of the copy's own are tried.
  let within (front : Text) : Prop := (front ≠ [] → Path.isAbsolute front = true) ∧
    Path.components front <+: Path.components root ++ architecture :: Path.nested path
  have inside : within (Path.parent (scratchPath root architecture path)) := by
    constructor
    · intro filled
      exact Path.isAbsolute_of_starts (Path.parent_starts _) filled
        (isAbsolute_scratchPath rooted architecture path)
    · rw [← whole]
      exact Path.components_parent _
  have upward : ∀ front, within front → (FileStore.splitLast front).1 ≠ [] →
      within (FileStore.splitLast front).1 := by
    intro front inside filled
    obtain ⟨starts, fewer⟩ := Path.splitLast_starts front
    refine ⟨fun _ => ?_, fewer.trans inside.2⟩
    have named : front ≠ [] := by
      rintro rfl
      exact filled (List.prefix_nil.mp starts)
    exact Path.isAbsolute_of_starts starts filled (inside.1 named)
  have step : ∀ store made front, within front →
      files.Confined (directoryFor root architecture) (wayTo root architecture) store →
      store.makeDirectory front = .ok made →
      files.Confined (directoryFor root architecture) (wayTo root architecture) made := by
    intro store made front inside confined done
    have named : front ≠ [] := by
      rintro rfl
      cases done
    exact confined.makeDirectory (fun _ => Path.below_or_on_way single stays)
      (inside.1 named) inside.2 done
  exact FileStore.makeDirectoriesFrom_keeps_within _ within upward step true
    FileStore.levelLimit files (.refl _ _ files) _ inside

/-- Writing a scratch copy that stays below the directory for its architecture touches nothing
else, also when it fails. -/
theorem writeScratch_confined (files : FileStore) {root : Option Text} {chosen : Text}
    {architecture path : Text} (text : Text)
    (isChosen : root.getD (defaultScratchRoot files.workingDirectory) = chosen)
    (rooted : Path.isAbsolute chosen = true) (single : Path.LeadsDown architecture)
    (shortest : Path.normalize path = path) (absolute : Path.isAbsolute path = true)
    (stays : Path.StaysBelow architecture (Path.nested path)) :
    files.Confined (directoryFor chosen architecture) (wayTo chosen architecture)
      (writeScratch files root architecture path text).2 := by
  have made := makeDirectories_confined files rooted single shortest absolute stays
  have below := (Path.below_scratchPath_iff chosen single shortest absolute).mpr stays
  cases directories : files.makeDirectories (Path.parent (scratchPath chosen architecture path)) with
  | mk outcome store =>
    rw [directories] at made
    cases outcome with
    | error fault =>
      rw [writeScratch, prepareScratch, isChosen]
      simp only [directories]
      exact made
    | ok _ =>
      have prepared : prepareScratch files root architecture path =
          (.ok (scratchPath chosen architecture path), store) := by
        rw [prepareScratch, isChosen]
        simp only [directories]
      rw [writeScratch_of_prepared prepared]
      exact made.refresh (isAbsolute_scratchPath rooted architecture path) below text

namespace Build

variable {κ : Type}

/-- The scratch copy of a file in shortest form is below the directory for its architecture
exactly if what is nested of the file's path stays there. Then registering the file touches
nothing else, whether it succeeds or not. It stays there if no backslash stands behind the
slashes at the start of the path. -/
theorem add_stays_below (build : Build κ) (source : Source)
    (rooted : Path.isAbsolute build.scratchRoot = true)
    (single : Path.LeadsDown source.architecture)
    (shortest : Path.normalize source.path = source.path)
    (absolute : Path.isAbsolute source.path = true) :
    (Path.Below (directoryFor build.scratchRoot source.architecture)
          (Path.place (scratchPath build.scratchRoot source.architecture source.path)) ↔
        Path.StaysBelow source.architecture (Path.nested source.path)) ∧
      (Path.StaysBelow source.architecture (Path.nested source.path) →
        build.bench.files.Confined (directoryFor build.scratchRoot source.architecture)
            (wayTo build.scratchRoot source.architecture) (build.add source).2.bench.files ∧
          ∀ location content modified,
            ¬ Path.Below (directoryFor build.scratchRoot source.architecture) location →
            ((build.add source).2.bench.files.lookup location = some (.file content modified) ↔
              build.bench.files.lookup location = some (.file content modified))) ∧
      ∀ name rest, Path.place source.path = name :: rest → name.head? ≠ some '\\' →
        Path.StaysBelow source.architecture (Path.nested source.path) := by
  refine ⟨Path.below_scratchPath_iff _ single shortest absolute, fun stays => ?_,
    fun _ _ names plain => Path.staysBelow_of_plain source.architecture names plain⟩
  have confined : build.bench.files.Confined
      (directoryFor build.scratchRoot source.architecture)
      (wayTo build.scratchRoot source.architecture) (build.add source).2.bench.files := by
    cases transpiled : source.transpile with
    | false =>
      obtain ⟨bench, files, _, skipped⟩ := build.add_skipped transpiled
      rw [skipped, files]
      exact .refl _ _ _
    | true =>
      obtain ⟨bench, files, _, added⟩ := build.add_eq source transpiled
      rw [added, files, copySource]
      cases copyText build.session.pruner build.bench.files source with
      | error fault => exact .refl _ _ _
      | ok text => exact writeScratch_confined _ text rfl rooted single shortest absolute stays
  exact ⟨confined, fun _ content modified outside => confined.file_iff outside content modified⟩

/-- The sample with a file in the scratch root and two files in directories whose names start
with a backslash. -/
def sampleBackslashes : Build Recorder :=
  { sample with
    bench :=
      { sample.bench with
        files :=
          ⟨[(["w".toList], .directory 0), (["w".toList, "t".toList], .directory 0),
              (["w".toList, "t".toList, "a".toList], .file [97] 0),
              (["\\b:c".toList], .directory 0), (["\\b:c".toList, "d".toList], .file [98] 0),
              (["\\..".toList], .directory 0), (["\\..".toList, "a".toList], .file [99] 0)],
            "/w".toList, 10, none⟩ } }

/-- The copy of a file whose first name loses its backslash and keeps a name is below the
directory for the architecture, and the file in the scratch root is untouched. -/
theorem add_stays_below_backslash :
    Path.normalize "/\\b:c/d".toList = "/\\b:c/d".toList ∧
      (sampleBackslashes.add { sampleSource with path := "/\\b:c/d".toList }).1 =
        .ok (some "/w/t/web/b_c/d".toList) ∧
      Path.Below ["w".toList, "t".toList, "web".toList]
        (Path.place (scratchPath "/w/t".toList "web".toList "/\\b:c/d".toList)) ∧
      (sampleBackslashes.add { sampleSource with path := "/\\b:c/d".toList }).2.bench.files.lookup
        ["w".toList, "t".toList, "a".toList] = some (.file [97] 0) := by
  have shortest : Path.normalize "/\\b:c/d".toList = "/\\b:c/d".toList := by decide
  obtain ⟨below, touches, _⟩ := add_stays_below sampleBackslashes
    { sampleSource with path := "/\\b:c/d".toList } (by decide)
    ⟨by decide, by decide, by decide, by decide⟩ shortest (by decide)
  have stays : Path.StaysBelow "web".toList (Path.nested "/\\b:c/d".toList) := trivial
  refine ⟨shortest, by rfl, below.mpr stays, ?_⟩
  refine ((touches stays).2 _ _ _ ?_).mpr (by rfl)
  rintro ⟨name, more, same⟩
  cases same

/-- A first name of a backslash and two dots leads out of the directory for the architecture.
The path is as short as can be and not the root, and registering its file writes over another
one in the scratch root. -/
theorem add_leads_outside :
    Path.normalize "/\\../a".toList = "/\\../a".toList ∧
      Path.place "/\\../a".toList = ["\\..".toList, "a".toList] ∧
      sampleBackslashes.scratchRoot = "/w/t".toList ∧
      Path.place (scratchPath "/w/t".toList "web".toList "/\\../a".toList) =
        ["w".toList, "t".toList, "a".toList] ∧
      ¬ Path.Below ["w".toList, "t".toList, "web".toList]
        (Path.place (scratchPath "/w/t".toList "web".toList "/\\../a".toList)) ∧
      sampleBackslashes.bench.files.lookup ["w".toList, "t".toList, "a".toList] =
        some (.file [97] 0) ∧
      (sampleBackslashes.add { sampleSource with path := "/\\../a".toList }).1 =
        .ok (some "/w/t/web/../a".toList) ∧
      (sampleBackslashes.add { sampleSource with path := "/\\../a".toList }).2.bench.files.lookup
        ["w".toList, "t".toList, "a".toList] = some (.file [99] 10000000) := by
  have reached : Path.place (scratchPath "/w/t".toList "web".toList "/\\../a".toList) =
      ["w".toList, "t".toList, "a".toList] := by decide
  refine ⟨by decide, by decide, by decide, reached, ?_, by rfl, by rfl, by rfl⟩
  rw [reached]
  rintro ⟨name, more, same⟩
  cases same

end Build

end RegionBuild
