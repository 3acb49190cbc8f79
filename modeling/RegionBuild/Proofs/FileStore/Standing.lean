import Mathlib.Data.List.DropRight
import RegionBuild.Proofs.FileStore.Growth
import RegionBuild.Proofs.Text.Pieces
import RegionBuild.Proofs.Text.Utf8

/-!
# Directories that stand

A location stands if it is a directory and so is everything above it. Following a path
goes through such locations only, as long as it starts at one: the root stands, and so
does the working directory of any process. So once a path leads to a file, the
directories above it are there, by every path that the making of directories tries, and
making them again changes nothing.
-/

namespace RegionBuild

namespace Path

/-- The directory of a path is what comes before the last slash. -/
theorem parent_eq (path : Text) :
    parent path = FileStore.withoutFinalSlashes (path.rdropWhile (· != '/')) := by
  have whole : path.rdropWhile (· != '/') ++ lastComponent path = path :=
    List.rdropWhile_append_rtakeWhile
  have size : path.length - (lastComponent path).length =
      (path.rdropWhile (· != '/')).length := by
    have sizes := congrArg List.length whole
    rw [List.length_append] at sizes
    omega
  have starts : path.rdropWhile (· != '/') <+: path := List.rdropWhile_prefix _ path
  unfold parent
  rw [size, ← List.prefix_iff_eq_take.mp starts]
  rfl

/-- A path without the slashes at its end starts the path. -/
theorem withoutFinalSlashes_starts (path : Text) :
    FileStore.withoutFinalSlashes path <+: path := by
  unfold FileStore.withoutFinalSlashes
  simp only
  split
  · exact List.prefix_rfl
  · exact List.rdropWhile_prefix _ path

/-- Nothing is taken away from a path that does not end in a slash. -/
theorem withoutFinalSlashes_eq_self {path : Text} (plain : path.getLast? ≠ some '/') :
    FileStore.withoutFinalSlashes path = path := by
  have stripped : stripSlashes path = path := by
    refine List.rdropWhile_eq_self_iff.mpr fun nonempty slash => plain ?_
    rw [List.getLast?_eq_some_getLast nonempty, beq_iff_eq.mp slash]
    rfl
  unfold FileStore.withoutFinalSlashes
  rw [stripped]
  exact ite_self path

/-- The directory of a path starts the path. -/
theorem parent_starts (path : Text) : parent path <+: path := by
  rw [parent_eq]
  refine (withoutFinalSlashes_starts _).trans ?_
  exact List.rdropWhile_prefix _ path

/-- The directory of a path has no slashes at its end to be taken away. -/
theorem withoutFinalSlashes_parent (path : Text) :
    FileStore.withoutFinalSlashes (parent path) = parent path := by
  rw [parent_eq]
  generalize path.rdropWhile (· != '/') = front
  have again : stripSlashes (stripSlashes front) = stripSlashes front :=
    List.rdropWhile_idempotent _ front
  unfold FileStore.withoutFinalSlashes
  by_cases empty : (stripSlashes front).isEmpty = true
  · simp [empty]
  · simp [empty, again]

/-- The directory of a path consists of slashes, or a slash follows it in the path. -/
theorem slashes_or_slash_after_parent (path : Text) :
    (∀ char ∈ parent path, char = '/') ∨ ∃ rest, path = parent path ++ '/' :: rest := by
  rw [parent_eq]
  obtain ⟨last, whole⟩ := List.rdropWhile_prefix (· != '/') path
  generalize ends : path.rdropWhile (· != '/') = front at whole
  have stripped : stripSlashes front ++ front.rtakeWhile (· == '/') = front :=
    List.rdropWhile_append_rtakeWhile
  unfold FileStore.withoutFinalSlashes
  by_cases empty : (stripSlashes front).isEmpty = true
  · refine Or.inl ?_
    have slashes := (List.rdropWhile_eq_nil_iff).mp (List.isEmpty_iff.mp empty)
    simp only [empty, ↓reduceIte]
    exact fun char inside => beq_iff_eq.mp (slashes char inside)
  · refine Or.inr ?_
    simp only [empty, Bool.false_eq_true, ↓reduceIte]
    cases final : front.rtakeWhile (· == '/') with
    | nil =>
      -- What is before the last component ends in a slash.
      have nonempty : front ≠ [] := by
        rintro rfl
        exact empty rfl
      have noSlash := List.rtakeWhile_eq_nil_iff.mp final nonempty
      subst ends
      have slash := List.rdropWhile_last_not _ _ nonempty
      simp at noSlash slash
      exact absurd slash noSlash
    | cons char rest =>
      have slash : char = '/' := by
        have holds := List.mem_rtakeWhile_imp (final ▸ List.mem_cons_self)
        exact beq_iff_eq.mp holds
      rw [final, slash] at stripped
      refine ⟨rest ++ last, ?_⟩
      calc path = front ++ last := whole.symm
        _ = stripSlashes front ++ '/' :: rest ++ last := by rw [stripped]
        _ = stripSlashes front ++ '/' :: (rest ++ last) := by simp

end Path

namespace FileStore

/-- A location stands if it and everything above it is a directory whose name can be
looked up. -/
def Standing (store : FileStore) (location : Location) : Prop :=
  ∀ front, front <+: location →
    named front = .ok front ∧ ∃ modified, store.lookup front = some (.directory modified)

namespace Standing

variable {store : FileStore} {location : Location}

/-- The root stands. -/
theorem root (store : FileStore) : store.Standing [] := by
  intro front above
  rw [List.prefix_nil.mp above]
  exact ⟨rfl, 0, rfl⟩

/-- So does everything above a location that stands. -/
theorem dropLast (standing : store.Standing location) : store.Standing location.dropLast := by
  intro front above
  refine standing front (above.trans ?_)
  exact List.dropLast_prefix location

/-- A directory in a location that stands stands too. -/
theorem append (standing : store.Standing location) {name : Text} {modified : Int}
    (isNamed : isShortName name = true)
    (found : store.lookup (location ++ [name]) = some (.directory modified)) :
    store.Standing (location ++ [name]) := by
  intro front above
  rcases List.prefix_concat_iff.mp above with rfl | above
  · exact ⟨by simp [named, isNamed], modified, found⟩
  · exact standing front above

/-- What stands stays standing as the store is extended. -/
theorem extend {after : FileStore} (extended : store.Extends after)
    (standing : store.Standing location) : after.Standing location := by
  intro front above
  obtain ⟨isNamed, modified, found⟩ := standing front above
  exact ⟨isNamed, modified, extended.directories front modified found⟩

end Standing

/-- Components that lead somewhere lead through a location that stands, wherever they are
cut.

Induct over the components before the cut. None of them is the last one, so each is
looked up. -/
theorem follow_append {store : FileStore} (front back : List Text) (more : back ≠ [])
    {location target : Location} (standing : store.Standing location)
    (followed : store.follow location (front ++ back) = .ok target) :
    ∃ middle, store.follow location front = .ok middle ∧ store.Standing middle := by
  induction front generalizing location with
  | nil => exact ⟨location, rfl, standing⟩
  | cons component rest inductionHypothesis =>
    have notLast : rest ++ back ≠ [] := List.append_ne_nil_of_right_ne_nil rest more
    rw [List.cons_append, FileStore.follow] at followed
    rw [FileStore.follow]
    by_cases stays : component = [] ∨ component = Path.here
    · rw [if_pos stays] at followed ⊢
      exact inductionHypothesis standing followed
    rw [if_neg stays] at followed ⊢
    by_cases goesUp : component = Path.up
    · rw [if_pos goesUp] at followed ⊢
      exact inductionHypothesis standing.dropLast followed
    rw [if_neg goesUp] at followed ⊢
    simp only [notLast, ↓reduceIte] at followed
    by_cases tooLong : (!isShortName component) = true
    · simp [tooLong] at followed
    cases found : store.lookup (location ++ [component]) with
    | none => simp [tooLong, found] at followed
    | some node =>
      cases node with
      | file content modified => simp [tooLong, found] at followed
      | directory modified =>
        have next := standing.append (by simpa using tooLong) found
        by_cases last : rest = []
        · exact ⟨location ++ [component], by simp [last], next⟩
        · simp only [tooLong, found, last, Bool.false_eq_true, ↓reduceIte] at followed ⊢
          exact inductionHypothesis next followed

/-- Slashes lead nowhere else. -/
theorem follow_slashes (store : FileStore) (location : Location) (path : Text)
    (slashes : ∀ char ∈ path, char = '/') :
    store.follow location (Text.splitOn '/' path) = .ok location := by
  induction path with
  | nil => simp [Text.splitOn, FileStore.follow]
  | cons char rest inductionHypothesis =>
    have slash := slashes char List.mem_cons_self
    simp only [Text.splitOn, slash, ↓reduceIte, FileStore.follow, true_or]
    exact inductionHypothesis fun other inside => slashes other (List.mem_cons_of_mem char inside)

/-- The working directory stands. -/
def Rooted (store : FileStore) : Prop := store.Standing (Path.components store.workingDirectory)

/-- It stands still as the store is extended. -/
theorem Rooted.extend {store after : FileStore} (rooted : store.Rooted)
    (extended : store.Extends after) : after.Rooted := by
  unfold Rooted
  rw [extended.workingDirectory]
  exact Standing.extend extended rooted

/-- The directory of a path that leads somewhere stands. -/
theorem Rooted.followPath_parent {store : FileStore} (rooted : store.Rooted) {path : Text}
    {location : Location} (followed : store.followPath path = .ok location)
    (nonempty : Path.parent path ≠ []) :
    ∃ above, store.followPath (Path.parent path) = .ok above ∧ store.Standing above := by
  have sameStart : Path.isAbsolute (Path.parent path) = Path.isAbsolute path := by
    obtain ⟨rest, whole⟩ := Path.parent_starts path
    unfold Path.isAbsolute
    conv_rhs => rw [← whole, List.head?_append_of_ne_nil _ nonempty]
  have start : store.Standing (if Path.isAbsolute path then []
      else Path.components store.workingDirectory) := by
    split
    · exact Standing.root store
    · exact rooted
  unfold FileStore.followPath at followed ⊢
  rw [if_neg nonempty, sameStart]
  by_cases empty : path = []
  · simp [empty] at followed
  rw [if_neg empty] at followed
  rcases Path.slashes_or_slash_after_parent path with slashes | ⟨rest, whole⟩
  · exact ⟨_, store.follow_slashes _ _ slashes, start⟩
  · rw [whole, Text.splitOn_append, ← whole] at followed
    exact store.follow_append _ _ (Text.splitOn_ne_nil '/' rest) start followed

/-- A path is accepted if it has no NUL and not too many bytes. -/
theorem accepted_eq_ok {path : Text} :
    accepted path = .ok () ↔ '\x00' ∉ path ∧ Utf8.size path ≤ longestPath := by
  unfold accepted measured
  by_cases null : '\x00' ∈ path
  · simp [null]
  · by_cases long : longestPath < Utf8.size path
    · simp [null, long]
    · simp [null, long, Nat.le_of_not_lt long]

/-- The directory of an accepted path is accepted. -/
theorem accepted_parent {path : Text} (accepts : accepted path = .ok ()) :
    accepted (Path.parent path) = .ok () := by
  rw [accepted_eq_ok] at accepts ⊢
  have starts := Path.parent_starts path
  refine ⟨fun null => accepts.1 (starts.subset null), ?_⟩
  obtain ⟨rest, whole⟩ := starts
  have size : Utf8.size path = Utf8.size (Path.parent path) + Utf8.size rest := by
    conv_lhs => rw [← whole]
    simp [Utf8.size, Utf8.encode_append]
  omega

/-- A path to a location that stands leads to a directory. -/
theorem Standing.node {store : FileStore} {location : Location}
    (standing : store.Standing location) {path : Text} (accepts : accepted path = .ok ())
    (followed : store.followPath path = .ok location) :
    ∃ modified, store.node path = .ok (.directory modified) := by
  obtain ⟨isNamed, modified, found⟩ := standing location List.prefix_rfl
  have located : store.locate path = .ok location :=
    bind_eq_ok.mpr ⟨(), accepts, bind_eq_ok.mpr ⟨location, followed, isNamed⟩⟩
  exact ⟨modified, node_eq_ok.mpr ⟨location, located, found⟩⟩

/-- The directory of a path that leads somewhere is there. -/
theorem Rooted.exists_parent {store : FileStore} (rooted : store.Rooted) {path : Text}
    {location : Location} (accepts : accepted path = .ok ())
    (followed : store.followPath path = .ok location) (nonempty : Path.parent path ≠ []) :
    store.exists? (Path.parent path) = true := by
  obtain ⟨target, reached, standing⟩ := rooted.followPath_parent followed nonempty
  obtain ⟨modified, found⟩ := standing.node (accepted_parent accepts) reached
  simp [exists?, found, Except.toBool]

/-- So is the directory to be made before it, slashes at its end or not. -/
theorem Rooted.exists_above {store : FileStore} (rooted : store.Rooted) {path : Text}
    {location : Location} (accepts : accepted path = .ok ())
    (followed : store.followPath path = .ok location) (nonempty : (splitLast path).1 ≠ []) :
    store.exists? (splitLast path).1 = true := by
  by_cases noLast : Path.lastComponent path = []
  · have above : (splitLast path).1 = Path.parent (Path.parent path) := by
      simp only [splitLast, noLast]
    rw [above] at nonempty ⊢
    have inner : Path.parent path ≠ [] := by
      intro empty
      rw [empty] at nonempty
      exact nonempty (List.prefix_nil.mp (Path.parent_starts []))
    obtain ⟨target, reached, _⟩ := rooted.followPath_parent followed inner
    exact rooted.exists_parent (accepted_parent accepts) reached nonempty
  · have above : (splitLast path).1 = Path.parent path := by
      simp only [splitLast]
    rw [above] at nonempty ⊢
    exact rooted.exists_parent accepts followed nonempty

/-- There is no directory without a path. -/
theorem makeDirectories_nil (store : FileStore) :
    store.makeDirectories [] = (.error ⟨.notFound, some []⟩, store) := by
  rfl

/-- Making the directory of a path that leads somewhere changes nothing. -/
theorem Rooted.makeDirectories_parent {store : FileStore} (rooted : store.Rooted) {path : Text}
    {location : Location} (located : store.locate path = .ok location)
    (nonempty : Path.parent path ≠ []) :
    store.makeDirectories (Path.parent path) = (.ok (), store) := by
  obtain ⟨_, accepts, located⟩ := bind_eq_ok.mp located
  obtain ⟨target, followed, _⟩ := bind_eq_ok.mp located
  obtain ⟨above, reached, standing⟩ := rooted.followPath_parent followed nonempty
  have accepts := accepted_parent accepts
  obtain ⟨modified, directory⟩ := standing.node accepts reached
  obtain ⟨isNamed, modified', found⟩ := standing above List.prefix_rfl
  have taken : store.makeDirectory (Path.parent path) = .error .alreadyExists := by
    unfold makeDirectory
    rw [accepts, Path.withoutFinalSlashes_parent, reached]
    simp [bind, Except.bind, isNamed, found]
  have there : store.isDirectory (Path.parent path) = true := by
    simp [isDirectory, directory]
  have known : (splitLast (Path.parent path)).1 = [] ∨
      store.exists? (splitLast (Path.parent path)).1 = true :=
    (Decidable.em _).imp_right (rooted.exists_above accepts reached)
  unfold makeDirectories
  change makeDirectoriesFrom true (984 + 1) store _ = _
  unfold makeDirectoriesFrom
  rcases known with known | known <;> simp [known, taken, there]

end FileStore

end RegionBuild
