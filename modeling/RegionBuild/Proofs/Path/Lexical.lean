import RegionBuild.Proofs.FileStore.Standing
import RegionBuild.Proofs.Path.Components
import RegionBuild.Session

/-!
# Where a path leads, read off its text

There are no links, so the place that a path leads to can be read off its components:
names lead down, parent components lead up, and all else leads nowhere. A store can
refuse to follow a path, but it cannot lead anywhere else.

The scratch copy of a file whose path is in normal form is below the scratch root and
the architecture, in the place that the path's own names have below the root, with an
underscore for every colon.
-/

namespace RegionBuild

namespace Text

end Text

namespace Path

/-- Where a path leads if it can be followed. -/
def lexical (workingDirectory path : Text) : Location :=
  (Text.splitOn '/' path).foldl onward
    (if isAbsolute path then [] else components workingDirectory)

/-- Names with slashes between them lead down one after the other. -/
theorem foldl_onward_join {names : List Text} (named : ∀ name ∈ names, LeadsDown name)
    (location : Location) :
    (Text.splitOn '/' (Text.join ['/'] names)).foldl onward location = location ++ names := by
  cases names with
  | nil => exact (List.append_nil location).symm
  | cons name rest =>
    have unslashed : ∀ piece ∈ name :: rest, '/' ∉ piece :=
      fun piece listed => (named piece listed).unslashed
    rw [Text.splitOn_join unslashed (List.cons_ne_nil _ _)]
    exact foldl_onward named location

/-- Where an absolute path leads does not depend on where it is followed from. -/
theorem lexical_of_isAbsolute (workingDirectory : Text) {path : Text}
    (absolute : isAbsolute path = true) : lexical workingDirectory path = place path := by
  rw [lexical, if_pos absolute]
  rfl

/-- The components of a path inside another come after some that lead where the other leads. -/
theorem splitOn_join_eq (workingDirectory base path : Text) (relative : isAbsolute path = false) :
    ∃ front, Text.splitOn '/' (join base path) = front ++ Text.splitOn '/' path ∧
      front.foldl onward
          (if isAbsolute (join base path) then [] else components workingDirectory) =
        lexical workingDirectory base := by
  unfold join
  rw [relative, if_neg Bool.false_ne_true]
  rcases base.eq_nil_or_concat' with rfl | ⟨front, last, rfl⟩
  · refine ⟨[], rfl, ?_⟩
    simp only [List.isEmpty_nil, Bool.true_or, ↓reduceIte, List.nil_append, relative,
      Bool.false_eq_true, List.foldl_nil]
    rfl
  · have absolute : ∀ rest : Text, isAbsolute (front ++ [last] ++ rest) =
        isAbsolute (front ++ [last]) := by
      intro rest
      cases front <;> rfl
    by_cases slash : last = '/'
    · subst slash
      rw [if_pos (by simp [Letter.slash]), absolute]
      refine ⟨Text.splitOn '/' front, ?_, ?_⟩
      · rw [List.append_assoc]
        exact Text.splitOn_append '/' front path
      · -- The slash at the end makes an empty component, which leads nowhere.
        rw [lexical, Text.splitOn_append, List.foldl_append]
        rfl
    · rw [if_neg (by simp [Letter.slash, slash]), absolute]
      exact ⟨Text.splitOn '/' (front ++ [last]), Text.splitOn_append '/' _ path, rfl⟩

/-- Where a path inside another leads: on from where the other leads. -/
theorem lexical_join (workingDirectory base path : Text) (relative : isAbsolute path = false) :
    lexical workingDirectory (join base path) =
      (Text.splitOn '/' path).foldl onward (lexical workingDirectory base) := by
  obtain ⟨front, pieces, reached⟩ := splitOn_join_eq workingDirectory base path relative
  rw [lexical, pieces, List.foldl_append, reached]

/-- Names with slashes between them do not start with a slash. -/
theorem isAbsolute_join {names : List Text} (named : ∀ name ∈ names, LeadsDown name) :
    isAbsolute (Text.join ['/'] names) = false := by
  cases names with
  | nil => rfl
  | cons name rest =>
    have down := named name List.mem_cons_self
    obtain ⟨char, more, rfl⟩ := List.exists_cons_of_ne_nil down.nonempty
    have first : Text.join ['/'] ((char :: more) :: rest) =
        char :: Text.join ['/'] (more :: rest) := List.intercalate_cons_cons_left
    have plain : char ≠ '/' := fun slash => down.unslashed (slash ▸ List.mem_cons_self)
    rw [first]
    simpa [isAbsolute, Letter.slash] using plain

/-- Names inside a path lead on from where the path leads. -/
theorem lexical_join_names (workingDirectory base : Text) {names : List Text}
    (named : ∀ name ∈ names, LeadsDown name) :
    lexical workingDirectory (join base (Text.join ['/'] names)) =
      lexical workingDirectory base ++ names := by
  rw [lexical_join _ _ _ (isAbsolute_join named), foldl_onward_join named]

/-- A normal path: an absolute one that is the shortest that is lexically the same. Only
slashes at its start are dropped to nest it under another. -/
structure Normal (path : Text) : Prop where
  shortest : normalize path = path
  absolute : isAbsolute path = true
  unescaped : withoutRoot path = path.dropWhile (· == '/')

/-- Slashes at the start are the only ones there, if what follows is relative. -/
theorem dropWhile_slashes {slashes path : Text} (only : ∀ char ∈ slashes, char = '/')
    (relative : isAbsolute path = false) :
    (slashes ++ path).dropWhile (· == '/') = path := by
  rw [List.dropWhile_append_of_pos fun char inside => beq_iff_eq.mpr (only char inside)]
  cases path with
  | nil => rfl
  | cons char rest =>
    have plain : char ≠ '/' := by simpa [isAbsolute, Letter.slash] using relative
    exact List.dropWhile_cons_of_neg (by simpa using plain)

/-- Below its slashes a normal path consists of names. -/
theorem Normal.exists_names {path : Text} (normal : Normal path) :
    ∃ names : List Text, (∀ name ∈ names, LeadsDown name) ∧
      withoutRoot path = Text.join ['/'] names := by
  have named : ∀ name ∈ place path, LeadsDown name :=
    fun _ listed => leadsDown_of_mem_place listed
  have slashes : ∀ char ∈ rootSlashes path, char = '/' := by
    unfold rootSlashes
    split <;> simp [Letter.slash]
  have whole : rootSlashes path ++ Text.join ['/'] (place path) = path :=
    (normalize_of_isAbsolute normal.absolute).symm.trans normal.shortest
  refine ⟨place path, named, ?_⟩
  calc withoutRoot path
      = path.dropWhile (· == '/') := normal.unescaped
    _ = (rootSlashes path ++ Text.join ['/'] (place path)).dropWhile (· == '/') := by
      rw [whole]
    _ = Text.join ['/'] (place path) := dropWhile_slashes slashes (isAbsolute_join named)

/-- A name as it is in the path of a scratch copy. -/
abbrev plainName (name : Text) : Text := Text.replaceChar ':' '_' name

/-- A text without underscores comes only from itself. -/
theorem eq_of_plainName_eq {name text : Text} (unscored : '_' ∉ text)
    (same : plainName name = text) : name = text := by
  induction name generalizing text with
  | nil => exact same
  | cons char rest inductionHypothesis =>
    rw [← same] at unscored ⊢
    obtain ⟨here, later⟩ := not_or.mp (List.mem_cons.not.mp unscored)
    by_cases colon : char = ':'
    · exact absurd (by simp [colon]) here
    · have first : (if char = ':' then '_' else char) = char := if_neg colon
      change char :: rest = (if char = ':' then '_' else char) :: plainName rest
      rw [first]
      exact congrArg _ (inductionHypothesis later rfl)

/-- A name is still one in the path of a scratch copy. -/
theorem LeadsDown.plain {name : Text} (down : LeadsDown name) : LeadsDown (plainName name) where
  nonempty := by simpa [plainName, Text.replaceChar] using down.nonempty
  notHere same := down.notHere (eq_of_plainName_eq (by decide) same)
  notUp same := down.notUp (eq_of_plainName_eq (by decide) same)
  unslashed := by
    intro inside
    obtain ⟨char, listed, becomes⟩ := List.mem_map.mp inside
    by_cases colon : char = ':'
    · rw [if_pos colon] at becomes
      exact absurd becomes (by decide)
    · rw [if_neg colon] at becomes
      exact down.unslashed (becomes ▸ listed)

/-- So names stay names when the colons of all are replaced. -/
theorem leadsDown_map_plainName {names : List Text} (named : ∀ name ∈ names, LeadsDown name) :
    ∀ name ∈ names.map plainName, LeadsDown name := by
  intro name listed
  obtain ⟨old, inside, rfl⟩ := List.mem_map.mp listed
  exact (named old inside).plain

/-- Colons are replaced name by name. -/
theorem plainName_join (names : List Text) :
    plainName (Text.join ['/'] names) = Text.join ['/'] (names.map plainName) := by
  induction names with
  | nil => rfl
  | cons name rest inductionHypothesis =>
    cases rest with
    | nil => simp [Text.join]
    | cons next others =>
      have cut : ∀ (first second : Text) (more : List Text),
          Text.join ['/'] (first :: second :: more) =
            first ++ ['/'] ++ Text.join ['/'] (second :: more) :=
        fun first second more => List.intercalate_cons_cons
      rw [cut, List.map_cons, List.map_cons, cut, ← List.map_cons, ← inductionHypothesis]
      simp [Text.replaceChar]

/-- The path of a file as it is nested below the root of scratch copies. -/
def mirrored (path : Text) : Text := plainName (withoutRoot path)

/-- The path of a scratch copy goes through the root, the architecture and the file's own
names. -/
theorem scratchPath_eq_join (root architecture : Text) {path : Text} {names : List Text}
    (own : withoutRoot path = Text.join ['/'] names) :
    scratchPath root architecture path =
      join (join root architecture) (Text.join ['/'] (names.map plainName)) := by
  rw [← plainName_join, ← own]
  rfl

/-- Where the scratch copy of a file is: below the root and the architecture, with an
underscore for every colon in the file's own names. -/
theorem lexical_scratchPath (workingDirectory root : Text) {architecture path : Text}
    {names : List Text} (single : LeadsDown architecture) (named : ∀ name ∈ names, LeadsDown name)
    (own : withoutRoot path = Text.join ['/'] names) :
    lexical workingDirectory (scratchPath root architecture path) =
      lexical workingDirectory root ++ architecture :: names.map plainName := by
  have down : lexical workingDirectory (join root architecture) =
      lexical workingDirectory root ++ [architecture] := by
    have inside := lexical_join_names workingDirectory root (List.forall_mem_singleton.mpr single)
    rwa [show Text.join ['/'] [architecture] = architecture from List.intercalate_singleton]
      at inside
  calc lexical workingDirectory (scratchPath root architecture path)
      = lexical workingDirectory
          (join (join root architecture) (Text.join ['/'] (names.map plainName))) := by
        rw [scratchPath_eq_join root architecture own]
    _ = lexical workingDirectory root ++ [architecture] ++ names.map plainName := by
        rw [lexical_join_names _ _ (leadsDown_map_plainName named), down]
    _ = lexical workingDirectory root ++ architecture :: names.map plainName := by simp

/-- Names inside a name inside a path are names inside the path. -/
theorem join_join_names (base : Text) {name : Text} {names : List Text} (down : LeadsDown name)
    (named : ∀ other ∈ names, LeadsDown other) (filled : names ≠ []) :
    join (join base name) (Text.join ['/'] names) = join base (Text.join ['/'] (name :: names)) := by
  obtain ⟨next, others, rfl⟩ := List.exists_cons_of_ne_nil filled
  have relative : isAbsolute name = false := by
    have single := isAbsolute_join (List.forall_mem_singleton.mpr down)
    rwa [show Text.join ['/'] [name] = name from List.intercalate_singleton] at single
  have whole : ∀ other ∈ name :: next :: others, LeadsDown other :=
    List.forall_mem_cons.mpr ⟨down, named⟩
  have open? : ∀ front : Text, ((front ++ name).isEmpty ||
      (front ++ name).getLast? == some Letter.slash) = false := by
    intro front
    have last : name.getLast? ≠ some '/' :=
      fun slash => down.unslashed (List.mem_of_getLast? slash)
    simpa [down.nonempty, List.getLast?_append_of_ne_nil _ down.nonempty, Letter.slash] using last
  have cut : Text.join ['/'] (name :: next :: others) =
      name ++ ['/'] ++ Text.join ['/'] (next :: others) := List.intercalate_cons_cons
  unfold join
  rw [relative, isAbsolute_join named, isAbsolute_join whole, if_neg Bool.false_ne_true,
    if_neg Bool.false_ne_true, if_neg Bool.false_ne_true, cut]
  split
  · rw [open? base, if_neg Bool.false_ne_true]
    simp [Letter.slash]
  · rw [List.append_cons, open?, if_neg Bool.false_ne_true]
    simp [Letter.slash]

/-- Scratch copies are below their root. -/
theorem Normal.root_isPrefix_scratchPath {path : Text} (normal : Normal path)
    (workingDirectory root : Text) {architecture : Text} (single : LeadsDown architecture) :
    lexical workingDirectory root <+:
      lexical workingDirectory (scratchPath root architecture path) := by
  obtain ⟨names, named, own⟩ := normal.exists_names
  rw [lexical_scratchPath workingDirectory root single named own]
  exact List.prefix_append _ _

/-- Scratch copies for one architecture are in one place only if their files have the same
path but for colons, underscores and the slashes at the start. -/
theorem Normal.mirrored_eq_of_scratchPath {path other : Text} (normal : Normal path)
    (normal' : Normal other) {workingDirectory root architecture : Text}
    (single : LeadsDown architecture)
    (same : lexical workingDirectory (scratchPath root architecture path) =
      lexical workingDirectory (scratchPath root architecture other)) :
    mirrored path = mirrored other := by
  obtain ⟨names, named, own⟩ := normal.exists_names
  obtain ⟨others, named', own'⟩ := normal'.exists_names
  rw [lexical_scratchPath workingDirectory root single named own,
    lexical_scratchPath workingDirectory root single named' own'] at same
  have plain : names.map plainName = others.map plainName :=
    (List.cons.inj (List.append_cancel_left same)).2
  unfold mirrored
  rw [own, own', plainName_join, plainName_join, plain]

end Path

namespace FileStore

/-- Components that can be followed lead where they say. -/
theorem follow_lexical {store : FileStore} {components : List Text} {location target : Location}
    (followed : store.follow location components = .ok target) :
    target = components.foldl Path.onward location := by
  induction components generalizing location with
  | nil => exact (Except.ok.inj followed).symm
  | cons component rest inductionHypothesis =>
    unfold follow at followed
    rw [List.foldl_cons]
    unfold Path.onward
    by_cases stays : component = [] ∨ component = Path.here
    · rw [if_pos stays] at followed ⊢
      exact inductionHypothesis followed
    rw [if_neg stays] at followed ⊢
    by_cases goesUp : component = Path.up
    · rw [if_pos goesUp] at followed ⊢
      exact inductionHypothesis followed
    rw [if_neg goesUp] at followed ⊢
    by_cases last : rest = []
    · simp only [last, ↓reduceIte, Except.ok.injEq] at followed
      rw [last, ← followed]
      rfl
    · simp only [last, ↓reduceIte] at followed
      split at followed
      · cases followed
      · split at followed
        · cases followed
        · cases followed
        · exact inductionHypothesis followed

/-- Components that can be followed lead down through a directory, unless they end there.

Induct over the components before the name. None of them is the last one. -/
theorem directory_of_follow {store : FileStore} {front back : List Text} {name : Text}
    (down : Path.LeadsDown name) (more : back ≠ []) {location target : Location}
    (followed : store.follow location (front ++ name :: back) = .ok target) :
    ∃ modified, store.lookup (front.foldl Path.onward location ++ [name]) =
      some (.directory modified) := by
  induction front generalizing location with
  | nil =>
    rw [List.nil_append, follow, if_neg (not_or.mpr ⟨down.nonempty, down.notHere⟩),
      if_neg down.notUp] at followed
    simp only [more, ↓reduceIte] at followed
    split at followed
    · cases followed
    · split at followed
      · cases followed
      · cases followed
      · next modified found => exact ⟨modified, found⟩
  | cons component rest inductionHypothesis =>
    rw [List.cons_append, follow] at followed
    rw [List.foldl_cons]
    unfold Path.onward
    by_cases stays : component = [] ∨ component = Path.here
    · rw [if_pos stays] at followed ⊢
      exact inductionHypothesis followed
    rw [if_neg stays] at followed ⊢
    by_cases goesUp : component = Path.up
    · rw [if_pos goesUp] at followed ⊢
      exact inductionHypothesis followed
    rw [if_neg goesUp] at followed ⊢
    have notLast : rest ++ name :: back ≠ [] := by simp
    simp only [notLast, ↓reduceIte] at followed
    split at followed
    · cases followed
    · split at followed
      · cases followed
      · cases followed
      · exact inductionHypothesis followed

/-- A path that can be located leads where it says. -/
theorem locate_lexical {store : FileStore} {path : Text} {location : Location}
    (located : store.locate path = .ok location) :
    location = Path.lexical store.workingDirectory path := by
  unfold locate at located
  obtain ⟨_, _, located⟩ := bind_eq_ok.mp located
  obtain ⟨target, followed, isNamed⟩ := bind_eq_ok.mp located
  obtain rfl := named_eq_ok isNamed
  unfold followPath at followed
  split at followed
  · cases followed
  · exact follow_lexical followed

/-- What stands on the way to the names of a path inside another is a directory. -/
theorem directory_of_locate_join {store : FileStore} {base : Text} {names more : List Text}
    (named : ∀ name ∈ names ++ more, Path.LeadsDown name) (filled : names ≠ []) (further : more ≠ [])
    {location : Location}
    (located : store.locate (Path.join base (Text.join ['/'] (names ++ more))) = .ok location) :
    ∃ modified, store.lookup (Path.lexical store.workingDirectory base ++ names) =
      some (.directory modified) := by
  obtain ⟨above, name, rfl⟩ := (names.eq_nil_or_concat').resolve_left filled
  rw [List.append_assoc, List.singleton_append] at named located
  obtain ⟨front, pieces, reached⟩ := Path.splitOn_join_eq store.workingDirectory base _
    (Path.isAbsolute_join named)
  have unslashed : ∀ piece ∈ above ++ name :: more, '/' ∉ piece :=
    fun piece listed => (named piece listed).unslashed
  have down : ∀ piece ∈ above, Path.LeadsDown piece :=
    fun piece listed => named piece (List.mem_append_left _ listed)
  unfold locate at located
  obtain ⟨_, _, located⟩ := bind_eq_ok.mp located
  obtain ⟨target, followed, _⟩ := bind_eq_ok.mp located
  unfold followPath at followed
  split at followed
  · cases followed
  · rw [pieces, Text.splitOn_join unslashed (by simp), ← List.append_assoc] at followed
    have found := directory_of_follow (named name (by simp)) further followed
    rw [List.foldl_append, reached, Path.foldl_onward down] at found
    rw [← List.append_assoc]
    exact found

end FileStore

end RegionBuild
