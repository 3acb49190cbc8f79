import RegionBuild.Proofs.Path.Lexical
import RegionBuild.Proofs.Path.Relative

/-!
# What is nested where

A scratch copy is nested below a directory, named for the architecture below the scratch
root. The file's own path loses the slashes and backslashes at its start for that. On a file
system where a backslash is a letter like any other this takes away more than the root: a
name of nothing but backslashes goes with the slash after it, and what is left of the first
other name need not be a name. If it is one, the copy is below the directory. If it leads
nowhere or up, the copy is in the directory itself, or outside it unless the names after it
happen to lead back.
-/

namespace RegionBuild.Path

/-- A location strictly below another. -/
def Below (base location : Location) : Prop := ∃ name more, location = base ++ name :: more

/-- Nothing is strictly below itself. -/
theorem not_below_self (base : Location) : ¬ Below base base := by
  rintro ⟨name, more, same⟩
  have sizes := congrArg List.length same
  rw [List.length_append, List.length_cons] at sizes
  omega

/-- What is below a location, seen from above it. -/
theorem below_append_iff (front base names : Location) :
    Below (front ++ base) (front ++ names) ↔ ∃ name more, names = base ++ name :: more := by
  simp only [Below, List.append_assoc, List.append_cancel_left_eq]

/-- The names that are left when slashes and backslashes come off the start of a path. -/
def bared : List Text → List Text
  | [] => []
  | name :: rest =>
    let left := name.dropWhile (· == '\\')
    if left.isEmpty then bared rest else left :: rest

/-- Names that are left stay names, but for the first. -/
theorem bared_cases {names : List Text} (named : ∀ name ∈ names, LeadsDown name) :
    bared names = [] ∨
      ∃ first rest, bared names = first :: rest ∧ Solid first ∧ ∀ name ∈ rest, LeadsDown name := by
  induction names with
  | nil => exact Or.inl rfl
  | cons name rest inductionHypothesis =>
    have later : ∀ other ∈ rest, LeadsDown other :=
      fun other listed => named other (List.mem_cons_of_mem name listed)
    simp only [bared]
    split
    · exact inductionHypothesis later
    · next left =>
      refine Or.inr ⟨_, rest, rfl, ⟨by simpa using left, ?_⟩, later⟩
      intro slash
      exact (named name List.mem_cons_self).unslashed ((List.dropWhile_sublist _).subset slash)

/-- Nothing is lost of names of which the first does not start with a backslash. -/
theorem bared_eq_self {name : Text} {rest : List Text} (nonempty : name ≠ [])
    (plain : name.head? ≠ some '\\') : bared (name :: rest) = name :: rest := by
  have kept : name.dropWhile (· == '\\') = name := by
    cases name with
    | nil => rfl
    | cons char more =>
      apply List.dropWhile_cons_of_neg
      simpa using plain
  simp [bared, kept, nonempty]

/-- Only backslashes come off a text without slashes. -/
theorem withoutRoot_of_unslashed {text : Text} (plain : '/' ∉ text) :
    withoutRoot text = text.dropWhile (· == '\\') := by
  induction text with
  | nil => rfl
  | cons char rest inductionHypothesis =>
    obtain ⟨here, later⟩ := not_or.mp (List.mem_cons.not.mp plain)
    have other : (char == '/') = false := by simpa using Ne.symm here
    rw [withoutRoot, List.dropWhile_cons, List.dropWhile_cons, other, Bool.false_or,
      ← inductionHypothesis later]
    rfl

/-- Slashes and backslashes come off the start of joined names as they come off the names.

Induct over the names. A name that comes off whole lets the slash after it come off too. -/
theorem withoutRoot_join {names : List Text} (named : ∀ name ∈ names, LeadsDown name) :
    withoutRoot (Text.join ['/'] names) = Text.join ['/'] (bared names) := by
  induction names with
  | nil => rfl
  | cons name rest inductionHypothesis =>
    have later : ∀ other ∈ rest, LeadsDown other :=
      fun other listed => named other (List.mem_cons_of_mem name listed)
    have own := withoutRoot_of_unslashed (named name List.mem_cons_self).unslashed
    cases rest with
    | nil =>
      have alone : ∀ text : Text, Text.join ['/'] [text] = text :=
        fun text => List.intercalate_singleton
      rw [alone, own, bared]
      by_cases gone : (name.dropWhile (· == '\\')).isEmpty = true
      · simp only [gone, ↓reduceIte]
        exact List.isEmpty_iff.mp gone
      · simp only [gone, Bool.false_eq_true, ↓reduceIte, alone]
    | cons next others =>
      have cut : ∀ first : Text, Text.join ['/'] (first :: next :: others) =
          first ++ '/' :: Text.join ['/'] (next :: others) := by
        intro first
        rw [Text.join, List.intercalate_cons_cons, List.append_assoc]
        rfl
      rw [withoutRoot] at own
      rw [cut, withoutRoot, List.dropWhile_append, own, bared]
      by_cases gone : (name.dropWhile (· == '\\')).isEmpty = true
      · simp only [gone, ↓reduceIte, ← inductionHypothesis later, withoutRoot]
        exact List.dropWhile_cons_of_pos rfl
      · simp only [gone, Bool.false_eq_true, ↓reduceIte, cut]

/-- What is nested of a path in shortest form: its names without what comes off the start. -/
theorem withoutRoot_eq {path : Text} (shortest : normalize path = path)
    (absolute : isAbsolute path = true) :
    withoutRoot path = Text.join ['/'] (bared (place path)) := by
  have named : ∀ name ∈ place path, LeadsDown name :=
    fun name listed => leadsDown_of_mem_place listed
  have slashes : ∀ char ∈ rootSlashes path, (char == '/' || char == '\\') = true := by
    rcases rootSlashes_of_isAbsolute absolute with one | two
    · simp [one, Letter.slash]
    · simp [two, Letter.slash]
  have whole : rootSlashes path ++ Text.join ['/'] (place path) = path :=
    (normalize_of_isAbsolute absolute).symm.trans shortest
  calc withoutRoot path
      = withoutRoot (rootSlashes path ++ Text.join ['/'] (place path)) := by rw [whole]
    _ = withoutRoot (Text.join ['/'] (place path)) := List.dropWhile_append_of_pos slashes
    _ = Text.join ['/'] (bared (place path)) := withoutRoot_join named

/-- Joined components are found again, and together they are a relative path. -/
theorem Solid.joined {pieces : List Text} (solid : ∀ piece ∈ pieces, Solid piece) :
    components (Text.join ['/'] pieces) = pieces ∧
      isAbsolute (Text.join ['/'] pieces) = false := by
  cases pieces with
  | nil => exact ⟨rfl, rfl⟩
  | cons piece rest =>
    constructor
    · have cut : Text.splitOn '/' (Text.join ['/'] (piece :: rest)) = piece :: rest :=
        Text.splitOn_join (fun other listed => (solid other listed).2) (List.cons_ne_nil _ _)
      rw [components]
      change (Text.splitOn '/' _).filter _ = _
      rw [cut, List.filter_eq_self]
      intro other listed
      simpa using (solid other listed).1
    · have first := solid piece List.mem_cons_self
      obtain ⟨char, more, rfl⟩ := List.exists_cons_of_ne_nil first.1
      have starts : Text.join ['/'] ((char :: more) :: rest) =
          char :: Text.join ['/'] (more :: rest) := List.intercalate_cons_cons_left
      rw [starts]
      exact first.relative

/-- Replacing colons leaves a component one. -/
theorem Solid.plain {piece : Text} (solid : Solid piece) : Solid (plainName piece) := by
  constructor
  · simpa [Text.replaceChar] using solid.1
  · intro slash
    obtain ⟨char, listed, becomes⟩ := List.mem_map.mp slash
    split at becomes
    · cases becomes
    · exact solid.2 (becomes ▸ listed)

/-- What is nested of a file's path: the names that are left of its own, with an underscore for
every colon. -/
def nested (path : Text) : List Text := (bared (place path)).map plainName

/-- All of it are components, and names but for the first. -/
theorem nested_cases (path : Text) :
    nested path = [] ∨
      ∃ first rest, nested path = first :: rest ∧ Solid first ∧ ∀ name ∈ rest, LeadsDown name := by
  have named : ∀ name ∈ place path, LeadsDown name :=
    fun name listed => leadsDown_of_mem_place listed
  rw [nested]
  rcases bared_cases named with none | ⟨first, rest, left, solid, later⟩
  · rw [none]
    exact Or.inl rfl
  · rw [left]
    exact Or.inr ⟨plainName first, rest.map plainName, rfl, solid.plain,
      leadsDown_map_plainName later⟩

/-- The components of a scratch copy's path: those of the root, the architecture, and what is
nested of the file's own path. -/
theorem components_scratchPath {architecture path : Text} (root : Text)
    (single : LeadsDown architecture) (shortest : normalize path = path)
    (absolute : isAbsolute path = true) :
    components (scratchPath root architecture path) =
      components root ++ architecture :: nested path := by
  have solid : ∀ piece ∈ nested path, Solid piece := by
    rcases nested_cases path with none | ⟨first, rest, left, solid, later⟩
    · simp [none]
    · rw [left, List.forall_mem_cons]
      exact ⟨solid, fun name listed => ⟨(later name listed).nonempty, (later name listed).unslashed⟩⟩
  have own : Text.replaceChar ':' '_' (withoutRoot path) = Text.join ['/'] (nested path) := by
    rw [withoutRoot_eq shortest absolute]
    exact plainName_join _
  have directory : Solid architecture := ⟨single.nonempty, single.unslashed⟩
  obtain ⟨inner, relative⟩ := Solid.joined solid
  obtain ⟨alone, beneath⟩ := Solid.joined (List.forall_mem_singleton.mpr directory)
  rw [show Text.join ['/'] [architecture] = architecture from List.intercalate_singleton]
    at alone beneath
  rw [scratchPath, own, joinAll, List.foldl_cons, List.foldl_cons, List.foldl_nil,
    components_join _ relative, components_join _ beneath, alone, inner, List.append_assoc]
  rfl

/-- Whether what is nested below the directory of an architecture stays below it. A first
component that leads nowhere needs a name after it, and one that leads up needs the
architecture and a name. -/
def StaysBelow (architecture : Text) : List Text → Prop
  | [] => False
  | first :: rest =>
    if first = here then rest ≠ []
    else if first = up then ∃ name more, rest = architecture :: name :: more
    else True

/-- Where components lead of which all but the first are names. -/
theorem foldl_onward_cons (location : Location) (first : Text) {rest : List Text}
    (named : ∀ name ∈ rest, LeadsDown name) :
    (first :: rest).foldl onward location = onward location first ++ rest := by
  rw [List.foldl_cons, foldl_onward named]

/-- The directory of an architecture is in the root. -/
theorem foldl_directory (root : Text) {architecture : Text} (single : LeadsDown architecture) :
    (components root ++ [architecture]).foldl onward [] = place root ++ [architecture] := by
  rw [List.foldl_append, ← place_eq_foldl_components]
  exact single.onward (place root)

/-- A scratch copy is below the directory of its architecture if what is nested stays there. -/
theorem below_scratchPath_iff {architecture path : Text} (root : Text)
    (single : LeadsDown architecture) (shortest : normalize path = path)
    (absolute : isAbsolute path = true) :
    Below (place root ++ [architecture]) (place (scratchPath root architecture path)) ↔
      StaysBelow architecture (nested path) := by
  have location : place (scratchPath root architecture path) =
      (nested path).foldl onward (place root ++ [architecture]) := by
    rw [place_eq_foldl_components, components_scratchPath root single shortest absolute,
      List.append_cons, List.foldl_append, foldl_directory root single]
  rw [location]
  rcases nested_cases path with none | ⟨first, rest, whole, solid, named⟩
  · rw [none]
    exact iff_of_false (not_below_self _) id
  · rw [whole, foldl_onward_cons _ first named, onward, StaysBelow]
    by_cases stays : first = here
    · rw [if_pos (Or.inr stays), if_pos stays]
      cases rest with
      | nil =>
        rw [List.append_nil]
        exact iff_of_false (not_below_self _) (absurd rfl)
      | cons name more => exact iff_of_true ⟨name, more, rfl⟩ (List.cons_ne_nil name more)
    rw [if_neg (not_or.mpr ⟨solid.1, stays⟩), if_neg stays]
    by_cases goesUp : first = up
    · rw [if_pos goesUp, if_pos goesUp, List.dropLast_concat]
      exact below_append_iff (place root) [architecture] rest
    · rw [if_neg goesUp, if_neg goesUp, List.append_assoc]
      exact iff_of_true ⟨first, rest, rfl⟩ trivial

/-- Components on the way to what stays below the directory lead to places below it or on the
way to it.

Only those beyond the directory are in question. If the first of them leads up, the one after
it is the architecture and leads back. -/
theorem below_or_on_way {root architecture path : Text} (single : LeadsDown architecture)
    (stays : StaysBelow architecture (nested path)) {front : List Text}
    (above : front <+: components root ++ architecture :: nested path) :
    Below (place root ++ [architecture]) (front.foldl onward []) ∨
      ∃ before, before <+: components root ++ [architecture] ∧
        front.foldl onward [] = before.foldl onward [] := by
  rw [List.append_cons] at above
  rcases List.prefix_or_prefix_of_prefix above (List.prefix_append _ (nested path)) with
    before | ⟨beyond, rfl⟩
  · exact Or.inr ⟨front, before, rfl⟩
  have within : beyond <+: nested path := (List.prefix_append_right_inj _).mp above
  have directory := foldl_directory root single
  have parent : (components root).foldl onward [] = place root :=
    (place_eq_foldl_components root).symm
  rw [List.foldl_append, directory]
  cases beyond with
  | nil => exact Or.inr ⟨_, List.prefix_rfl, directory.symm⟩
  | cons first inner =>
    obtain ⟨others, whole⟩ := within
    rcases nested_cases path with none | ⟨first', rest, shape, solid, named⟩
    · rw [none] at whole
      cases whole
    rw [shape, List.cons_append] at whole
    obtain ⟨rfl, rfl⟩ := List.cons.inj whole
    have innerNamed : ∀ name ∈ inner, LeadsDown name :=
      fun name listed => named name (List.mem_append_left others listed)
    rw [foldl_onward_cons _ first innerNamed, onward]
    rw [shape, StaysBelow] at stays
    by_cases nowhere : first = here
    · rw [if_pos (Or.inr nowhere)]
      cases inner with
      | nil => exact Or.inr ⟨_, List.prefix_rfl, by rw [directory, List.append_nil]⟩
      | cons name more => exact Or.inl ⟨name, more, rfl⟩
    rw [if_neg (not_or.mpr ⟨solid.1, nowhere⟩)]
    rw [if_neg nowhere] at stays
    by_cases goesUp : first = up
    · rw [if_pos goesUp, List.dropLast_concat]
      rw [if_pos goesUp] at stays
      obtain ⟨name, more, back⟩ := stays
      cases inner with
      | nil => exact Or.inr ⟨_, List.prefix_append _ _, by rw [parent, List.append_nil]⟩
      | cons second inner =>
        obtain ⟨rfl, _⟩ := List.cons.inj back
        cases inner with
        | nil => exact Or.inr ⟨_, List.prefix_rfl, directory.symm⟩
        | cons third inner => exact Or.inl ⟨third, inner, by simp⟩
    · rw [if_neg goesUp, List.append_assoc]
      exact Or.inl ⟨first, inner, rfl⟩

/-- Names of which the first does not start with a backslash stay below the directory. -/
theorem staysBelow_of_plain (architecture : Text) {path name : Text} {rest : List Text}
    (names : place path = name :: rest) (plain : name.head? ≠ some '\\') :
    StaysBelow architecture (nested path) := by
  have down : LeadsDown name :=
    leadsDown_of_mem_place (names ▸ List.mem_cons_self : name ∈ place path)
  rw [nested, names, bared_eq_self down.nonempty plain, List.map_cons, StaysBelow,
    if_neg down.plain.notHere, if_neg down.plain.notUp]
  trivial

end RegionBuild.Path
