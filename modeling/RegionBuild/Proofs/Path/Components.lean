import Mathlib.Data.List.Basic
import RegionBuild.Path
import RegionBuild.Proofs.Text.Pieces

/-!
# Where the components of a path lead

For any kind of letter, the components of a path lead from the root to a place: a name leads
down, a parent component leads up, and all else leads nowhere. The shortest form of an
absolute path is slashes and the names of its place.
-/

namespace RegionBuild.Path

variable {α : Type} [DecidableEq α] [Letter α]

/-- A component that leads down. -/
structure LeadsDown (component : List α) : Prop where
  nonempty : component ≠ []
  notHere : component ≠ here
  notUp : component ≠ up
  unslashed : Letter.slash ∉ component

/-- One component on from a place. -/
def onward (place : List (List α)) (component : List α) : List (List α) :=
  if component = [] ∨ component = here then place
  else if component = up then place.dropLast
  else place ++ [component]

/-- The place that a path leads to from the root. -/
def place (path : List α) : List (List α) := (Text.splitOn Letter.slash path).foldl onward []

/-- A name leads down. -/
theorem LeadsDown.onward {component : List α} (down : LeadsDown component)
    (place : List (List α)) : Path.onward place component = place ++ [component] := by
  unfold Path.onward
  rw [if_neg (not_or.mpr ⟨down.nonempty, down.notHere⟩), if_neg down.notUp]

/-- Names lead down one after the other. -/
theorem foldl_onward {names : List (List α)} (down : ∀ name ∈ names, LeadsDown name)
    (place : List (List α)) : names.foldl onward place = place ++ names := by
  induction names generalizing place with
  | nil => exact (List.append_nil place).symm
  | cons name rest inductionHypothesis =>
    rw [List.foldl_cons, (down name List.mem_cons_self).onward,
      inductionHypothesis fun other listed => down other (List.mem_cons_of_mem _ listed)]
    simp

/-- Empty components lead nowhere. -/
theorem foldl_onward_blank {pieces : List (List α)} (blank : ∀ piece ∈ pieces, piece = [])
    (place : List (List α)) : pieces.foldl onward place = place := by
  induction pieces with
  | nil => rfl
  | cons piece rest inductionHypothesis =>
    rw [List.foldl_cons, blank piece List.mem_cons_self]
    exact inductionHypothesis fun other listed => blank other (List.mem_cons_of_mem piece listed)

/-- Parent components lead up one after the other. -/
theorem foldl_onward_up (count : Nat) (place : List (List α)) :
    (List.replicate count up).foldl onward place = place.take (place.length - count) := by
  induction count generalizing place with
  | zero => simp
  | succ count inductionHypothesis =>
    have step : onward place up = place.dropLast := by
      rw [onward, if_neg (by simp [up, here]), if_pos rfl]
    rw [List.replicate_succ, List.foldl_cons, step, inductionHypothesis, List.dropLast_eq_take,
      List.take_take, List.length_take]
    congr 1
    omega

/-- Components lead to no names but their own. -/
theorem mem_foldl_onward {pieces place : List (List α)} {name : List α}
    (reached : name ∈ pieces.foldl onward place) : name ∈ place ∨ name ∈ pieces := by
  induction pieces generalizing place with
  | nil => exact Or.inl reached
  | cons piece rest inductionHypothesis =>
    rcases inductionHypothesis reached with before | later
    · rw [onward] at before
      split at before
      · exact Or.inl before
      · split at before
        · exact Or.inl ((List.dropLast_sublist place).subset before)
        · rcases List.mem_append.mp before with earlier | here
          · exact Or.inl earlier
          · exact Or.inr (List.mem_singleton.mp here ▸ List.mem_cons_self)
    · exact Or.inr (List.mem_cons_of_mem piece later)

/-- Names are all that is left after any number of components. -/
theorem leadsDown_foldl {pieces place : List (List α)}
    (unslashed : ∀ piece ∈ pieces, Letter.slash ∉ piece) (down : ∀ name ∈ place, LeadsDown name) :
    ∀ name ∈ pieces.foldl onward place, LeadsDown name := by
  induction pieces generalizing place with
  | nil => exact down
  | cons piece rest inductionHypothesis =>
    apply inductionHypothesis fun other listed => unslashed other (List.mem_cons_of_mem _ listed)
    intro name reached
    rw [onward] at reached
    split at reached
    · exact down name reached
    next moves =>
    split at reached
    · exact down name ((List.dropLast_sublist place).subset reached)
    next forward =>
    rcases List.mem_append.mp reached with earlier | last
    · exact down name earlier
    · rw [List.mem_singleton.mp last]
      exact ⟨(not_or.mp moves).1, (not_or.mp moves).2, forward,
        unslashed piece List.mem_cons_self⟩

/-- A place is named by names. -/
theorem leadsDown_of_mem_place {path name : List α} (listed : name ∈ place path) :
    LeadsDown name :=
  leadsDown_foldl (fun _ piece => Text.notMem_of_mem_splitOn piece) (by simp) name listed

/-- Resolving goes where the components lead, as long as only names were kept so far. -/
theorem reverse_foldl_resolveStep {pieces before : List (List α)}
    (unslashed : ∀ piece ∈ pieces, Letter.slash ∉ piece) (down : ∀ name ∈ before, LeadsDown name) :
    (pieces.foldl (resolveStep true) before).reverse = pieces.foldl onward before.reverse := by
  induction pieces generalizing before with
  | nil => rfl
  | cons piece rest inductionHypothesis =>
    have step : (resolveStep true before piece).reverse = onward before.reverse piece := by
      simp only [resolveStep, onward]
      by_cases stays : piece = [] ∨ piece = here
      · rw [if_pos stays, if_pos stays]
      rw [if_neg stays, if_neg stays]
      by_cases goesUp : piece = up
      · rw [if_pos goesUp, if_pos goesUp]
        cases before with
        | nil => rfl
        | cons last more => simp [(down last List.mem_cons_self).notUp]
      · rw [if_neg goesUp, if_neg goesUp, List.reverse_cons]
    have single : ∀ other ∈ [piece], Letter.slash ∉ other := by
      simpa using unslashed piece List.mem_cons_self
    have kept := @leadsDown_foldl α _ _ [piece] before.reverse single (by simpa using down)
    rw [List.foldl_cons, List.foldl_cons, ← step]
    apply inductionHypothesis
    · exact fun other listed => unslashed other (List.mem_cons_of_mem piece listed)
    · intro name listed
      apply kept
      rw [List.foldl_cons, List.foldl_nil, ← step, List.mem_reverse]
      exact listed

/-- What is left after resolving an absolute path is where it leads. -/
theorem resolve_eq_place (path : List α) : resolve true path = place path :=
  reverse_foldl_resolveStep (fun _ listed => Text.notMem_of_mem_splitOn listed) (by simp)

/-- The slashes at the start of an absolute path count as one or two. -/
theorem rootSlashes_of_isAbsolute {path : List α} (absolute : isAbsolute path = true) :
    rootSlashes path = [Letter.slash] ∨ rootSlashes path = [Letter.slash, Letter.slash] := by
  rw [rootSlashes]
  split
  · next none =>
    cases path with
    | nil => cases absolute
    | cons first rest =>
      have slash : first = Letter.slash := by simpa [isAbsolute] using absolute
      simp [slash] at none
  · exact Or.inr rfl
  · exact Or.inl rfl

/-- The shortest form of an absolute path: its slashes and the names of its place. -/
theorem normalize_of_isAbsolute {path : List α} (absolute : isAbsolute path = true) :
    normalize path = rootSlashes path ++ Text.join [Letter.slash] (place path) := by
  rw [normalize, absolute, resolve_eq_place]
  apply if_neg
  rcases rootSlashes_of_isAbsolute absolute with one | two
  · simp [one]
  · simp [two]

/-- The shortest form of an absolute path is absolute. -/
theorem isAbsolute_normalize {path : List α} (absolute : isAbsolute path = true) :
    isAbsolute (normalize path) = true := by
  rw [normalize_of_isAbsolute absolute]
  rcases rootSlashes_of_isAbsolute absolute with one | two
  · simp [one, isAbsolute]
  · simp [two, isAbsolute]

/-- An absolute path in its shortest form has empty components before the names of its place,
and one if there is no name. -/
theorem splitOn_normalize {path : List α} (absolute : isAbsolute path = true) :
    ∃ front, (∀ piece ∈ front, piece = []) ∧
      Text.splitOn Letter.slash (normalize path) = front ++ place path := by
  have slashed : ∃ front, (∀ piece ∈ front, piece = []) ∧
      Text.splitOn Letter.slash (normalize path) =
        front ++ Text.splitOn Letter.slash (Text.join [Letter.slash] (place path)) := by
    rw [normalize_of_isAbsolute absolute]
    rcases rootSlashes_of_isAbsolute absolute with one | two
    · exact ⟨[[]], by simp, by simp [one, Text.splitOn]⟩
    · exact ⟨[[], []], by simp, by simp [two, Text.splitOn]⟩
  obtain ⟨front, blank, split⟩ := slashed
  by_cases none : place path = []
  · refine ⟨front ++ [[]], ?_, ?_⟩
    · intro piece listed
      rcases List.mem_append.mp listed with before | last
      · exact blank piece before
      · exact List.mem_singleton.mp last
    · rw [split, none, List.append_nil]
      rfl
  · rw [Text.splitOn_join (fun name listed => (leadsDown_of_mem_place listed).unslashed) none]
      at split
    exact ⟨front, blank, split⟩

/-- The components of the shortest form of an absolute path are the names of its place. -/
theorem components_normalize {path : List α} (absolute : isAbsolute path = true) :
    components (normalize path) = place path := by
  obtain ⟨front, blank, split⟩ := splitOn_normalize absolute
  have skipped : front.filter (fun component => !component.isEmpty) = [] := by
    rw [List.filter_eq_nil_iff]
    intro piece listed
    simp [blank piece listed]
  have kept : (place path).filter (fun component => !component.isEmpty) = place path := by
    rw [List.filter_eq_self]
    intro name listed
    simpa using (leadsDown_of_mem_place listed).nonempty
  rw [components, split, List.filter_append, skipped, kept, List.nil_append]

/-- The shortest form of an absolute path leads to the same place. -/
theorem place_normalize {path : List α} (absolute : isAbsolute path = true) :
    place (normalize path) = place path := by
  obtain ⟨front, blank, split⟩ := splitOn_normalize absolute
  rw [place, split, List.foldl_append, foldl_onward_blank blank,
    foldl_onward fun name => leadsDown_of_mem_place, List.nil_append]

/-- What comes after a slash leads on from where what comes before it leads. -/
theorem place_slash (front path : List α) :
    place (front ++ Letter.slash :: path) =
      (Text.splitOn Letter.slash path).foldl onward (place front) := by
  rw [place, Text.splitOn_append, List.foldl_append]
  rfl

/-- A relative path inside another leads on from where the other leads. -/
theorem place_join (base : List α) {path : List α} (relative : isAbsolute path = false) :
    place (join base path) = (Text.splitOn Letter.slash path).foldl onward (place base) := by
  rw [join, relative, if_neg Bool.false_ne_true]
  rcases base.eq_nil_or_concat' with rfl | ⟨front, last, rfl⟩
  · rfl
  by_cases slash : last = Letter.slash
  · subst slash
    have ending : place (front ++ [Letter.slash]) = place front := place_slash front []
    rw [if_pos (by simp), ending, List.append_assoc]
    exact place_slash front path
  · rw [if_neg (by simp [slash])]
    exact place_slash (front ++ [last]) path

/-- A path inside an absolute one is absolute. -/
theorem isAbsolute_join_left {base : List α} (absolute : isAbsolute base = true)
    (path : List α) : isAbsolute (join base path) = true := by
  rw [join]
  split
  · assumption
  · cases base with
    | nil => cases absolute
    | cons first rest => split <;> exact absolute

/-- Only the components that are not empty lead anywhere. -/
theorem place_eq_foldl_components (path : List α) :
    place path = (components path).foldl onward [] := by
  rw [components, List.foldl_filter, place]
  congr 1
  funext place component
  cases component with
  | nil => rfl
  | cons first rest => rfl

/-- What comes after a slash adds its components. -/
theorem components_slash (front path : List α) :
    components (front ++ Letter.slash :: path) = components front ++ components path := by
  rw [components, Text.splitOn_append, List.filter_append]
  rfl

/-- A relative path inside another adds its components. -/
theorem components_join (base : List α) {path : List α} (relative : isAbsolute path = false) :
    components (join base path) = components base ++ components path := by
  rw [join, relative, if_neg Bool.false_ne_true]
  rcases base.eq_nil_or_concat' with rfl | ⟨front, last, rfl⟩
  · rfl
  by_cases slash : last = Letter.slash
  · subst slash
    have ending : components (front ++ [Letter.slash]) = components front := by
      rw [components_slash]
      exact List.append_nil _
    rw [if_pos (by simp), ending, List.append_assoc]
    exact components_slash front path
  · rw [if_neg (by simp [slash])]
    exact components_slash (front ++ [last]) path

section Renaming

variable {β : Type} [DecidableEq β] [Letter β] {rename : α → β}

/-- Letters are renamed so that slash and dot keep their meaning. -/
structure Renames (rename : α → β) : Prop where
  injective : Function.Injective rename
  slash : rename Letter.slash = Letter.slash
  dot : rename Letter.dot = Letter.dot

/-- Renamed components lead to the renamed place. -/
theorem Renames.onward (renames : Renames rename) (place : List (List α)) (component : List α) :
    Path.onward (place.map (List.map rename)) (component.map rename) =
      (Path.onward place component).map (List.map rename) := by
  have isHere : component.map rename = here ↔ component = here := by
    have same : (here : List α).map rename = here := by simp [here, renames.dot]
    rw [← same, renames.injective.list_map.eq_iff]
  have isUp : component.map rename = up ↔ component = up := by
    have same : (up : List α).map rename = up := by simp [up, renames.dot]
    rw [← same, renames.injective.list_map.eq_iff]
  simp only [Path.onward, List.map_eq_nil_iff, isHere, isUp]
  split
  · rfl
  · split
    · rw [List.map_dropLast]
    · rw [List.map_append, List.map_singleton]

/-- A renamed path leads to the renamed place. -/
theorem Renames.place (renames : Renames rename) (path : List α) :
    Path.place (path.map rename) = (Path.place path).map (List.map rename) := by
  have steps : ∀ pieces place : List (List α),
      (pieces.map (List.map rename)).foldl Path.onward (place.map (List.map rename)) =
        (pieces.foldl Path.onward place).map (List.map rename) := by
    intro pieces
    induction pieces with
    | nil => exact fun place => rfl
    | cons piece rest inductionHypothesis =>
      intro place
      rw [List.map_cons, List.foldl_cons, renames.onward, inductionHypothesis]
      rfl
  rw [Path.place, ← renames.slash, Text.splitOn_map renames.injective]
  exact steps _ []

/-- Renaming keeps whether a path starts at the root. -/
theorem Renames.isAbsolute (renames : Renames rename) (path : List α) :
    Path.isAbsolute (path.map rename) = Path.isAbsolute path := by
  cases path with
  | nil => rfl
  | cons first rest =>
    simp only [Path.isAbsolute, List.map_cons, List.head?_cons, ← renames.slash]
    rw [Bool.eq_iff_iff]
    simp [renames.injective.eq_iff]

/-- Renaming keeps how paths are joined. -/
theorem Renames.join (renames : Renames rename) (base path : List α) :
    Path.join (base.map rename) (path.map rename) = (Path.join base path).map rename := by
  have ends : ((base.map rename).getLast? == some Letter.slash) =
      (base.getLast? == some Letter.slash) := by
    rw [List.getLast?_map, ← renames.slash, Bool.eq_iff_iff]
    cases base.getLast? <;> simp [renames.injective.eq_iff]
  rw [Path.join, Path.join, renames.isAbsolute, ends, List.isEmpty_map]
  split
  · rfl
  · split
    · rw [List.map_append]
    · rw [List.map_append, List.map_cons, renames.slash]

end Renaming

end RegionBuild.Path
