import RegionBuild.Proofs.Path.Components

/-!
# The way from one place to another

The path from a directory to a place goes up until both are below, and then down. Followed
from the directory it leads to the place, whatever the two have in common: nothing, all of
the directory, or all of the place.
-/

namespace RegionBuild.Path

variable {α : Type} [DecidableEq α] [Letter α]

/-- A component that can be joined to others and is found again: not empty and without a
slash. -/
def Solid (component : List α) : Prop := component ≠ [] ∧ Letter.slash ∉ component

/-- Such a component is no path from the root. -/
theorem Solid.relative {component : List α} (solid : Solid component) :
    isAbsolute component = false := by
  obtain ⟨first, more, rfl⟩ := List.exists_cons_of_ne_nil solid.1
  have plain : first ≠ Letter.slash := fun slash => solid.2 (slash ▸ List.mem_cons_self)
  simpa [isAbsolute] using plain

omit [DecidableEq α] in
/-- It ends in no slash. -/
theorem Solid.ended {component : List α} (solid : Solid component) :
    component.getLast? ≠ some Letter.slash :=
  fun ends => solid.2 (List.mem_of_getLast? ends)

/-- It is a path of one component. -/
theorem Solid.splitOn {component : List α} (solid : Solid component) :
    Text.splitOn Letter.slash component = [component] := by
  rw [Text.splitOn_eq]
  exact List.splitOn_eq_singleton solid.2

/-- Steps that are joined to a path are its further components, and it starts as before.

Induct over the steps. Every step leaves a path that ends in no slash. -/
theorem splitOn_joinAll {base : List α} (filled : base ≠ [])
    (ended : base.getLast? ≠ some Letter.slash) {steps : List (List α)}
    (solid : ∀ step ∈ steps, Solid step) :
    Text.splitOn Letter.slash (joinAll base steps) = Text.splitOn Letter.slash base ++ steps ∧
      isAbsolute (joinAll base steps) = isAbsolute base := by
  induction steps generalizing base with
  | nil => exact ⟨(List.append_nil _).symm, rfl⟩
  | cons step rest inductionHypothesis =>
    have isSolid := solid step List.mem_cons_self
    have joined : join base step = base ++ Letter.slash :: step := by
      rw [join, isSolid.relative, if_neg Bool.false_ne_true, if_neg (by simp [filled, ended])]
    have last : (base ++ Letter.slash :: step).getLast? ≠ some Letter.slash := by
      rw [List.getLast?_append_cons, List.getLast?_cons_of_ne_nil isSolid.1]
      exact isSolid.ended
    obtain ⟨pieces, starts⟩ := @inductionHypothesis (base ++ Letter.slash :: step) (by simp) last
      fun other listed => solid other (List.mem_cons_of_mem step listed)
    rw [joinAll, List.foldl_cons, joined]
    refine ⟨?_, ?_⟩
    · rw [← joinAll, pieces, Text.splitOn_append, isSolid.splitOn, List.append_assoc]
      rfl
    · rw [← joinAll, starts]
      cases base with
      | nil => exact absurd rfl filled
      | cons first more => rfl

/-- Steps inside a directory lead on from where it is. -/
theorem place_join_joinAll (base : List α) {first : List α} {rest : List (List α)}
    (solid : ∀ step ∈ first :: rest, Solid step) :
    place (join base (joinAll first rest)) = (first :: rest).foldl onward (place base) := by
  have isSolid := solid first List.mem_cons_self
  obtain ⟨pieces, starts⟩ := splitOn_joinAll isSolid.1 isSolid.ended
    fun step listed => solid step (List.mem_cons_of_mem first listed)
  rw [place_join base (starts.trans isSolid.relative), pieces, isSolid.splitOn]
  rfl

/-- The steps from one place to another. -/
def stepsBetween (start target : List (List α)) : List (List α) :=
  List.replicate (start.length - sharedComponents start target) up ++
    target.drop (sharedComponents start target)

omit [Letter α] in
/-- What two places share is the same of both. -/
theorem take_sharedComponents (start target : List (List α)) :
    sharedComponents start target ≤ start.length ∧
      start.take (sharedComponents start target) = target.take (sharedComponents start target) := by
  induction start generalizing target with
  | nil => simp [sharedComponents]
  | cons name rest inductionHypothesis =>
    cases target with
    | nil => simp [sharedComponents]
    | cons other others =>
      rw [sharedComponents]
      by_cases same : name = other
      · obtain ⟨bound, equal⟩ := inductionHypothesis others
        rw [if_pos same, List.take_succ_cons, List.take_succ_cons, same, equal]
        exact ⟨Nat.succ_le_succ bound, rfl⟩
      · rw [if_neg same]
        exact ⟨Nat.zero_le _, rfl⟩

/-- The steps lead from the one place to the other. -/
theorem foldl_stepsBetween (start : List (List α)) {target : List (List α)}
    (down : ∀ name ∈ target, LeadsDown name) :
    (stepsBetween start target).foldl onward start = target := by
  obtain ⟨bound, equal⟩ := take_sharedComponents start target
  rw [stepsBetween, List.foldl_append, foldl_onward_up, Nat.sub_sub_self bound, equal,
    foldl_onward fun name listed => down name (List.mem_of_mem_drop listed),
    List.take_append_drop]

/-- The path between two places is their steps joined, or the directory itself if there is no
step. -/
theorem between_cases (start target : List (List α)) :
    (stepsBetween start target = [] ∧ between start target = here) ∨
      ∃ first rest, stepsBetween start target = first :: rest ∧
        between start target = joinAll first rest := by
  unfold between
  cases steps : stepsBetween start target with
  | nil =>
    refine Or.inl ⟨rfl, ?_⟩
    rw [stepsBetween] at steps
    simp only [steps]
  | cons first rest =>
    refine Or.inr ⟨first, rest, rfl, ?_⟩
    rw [stepsBetween] at steps
    simp only [steps]

/-- The path of a file as seen from a directory is the one between their places. -/
theorem relative_eq {directory path : List α} (rooted : isAbsolute directory = true)
    (absolute : isAbsolute path = true) :
    relative directory (normalize path) directory = between (place directory) (place path) := by
  have seen : ∀ {file : List α}, isAbsolute file = true →
      components (Path.absolute directory file) = place file := by
    intro file starts
    rw [Path.absolute, if_pos starts, components_normalize starts]
  rw [relative, seen rooted, seen (isAbsolute_normalize absolute), place_normalize absolute]

section Apart

variable (apart : (Letter.slash : α) ≠ Letter.dot)
include apart

omit [DecidableEq α] in
/-- Both components that are no names are found again. -/
theorem solid_dots : Solid (here : List α) ∧ Solid (up : List α) := by
  simp [Solid, here, up, apart]

/-- All steps are found again. -/
theorem solid_stepsBetween (start : List (List α)) {target : List (List α)}
    (down : ∀ name ∈ target, LeadsDown name) : ∀ step ∈ stepsBetween start target, Solid step := by
  intro step listed
  rcases List.mem_append.mp listed with upward | downward
  · rw [List.eq_of_mem_replicate upward]
    exact (solid_dots apart).2
  · have name := down step (List.mem_of_mem_drop downward)
    exact ⟨name.nonempty, name.unslashed⟩

/-- The path from where a directory is to a place leads there from the directory. -/
theorem place_join_between (base : List α) {target : List (List α)}
    (down : ∀ name ∈ target, LeadsDown name) :
    place (join base (between (place base) target)) = target := by
  have reached := foldl_stepsBetween (place base) down
  have solid := solid_stepsBetween apart (place base) down
  rcases between_cases (place base) target with ⟨none, path⟩ | ⟨first, rest, steps, path⟩
  · have stays : place (join base here) = onward (place base) here :=
      @place_join_joinAll α _ _ base here [] (by simpa using (solid_dots apart).1)
    rw [none] at reached
    rw [path, stays, onward, if_pos (Or.inr rfl)]
    exact reached
  · rw [steps] at reached solid
    rw [path, place_join_joinAll base solid, reached]

/-- The path of a file as seen from a directory leads from the directory to the file. -/
theorem place_relative {directory path : List α} (rooted : isAbsolute directory = true)
    (absolute : isAbsolute path = true) :
    place (join directory (relative directory (normalize path) directory)) = place path := by
  rw [relative_eq rooted absolute]
  exact place_join_between apart directory fun name => leadsDown_of_mem_place

end Apart

end RegionBuild.Path
