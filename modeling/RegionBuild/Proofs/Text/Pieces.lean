import RegionBuild.Text.Basic

/-!
# Pieces between separators

Cutting a sequence at its separators and joining the pieces again undo each other, as long
as no piece holds a separator.
-/

namespace RegionBuild.Text

variable {α : Type} [DecidableEq α] {separator : α}

/-- There is always a piece. -/
theorem splitOn_ne_nil (separator : α) (text : List α) : splitOn separator text ≠ [] := by
  cases text with
  | nil => simp [splitOn]
  | cons char rest =>
    unfold splitOn
    split
    · exact List.cons_ne_nil _ _
    · split <;> exact List.cons_ne_nil _ _

/-- A separator ends the pieces before it. -/
theorem splitOn_append (separator : α) (front back : List α) :
    splitOn separator (front ++ separator :: back) =
      splitOn separator front ++ splitOn separator back := by
  induction front with
  | nil => simp [splitOn]
  | cons char rest inductionHypothesis =>
    by_cases same : char = separator
    · simp [splitOn, same, inductionHypothesis]
    · obtain ⟨piece, pieces, split⟩ := List.exists_cons_of_ne_nil (splitOn_ne_nil separator rest)
      simp [splitOn, same, inductionHypothesis, split]

/-- Cutting a text into pieces is what it is for lists in general. -/
theorem splitOn_eq (separator : α) (text : List α) :
    splitOn separator text = text.splitOn separator := by
  induction text with
  | nil => rfl
  | cons char rest inductionHypothesis =>
    obtain ⟨piece, pieces, cut⟩ :=
      List.exists_cons_of_ne_nil (List.splitOn_ne_nil separator rest)
    rw [splitOn, inductionHypothesis, List.splitOn_cons_eq_if_modifyHead, cut]
    by_cases same : char = separator
    · simp [same]
    · simp [same]

/-- Joined pieces are cut as they were joined, unless there is none. -/
theorem splitOn_join {pieces : List (List α)} (whole : ∀ piece ∈ pieces, separator ∉ piece)
    (nonempty : pieces ≠ []) : splitOn separator (join [separator] pieces) = pieces := by
  rw [splitOn_eq]
  exact List.splitOn_intercalate separator whole nonempty

/-- No piece holds the separator. -/
theorem notMem_of_mem_splitOn {text piece : List α} (listed : piece ∈ splitOn separator text) :
    separator ∉ piece := by
  induction text generalizing piece with
  | nil =>
    rw [List.mem_singleton.mp listed]
    exact List.not_mem_nil
  | cons char rest inductionHypothesis =>
    obtain ⟨first, pieces, cut⟩ := List.exists_cons_of_ne_nil (splitOn_ne_nil separator rest)
    rw [cut] at inductionHypothesis
    by_cases same : char = separator
    · rw [splitOn, if_pos same, cut] at listed
      rcases List.mem_cons.mp listed with rfl | later
      · exact List.not_mem_nil
      · exact inductionHypothesis later
    · rw [splitOn, if_neg same, cut] at listed
      rcases List.mem_cons.mp listed with rfl | later
      · have own := @inductionHypothesis first List.mem_cons_self
        rw [List.mem_cons, not_or]
        exact ⟨Ne.symm same, own⟩
      · exact inductionHypothesis (List.mem_cons_of_mem _ later)

/-- The first piece starts the text, and every piece occurs in it. -/
theorem splitOn_infix (separator : α) (text : List α) :
    (∀ first, (splitOn separator text).head? = some first → first <+: text) ∧
      ∀ piece ∈ splitOn separator text, piece <:+: text := by
  induction text with
  | nil => simp [splitOn]
  | cons char rest inductionHypothesis =>
    obtain ⟨starts, occurs⟩ := inductionHypothesis
    obtain ⟨first, pieces, cut⟩ := List.exists_cons_of_ne_nil (splitOn_ne_nil separator rest)
    have later : ∀ piece ∈ splitOn separator rest, piece <:+: char :: rest :=
      fun piece listed => (occurs piece listed).trans (List.suffix_cons char rest).isInfix
    by_cases same : char = separator
    · rw [splitOn, if_pos same]
      refine ⟨?_, List.forall_mem_cons.mpr ⟨?_, later⟩⟩
      · rintro _ ⟨⟩
        exact List.nil_prefix
      · exact List.nil_infix
    · have begins : char :: first <+: char :: rest :=
        (List.prefix_cons_inj char).mpr (starts first (by rw [cut, List.head?_cons]))
      rw [splitOn, if_neg same, cut]
      refine ⟨?_, List.forall_mem_cons.mpr ⟨begins.isInfix, ?_⟩⟩
      · rintro _ ⟨⟩
        exact begins
      · intro piece listed
        exact later piece (cut ▸ List.mem_cons_of_mem first listed)

/-- Pieces are renamed letter by letter, if no other letter is given the separator's name. -/
theorem splitOn_map {β : Type} [DecidableEq β] {rename : α → β}
    (injective : Function.Injective rename) (separator : α) (text : List α) :
    splitOn (rename separator) (text.map rename) =
      (splitOn separator text).map (List.map rename) := by
  induction text with
  | nil => rfl
  | cons char rest inductionHypothesis =>
    obtain ⟨first, pieces, cut⟩ := List.exists_cons_of_ne_nil (splitOn_ne_nil separator rest)
    rw [List.map_cons, splitOn, inductionHypothesis, splitOn, cut]
    by_cases same : char = separator
    · rw [if_pos same, if_pos (congrArg rename same)]
      rfl
    · rw [if_neg same, if_neg fun equal => same (injective equal)]
      rfl

end RegionBuild.Text
