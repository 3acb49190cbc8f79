import RegionBuild.Proofs.Text.Utf8
import RegionBuild.Text.Search

/-!
# What a search finds

A search over bytes finds a pattern exactly if the pattern stands somewhere in the
list, and it finds the first place. Bytes tell characters apart, so a text is found
among the bytes of another exactly if it occurs in the other, and where it first occurs
among the characters it first occurs among the bytes.
-/

namespace RegionBuild.Text

/-- A search succeeds exactly if the pattern occurs. -/
theorem find?_isSome_iff {α : Type} [BEq α] [LawfulBEq α] (pattern list : List α) :
    (find? pattern list).isSome = true ↔ pattern <:+: list := by
  induction list with
  | nil =>
    cases pattern with
    | nil => simp [find?]
    | cons first rest => simp [find?, List.isPrefixOf]
  | cons first rest inductionHypothesis =>
    rw [List.infix_cons_iff, ← List.isPrefixOf_iff_prefix, ← inductionHypothesis, find?]
    by_cases here : pattern.isPrefixOf (first :: rest) = true
    · simp [here]
    · simp [here]

/-- A text contains exactly the patterns whose bytes occur among its bytes. -/
theorem contains_iff_bytes (text pattern : Text) :
    contains text pattern = true ↔ Utf8.encode pattern <:+: Utf8.encode text :=
  find?_isSome_iff _ _

/-- Between what stands before and after it a pattern does not occur sooner. -/
def First {α : Type} (pattern before after : List α) : Prop :=
  ∀ earlier later, before ++ (pattern ++ after) = earlier ++ (pattern ++ later) →
    before.length ≤ earlier.length

/-- A search finds a pattern where it first occurs. -/
theorem find?_eq_some_iff {α : Type} [BEq α] [LawfulBEq α] (pattern before after : List α) :
    find? pattern (before ++ (pattern ++ after)) = some before.length ↔
      First pattern before after := by
  induction before with
  | nil =>
    refine iff_of_true ?_ fun earlier _ _ => Nat.zero_le earlier.length
    have here : pattern.isPrefixOf (pattern ++ after) = true :=
      List.isPrefixOf_iff_prefix.mpr (List.prefix_append pattern after)
    rw [List.nil_append]
    cases whole : pattern ++ after with
    | nil => rw [find?, if_pos (whole ▸ here)]; rfl
    | cons first rest => rw [find?, if_pos (whole ▸ here)]; rfl
  | cons first before inductionHypothesis =>
    rw [List.cons_append, find?, List.length_cons]
    by_cases here : pattern.isPrefixOf (first :: (before ++ (pattern ++ after))) = true
    · rw [if_pos here]
      refine iff_of_false (by simp) fun soonest => ?_
      obtain ⟨later, same⟩ := List.isPrefixOf_iff_prefix.mp here
      exact absurd (soonest [] later same.symm) (by simp)
    · rw [if_neg here, Option.map_eq_some_iff]
      simp only [Nat.add_right_cancel_iff, exists_eq_right, inductionHypothesis]
      constructor
      · intro soonest earlier later same
        cases earlier with
        | nil =>
          exact absurd (List.isPrefixOf_iff_prefix.mpr ⟨later, same.symm⟩) here
        | cons _ earlier => exact Nat.succ_le_succ (soonest earlier later (List.cons.inj same).2)
      · intro soonest earlier later same
        exact Nat.le_of_succ_le_succ (soonest (first :: earlier) later (congrArg (first :: ·) same))

/-- A pattern that occurs has a first occurrence. -/
theorem exists_first {α : Type} {pattern list : List α} (occurs : pattern <:+: list) :
    ∃ before after, list = before ++ (pattern ++ after) ∧ First pattern before after := by
  induction list with
  | nil => exact ⟨[], [], by simp [List.infix_nil.mp occurs], fun _ _ _ => Nat.zero_le _⟩
  | cons first rest inductionHypothesis =>
    by_cases here : pattern <+: first :: rest
    · obtain ⟨after, whole⟩ := here
      exact ⟨[], after, whole.symm, fun _ _ _ => Nat.zero_le _⟩
    · obtain ⟨before, after, rfl, soonest⟩ :=
        inductionHypothesis ((List.infix_cons_iff.mp occurs).resolve_left here)
      refine ⟨first :: before, after, rfl, fun earlier later same => ?_⟩
      cases earlier with
      | nil => exact absurd ⟨later, same.symm⟩ here
      | cons _ earlier => exact Nat.succ_le_succ (soonest earlier later (List.cons.inj same).2)

/-- The first occurrence among the characters is the first among the bytes. -/
theorem First.encode {pattern before after : Text} (nonempty : pattern ≠ [])
    (soonest : First pattern before after) :
    First (Utf8.encode pattern) (Utf8.encode before) (Utf8.encode after) := by
  intro earlier later same
  rw [← Utf8.encode_append, ← Utf8.encode_append] at same
  obtain ⟨front, back, whole, rfl⟩ := Utf8.exists_of_encode_eq nonempty same.symm
  have starts : before <+: front := by
    apply List.prefix_of_prefix_length_le (List.prefix_append before (pattern ++ after))
    · exact ⟨pattern ++ back, whole.symm⟩
    · exact soonest front back whole
  exact ((Utf8.encode_prefix_iff before front).mpr starts).length_le

end RegionBuild.Text
