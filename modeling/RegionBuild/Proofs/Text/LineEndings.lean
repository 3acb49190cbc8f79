import RegionBuild.Text.Basic
import Mathlib.Data.List.Infix

/-!
# The two ways to end a line

A text whose lines end with a line feed can be written with a carriage return before
each of them. A piece of the longer text is a piece of the shorter one rewritten,
unless it was cut between the two characters of a line end. A literal without line
ends occurs in both texts at the same places.
-/

namespace RegionBuild.Text

/-- The text with a carriage return before every line feed. -/
def withReturns (text : Text) : Text :=
  text.flatMap fun char => if char = '\n' then ['\r', '\n'] else [char]

/-- A line feed gets its carriage return. -/
theorem withReturns_feed (rest : Text) :
    withReturns ('\n' :: rest) = '\r' :: '\n' :: withReturns rest := rfl

/-- Every other character stays. -/
theorem withReturns_cons {char : Char} (other : char ≠ '\n') (rest : Text) :
    withReturns (char :: rest) = char :: withReturns rest := by
  simp [withReturns, other]

/-- Texts are rewritten part by part. -/
theorem withReturns_append (first second : Text) :
    withReturns (first ++ second) = withReturns first ++ withReturns second :=
  List.flatMap_append

/-- A text without line feeds stays. -/
theorem withReturns_eq_self {text : Text} (unbroken : '\n' ∉ text) : withReturns text = text := by
  induction text with
  | nil => rfl
  | cons char rest inductionHypothesis =>
    rw [List.mem_cons, not_or] at unbroken
    rw [withReturns_cons (Ne.symm unbroken.1), inductionHypothesis unbroken.2]

/-- A list of texts is rewritten member by member. -/
theorem withReturns_flatMap {α : Type} (members : List α) (say : α → Text) :
    withReturns (members.flatMap say) = members.flatMap fun member => withReturns (say member) :=
  List.flatMap_assoc

/-- No line is lost or gained. -/
theorem count_withReturns (text : Text) : (withReturns text).count '\n' = text.count '\n' := by
  induction text with
  | nil => rfl
  | cons char rest inductionHypothesis =>
    by_cases feed : char = '\n'
    · rw [feed, withReturns_feed]
      simp [inductionHypothesis]
    · rw [withReturns_cons feed, List.count_cons_of_ne feed, List.count_cons_of_ne feed,
        inductionHypothesis]

/-- What the longer text starts with is a start of the shorter one rewritten, perhaps
with the first half of a line end after it. -/
theorem prefix_withReturns {start text : Text} (starts : start <+: withReturns text) :
    ∃ front, front <+: text ∧
      (start = withReturns front ∨ start = withReturns front ++ ['\r']) := by
  induction text generalizing start with
  | nil => exact ⟨[], List.nil_prefix, Or.inl (List.prefix_nil.mp starts)⟩
  | cons char rest inductionHypothesis =>
    by_cases feed : char = '\n'
    · subst feed
      rw [withReturns_feed] at starts
      rcases List.prefix_cons_iff.mp starts with rfl | ⟨half, rfl, atFeed⟩
      · exact ⟨[], List.nil_prefix, Or.inl rfl⟩
      rcases List.prefix_cons_iff.mp atFeed with rfl | ⟨later, rfl, rested⟩
      · exact ⟨[], List.nil_prefix, Or.inr rfl⟩
      obtain ⟨front, within, same⟩ := inductionHypothesis rested
      refine ⟨'\n' :: front, List.cons_prefix_cons.mpr ⟨rfl, within⟩, ?_⟩
      rcases same with rfl | rfl
      · exact Or.inl rfl
      · exact Or.inr rfl
    · rw [withReturns_cons feed] at starts
      rcases List.prefix_cons_iff.mp starts with rfl | ⟨later, rfl, rested⟩
      · exact ⟨[], List.nil_prefix, Or.inl rfl⟩
      obtain ⟨front, within, same⟩ := inductionHypothesis rested
      refine ⟨char :: front, List.cons_prefix_cons.mpr ⟨rfl, within⟩, ?_⟩
      rw [withReturns_cons feed]
      rcases same with rfl | rfl
      · exact Or.inl rfl
      · exact Or.inr rfl

/-- One text ends another exactly if the last characters agree and so do the texts
before them. -/
theorem concat_suffix_concat_iff {front start : Text} {last char : Char} :
    front ++ [last] <:+ start ++ [char] ↔ front <:+ start ∧ last = char := by
  rw [List.suffix_append_inj_of_length_eq (by simp), List.singleton_inj]

/-- A literal without line feeds that ends the longer text ends the shorter one.

Induct over the literal from its end. Its last character is the last one of both
texts, since it is no line feed. -/
theorem suffix_of_suffix_withReturns {literal text : Text} (unbroken : '\n' ∉ literal)
    (ends : literal <:+ withReturns text) : literal <:+ text := by
  induction literal using List.reverseRecOn generalizing text with
  | nil => exact List.nil_suffix
  | append_singleton front last inductionHypothesis =>
    rw [List.mem_append, List.mem_singleton, not_or] at unbroken
    rcases text.eq_nil_or_concat' with rfl | ⟨start, char, rfl⟩
    · simp [withReturns] at ends
    rw [withReturns_append] at ends
    by_cases feed : char = '\n'
    · have split : withReturns start ++ withReturns [char] =
          (withReturns start ++ ['\r']) ++ ['\n'] := by
        rw [feed, List.append_assoc]
        rfl
      rw [split, concat_suffix_concat_iff] at ends
      exact absurd ends.2.symm unbroken.2
    · have kept : withReturns [char] = [char] := withReturns_cons feed []
      rw [kept, concat_suffix_concat_iff] at ends
      exact concat_suffix_concat_iff.mpr ⟨inductionHypothesis unbroken.1 ends.1, ends.2⟩

/-- Where a literal without line ends occurs in the longer text it occurs in the
shorter one. -/
theorem occurs_of_withReturns {literal start text : Text} (nonempty : literal ≠ [])
    (unbroken : '\n' ∉ literal) (unreturned : '\r' ∉ literal)
    (starts : start <+: withReturns text) (ends : literal <:+ start) :
    ∃ front, front <+: text ∧ start = withReturns front ∧ literal <:+ front := by
  obtain ⟨front, within, rfl | rfl⟩ := prefix_withReturns starts
  · exact ⟨front, within, rfl, suffix_of_suffix_withReturns unbroken ends⟩
  · -- A cut inside a line end leaves a carriage return, which the literal lacks.
    rcases List.suffix_concat_iff.mp ends with empty | ⟨more, rfl, _⟩
    · exact absurd empty nonempty
    · exact absurd (by simp) unreturned

end RegionBuild.Text
