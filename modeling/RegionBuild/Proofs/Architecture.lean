import RegionBuild.Architecture
import RegionBuild.Proofs.Text.Pieces

/-!
# The order of architectures

An id is compared with a pattern as a text: it starts with the pattern, and what follows
is nothing or starts with a dot. What is meant is a comparison of segments, the pieces
between the dots. The two agree wherever the dots stand. An empty pattern has one empty
segment, so it is refined by itself and by ids that start with a dot, and a pattern that
ends in a dot has an empty segment last, which has to be matched too.

So refinement is the order in which lists start one another, and the tiers follow it: what
refines an id of the elevated tier is of the elevated tier.
-/

namespace RegionBuild.Architecture

/-- The pieces of an id between its dots. -/
def segments (architecture : Text) : List Text := Text.splitOn '.' architecture

/-- Ids with the same segments are the same. -/
theorem segments_injective {architecture other : Text}
    (same : segments architecture = segments other) : architecture = other := by
  have joined : ∀ text : Text, Text.join ['.'] (segments text) = text := by
    intro text
    rw [segments, Text.splitOn_eq]
    exact List.intercalate_splitOn '.'
  rw [← joined architecture, same, joined]

/-- A pattern and a dot are matched by the segments of the pattern, and what comes after the
dot by further ones. -/
theorem segments_dot (pattern rest : Text) :
    segments (pattern ++ '.' :: rest) = segments pattern ++ segments rest :=
  Text.splitOn_append '.' pattern rest

/-- An id refines a pattern if it is the pattern or starts with the pattern and a dot. -/
theorem refines_iff_starts (architecture pattern : Text) :
    refines architecture pattern = true ↔
      architecture = pattern ∨ pattern ++ ['.'] <+: architecture := by
  rw [refines, Bool.and_eq_true, List.isPrefixOf_iff_prefix]
  constructor
  · rintro ⟨⟨rest, rfl⟩, ended⟩
    rw [List.drop_left] at ended
    cases rest with
    | nil => exact Or.inl (List.append_nil pattern)
    | cons next rest =>
      have dot : next = '.' := beq_iff_eq.mp ended
      exact Or.inr ⟨rest, by simp [dot]⟩
  · rintro (rfl | ⟨rest, rfl⟩)
    · exact ⟨List.prefix_rfl, by simp⟩
    · exact ⟨⟨'.' :: rest, by simp⟩, by simp⟩

/-- The segments of a pattern start those of an id if the id is the pattern or starts with
the pattern and a dot.

Segments left over after those of the pattern stand behind a dot, because joining them up
again gives an id with the segments of the given one. -/
theorem segments_prefix_iff (architecture pattern : Text) :
    segments pattern <+: segments architecture ↔
      architecture = pattern ∨ pattern ++ ['.'] <+: architecture := by
  constructor
  · rintro ⟨more, whole⟩
    by_cases none : more = []
    · rw [none, List.append_nil] at whole
      exact Or.inl (segments_injective whole.symm)
    · have undotted : ∀ piece ∈ more, '.' ∉ piece := by
        intro piece listed
        have inside : piece ∈ segments architecture := by
          rw [← whole]
          exact List.mem_append_right (segments pattern) listed
        exact Text.notMem_of_mem_splitOn inside
      have rejoined : segments (Text.join ['.'] more) = more := Text.splitOn_join undotted none
      have same : pattern ++ '.' :: Text.join ['.'] more = architecture := by
        apply segments_injective
        rw [segments_dot, rejoined, whole]
      exact Or.inr ⟨Text.join ['.'] more, by simp [← same]⟩
  · rintro (rfl | ⟨rest, rfl⟩)
    · exact List.prefix_rfl
    · refine ⟨segments rest, ?_⟩
      rw [← segments_dot]
      simp

/-- An id refines a pattern if the pattern's segments start the id's. -/
theorem refines_iff_leading (architecture pattern : Text) :
    refines architecture pattern = true ↔ segments pattern <+: segments architecture := by
  rw [refines_iff_starts, segments_prefix_iff]

/-- The tier is elevated for what refines the server id. -/
theorem tier_eq_elevated_iff (architecture server : Text) :
    tier architecture server = .elevated ↔ refines architecture server = true := by
  rw [tier]
  split
  · next finer => exact iff_of_true rfl finer
  · next other => exact iff_of_false (by simp) other

/-- Refinement is the order in which segments start one another, and the tiers follow it:
the elevated one goes to the refinements of the server id and to nothing else. -/
theorem refines_segment_order (architecture pattern finer server : Text) :
    (refines architecture pattern = true ↔ segments pattern <+: segments architecture) ∧
      (refines architecture pattern = true ↔
        architecture = pattern ∨ pattern ++ ['.'] <+: architecture) ∧
      refines architecture architecture = true ∧
      (refines architecture pattern = true → refines pattern architecture = true →
        architecture = pattern) ∧
      (refines finer architecture = true → refines architecture pattern = true →
        refines finer pattern = true) ∧
      (tier architecture server = .elevated ↔ refines architecture server = true) ∧
      (isServerClass architecture server = true → tier architecture server = .elevated) ∧
      (tier architecture server = .elevated → refines finer architecture = true →
        tier finer server = .elevated) := by
  have transitive : ∀ pattern : Text, refines finer architecture = true →
      refines architecture pattern = true → refines finer pattern = true := by
    intro pattern finest middle
    rw [refines_iff_leading] at finest middle ⊢
    exact middle.trans finest
  have reflexive : refines architecture architecture = true :=
    (refines_iff_leading architecture architecture).mpr List.prefix_rfl
  refine ⟨refines_iff_leading architecture pattern, refines_iff_starts architecture pattern,
    reflexive, ?_, transitive pattern, tier_eq_elevated_iff architecture server, ?_, ?_⟩
  · intro finer coarser
    rw [refines_iff_leading] at finer coarser
    exact segments_injective (coarser.eq_of_length_le finer.length_le)
  · intro isServer
    have same : architecture = server := beq_iff_eq.mp isServer
    rw [← same]
    exact (tier_eq_elevated_iff architecture architecture).mpr reflexive
  · intro elevated refined
    rw [tier_eq_elevated_iff] at elevated ⊢
    exact transitive server refined elevated

/-- The empty pattern is not refined by everything, and a dot at the end counts. -/
example : refines "os".toList [] = false ∧ refines ".os".toList [] = true ∧
    refines "os.".toList "os".toList = true ∧ refines "os.linux".toList "os.".toList = false := by
  decide

end RegionBuild.Architecture
