import RegionBuild.Proofs.Region.Layout

/-!
# Removed code has no influence

The body of a region that is not kept leaves no trace in the output. Two sources
that differ only in such a body are pruned to the same text, or fail with the same
region left open; the lines of the two faults differ by what the bodies differ in
line feeds.

The two runs leave the region with different floors, buffers, depths and pieces. All
they have in common is that both are at a boundary with the same draft, and that
determines everything that follows.
-/

namespace RegionBuild.Region

/-- A text inside a region during which the region stays open can be followed. -/
theorem Scan.exists_followed (rules : Rules) (kept : Kind) (scan : Scan) (body : Text)
    (region : OpenRegion) (inside : scan.region = some region)
    (stays : ∀ part, part <+: body → (scan.run rules kept part).region ≠ none) :
    ∃ next, scan.tracker.follow? rules.stringAware body = some next := by
  rcases scan.tracker.follow?_or_closes rules.stringAware body with
    followed | ⟨sooner, rest, rfl, closes⟩
  · exact followed
  · obtain ⟨boundary, _⟩ := run_closing rules kept scan sooner region inside closes
    refine absurd boundary.outside (stays (sooner ++ ['}']) ⟨rest, ?_⟩)
    simp

/-- A region that stays open over a body and is left at the brace after it closes
there. -/
theorem Scan.closesAfter_of_left (rules : Rules) (kept : Kind) (scan : Scan) (body : Text)
    (region : OpenRegion) (inside : scan.region = some region)
    (stays : ∀ part, part <+: body → (scan.run rules kept part).region ≠ none)
    (left : (scan.run rules kept (body ++ ['}'])).region = none) :
    scan.tracker.closesAfter rules.stringAware body = true := by
  obtain ⟨next, followed⟩ := exists_followed rules kept scan body region inside stays
  unfold Tracker.closesAfter
  rw [followed]
  by_cases closed : (next.read rules.stringAware '}').2 = true
  · exact closed
  · have reached := run_inside rules kept scan body region next inside followed
    have stepped := step_inside rules kept
      { scan with tracker := next, draft := scan.draft.push (region.kind.shown kept body) }
      '}' region inside (by simpa using closed)
    have stillOpen := congrArg Scan.region
      ((congrArg (step rules kept · '}') reached).trans stepped)
    rw [run_append] at left
    exact absurd (left.symm.trans (stillOpen.trans inside)) (by simp)

/-- The prologue after a front enters a region at its end, the scan stays inside that
region over the whole body, and the brace after the body leaves it. The region is
told from others by the position at which its prologue starts. -/
structure Encloses (rules : Rules) (kept : Kind) (front : Text) (kind : Kind) (body : Text) :
    Prop where
  inside : ∀ part, part <+: body → (Scan.start.run rules kept
    (front ++ rules.prologue kind ++ part)).region = some ⟨kind, front.length⟩
  left : (Scan.start.run rules kept
    (front ++ rules.prologue kind ++ (body ++ ['}']))).region = none

/-- Only finitely many parts of a body have to be looked at. -/
theorem encloses_iff (rules : Rules) (kept : Kind) (front : Text) (kind : Kind) (body : Text) :
    Encloses rules kept front kind body ↔
      (∀ size ≤ body.length, (Scan.start.run rules kept
        (front ++ rules.prologue kind ++ body.take size)).region = some ⟨kind, front.length⟩) ∧
      (Scan.start.run rules kept
        (front ++ rules.prologue kind ++ (body ++ ['}']))).region = none := by
  constructor
  · intro encloses
    exact ⟨fun size _ => encloses.inside _ (List.take_prefix size body), encloses.left⟩
  · rintro ⟨inside, left⟩
    refine ⟨fun part within => ?_, left⟩
    rw [List.prefix_iff_eq_take.mp within]
    exact inside part.length within.length_le

instance (rules : Rules) (kept : Kind) (front : Text) (kind : Kind) (body : Text) :
    Decidable (Encloses rules kept front kind body) :=
  decidable_of_iff _ (encloses_iff rules kept front kind body).symm

/-- After an enclosed body that is not kept the scan is at a boundary and its draft
is that before the body. -/
theorem Encloses.erased {rules : Rules} {kept kind : Kind} {front body : Text}
    (encloses : Encloses rules kept front kind body) (unwanted : kind ≠ kept) :
    (Scan.start.run rules kept (front ++ rules.prologue kind ++ (body ++ ['}']))).AtBoundary ∧
      (Scan.start.run rules kept (front ++ rules.prologue kind ++ (body ++ ['}']))).draft =
        (Scan.start.run rules kept (front ++ rules.prologue kind)).draft := by
  have entered := encloses.inside [] List.nil_prefix
  rw [List.append_nil] at entered
  have stays : ∀ part, part <+: body →
      ((Scan.start.run rules kept (front ++ rules.prologue kind)).run rules kept part).region ≠
        none := by
    intro part inside
    rw [← Scan.run_append, encloses.inside part inside]
    simp
  have left := encloses.left
  rw [Scan.run_append] at left
  have closes := Scan.closesAfter_of_left rules kept _ body _ entered stays left
  obtain ⟨boundary, draft⟩ := Scan.run_closing rules kept _ body _ entered closes
  rw [Scan.run_append]
  refine ⟨boundary, draft.trans ?_⟩
  simp [Kind.shown, unwanted, Draft.push]

end RegionBuild.Region

namespace RegionBuild.Pruner

open Region

/-- Two sources that differ only in the body of a region that is not kept are pruned
to the same text, or both fail at the same kind of region, on lines that differ by
the difference of the bodies' line feeds.

Both scans leave the region at a boundary with one and the same draft. The text
after it has one layout, which says how both go on. -/
theorem process_erased (pruner : Pruner) (path architecture : Text)
    (scanned : pruner.bypasses path = false) (front body body' after : Text) (kind : Kind)
    (unwanted : kind ≠ pruner.kept architecture)
    (encloses : Encloses pruner.rules (pruner.kept architecture) front kind body)
    (encloses' : Encloses pruner.rules (pruner.kept architecture) front kind body') :
    (∃ text,
      pruner.process (front ++ pruner.rules.prologue kind ++ (body ++ ['}']) ++ after) path
          architecture = .ok text ∧
        pruner.process (front ++ pruner.rules.prologue kind ++ (body' ++ ['}']) ++ after) path
          architecture = .ok text) ∨
      ∃ line line' state,
        pruner.process (front ++ pruner.rules.prologue kind ++ (body ++ ['}']) ++ after) path
            architecture = .error ⟨path, line, state⟩ ∧
          pruner.process (front ++ pruner.rules.prologue kind ++ (body' ++ ['}']) ++ after) path
            architecture = .error ⟨path, line', state⟩ ∧
          (line' : Int) - line = (body'.count '\n' : Int) - body.count '\n' := by
  obtain ⟨boundary, draft⟩ := encloses.erased unwanted
  obtain ⟨boundary', draft'⟩ := encloses'.erased unwanted
  obtain ⟨layout, divides⟩ := Layout.exists_divides pruner.rules_proper after
  rw [pruner.process_eq_scanned _ path architecture scanned,
    pruner.process_eq_scanned _ path architecture scanned,
    pruner.scanned_resumed _ after path architecture boundary layout divides,
    pruner.scanned_resumed _ after path architecture boundary' layout divides, draft, draft']
  cases layout.unclosed with
  | none => exact Or.inl ⟨_, rfl, rfl⟩
  | some region =>
    refine Or.inr ⟨_, _, region.kind, rfl, rfl, ?_⟩
    simp only [List.count_append]
    omega

/-- Two bodies of a server region, one of them with a line feed and a quoted brace,
before a client region that is left open. -/
theorem process_erased_left_open :
    Encloses standard.rules .client ['a'] .server ['b'] ∧
      Encloses standard.rules .client ['a'] .server ['\n', '"', '}', '"'] ∧
      ∃ line line' state,
        standard.process "aif (Meteor.isServer) \x7bb\x7dif (Meteor.isClient) \x7b".toList
            "main.ts".toList "web".toList = .error ⟨"main.ts".toList, line, state⟩ ∧
          standard.process
            "aif (Meteor.isServer) \x7b\n\"\x7d\"\x7dif (Meteor.isClient) \x7b".toList
            "main.ts".toList "web".toList = .error ⟨"main.ts".toList, line', state⟩ ∧
          (line' : Int) - line = 1 := by
  have encloses : Encloses standard.rules .client ['a'] .server ['b'] := by decide
  have encloses' : Encloses standard.rules .client ['a'] .server ['\n', '"', '}', '"'] := by
    decide
  refine ⟨encloses, encloses', ?_⟩
  rcases process_erased standard "main.ts".toList "web".toList (by decide) ['a'] ['b']
    ['\n', '"', '}', '"'] "if (Meteor.isClient) \x7b".toList .server (by decide) encloses
    encloses' with ⟨text, first, _⟩ | failed
  · exact absurd first (by intro same; cases same)
  · exact failed

end RegionBuild.Pruner
