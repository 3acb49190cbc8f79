import RegionBuild.Proofs.Region.Tracking
import RegionBuild.Region.Scan

/-!
# How a scan goes through one region

Between regions a scan only waits for a prologue. It is at a boundary when it is
outside every region and nothing stands above the floor: at the start of a source
and right after each closing brace. From a boundary on, the scan copies the text up
to the first prologue that ends, takes that prologue back, follows the body and
takes back the closing brace; then it is at a boundary again. What the draft held
before is never touched.

These laws say what one such round does for any state at a boundary. They mention
no earlier text, which is why regions cannot influence each other.
-/

namespace RegionBuild.Region

namespace Draft

/-- Texts put out one after the other. -/
theorem push_append (draft : Draft) (first second : Text) :
    draft.push (first ++ second) = (draft.push first).push second :=
  List.foldl_append

/-- A text put out stands at the end of what the draft says. -/
theorem push_toText (draft : Draft) (text : Text) :
    (draft.push text).toText = draft.toText ++ text := by
  have grows (draft : Draft) (char : Char) :
      (draft.pushChar char).toText = draft.toText ++ [char] := List.reverse_cons
  rw [push, foldl_grows toText pushChar _ grows, List.flatMap_singleton']

/-- A text put out stands in front of the reversed draft. -/
theorem push_reversed (draft : Draft) (text : Text) :
    (draft.push text).reversed = text.reverse ++ draft.reversed := by
  simpa [toText] using congrArg List.reverse (push_toText draft text)

/-- Taking back what was just put out restores the draft. -/
theorem push_drop (draft : Draft) (text : Text) :
    (draft.push text).drop text.length = draft := by
  simp only [drop, push_reversed]
  rw [List.drop_left' (List.length_reverse)]

end Draft

/-- What a scan puts out of a region's body: all of it if the region is of the kind
that is kept, else nothing. -/
def Kind.shown (kind kept : Kind) (body : Text) : Text := if kind = kept then body else []

/-- What is put out of a body is put out part by part. -/
theorem Kind.shown_append (kind kept : Kind) (first second : Text) :
    kind.shown kept (first ++ second) = kind.shown kept first ++ kind.shown kept second := by
  unfold shown
  split
  · rfl
  · rfl

namespace Rules

/-- Prologues that can be told apart: none is empty and they differ. -/
structure Proper (rules : Rules) : Prop where
  client_ne_nil : rules.client ≠ []
  server_ne_nil : rules.server ≠ []
  client_ne_server : rules.client ≠ rules.server

/-- No prologue is empty. -/
theorem Proper.prologue_ne_nil {rules : Rules} (proper : rules.Proper) (kind : Kind) :
    rules.prologue kind ≠ [] := by
  cases kind with
  | client => exact proper.client_ne_nil
  | server => exact proper.server_ne_nil

/-- The kind of region whose prologue a text ends with. The client's comes first. -/
def endedBy? (rules : Rules) (text : Text) : Option Kind :=
  if rules.client <:+ text then some .client
  else if rules.server <:+ text then some .server
  else none

/-- A text ends with no prologue exactly if neither is a suffix of it. -/
theorem endedBy?_eq_none_iff (rules : Rules) (text : Text) :
    rules.endedBy? text = none ↔ ∀ kind, ¬ rules.prologue kind <:+ text := by
  unfold endedBy?
  constructor
  · intro none kind ends
    cases kind with
    | client =>
      have client : rules.client <:+ text := ends
      simp [client] at none
    | server =>
      have server : rules.server <:+ text := ends
      by_cases client : rules.client <:+ text <;> simp [client, server] at none
  · intro absent
    have noClient : ¬ rules.client <:+ text := absent .client
    have noServer : ¬ rules.server <:+ text := absent .server
    rw [if_neg noClient, if_neg noServer]

/-- The scan sees a prologue exactly where the text above the floor ends with it. -/
theorem opened?_eq {rules : Rules} (proper : rules.Proper) (tracker : Tracker) :
    rules.opened? tracker = rules.endedBy? tracker.window.reverse := by
  have seen : ∀ literal : Text, literal ≠ [] →
      (tracker.completes literal = true ↔ literal <:+ tracker.window.reverse) := by
    intro literal nonempty
    rw [tracker.completes_iff literal nonempty, ← List.reverse_prefix, List.reverse_reverse]
  unfold opened? endedBy?
  simp only [seen _ proper.client_ne_nil, seen _ proper.server_ne_nil]

/-- A lead and the prologue after it, of which no prologue ends before the end. The
client's prologue wins if both end there. -/
structure Opens (rules : Rules) (lead : Text) (kind : Kind) : Prop where
  first : ∀ other before, before <+: lead ++ rules.prologue kind →
    rules.prologue other <:+ before → before = lead ++ rules.prologue kind
  clientWins : rules.client <:+ lead ++ rules.prologue kind → kind = .client

/-- Where a region opens, the prologue seen is that of its kind. -/
theorem Opens.endedBy? {rules : Rules} {lead : Text} {kind : Kind}
    (opens : rules.Opens lead kind) :
    rules.endedBy? (lead ++ rules.prologue kind) = some kind := by
  have own : rules.prologue kind <:+ lead ++ rules.prologue kind := List.suffix_append _ _
  unfold Rules.endedBy?
  by_cases client : rules.client <:+ lead ++ rules.prologue kind
  · rw [if_pos client, opens.clientWins client]
  · cases kind with
    | client => exact absurd own client
    | server => rw [if_neg client, if_pos (show rules.server <:+ _ from own)]

/-- Before a region opens no prologue is seen. -/
theorem Opens.quiet {rules : Rules} {lead : Text} {kind : Kind} (opens : rules.Opens lead kind)
    (before : Text) (inside : before <+: lead ++ rules.prologue kind)
    (shorter : before ≠ lead ++ rules.prologue kind) : rules.endedBy? before = none := by
  rw [endedBy?_eq_none_iff]
  intro other ends
  exact shorter (opens.first other before inside ends)

end Rules

namespace Scan

/-- Outside, a character that completes no prologue is copied. -/
theorem step_outside (rules : Rules) (kept : Kind) (scan : Scan) (char : Char)
    (outside : scan.region = none) (quiet : rules.opened? (scan.tracker.push char) = none) :
    scan.step rules kept char =
      { scan with tracker := scan.tracker.push char, draft := scan.draft.pushChar char } := by
  simp only [step, outside, quiet]

/-- Outside, a character that completes a prologue opens a region. -/
theorem step_opening (rules : Rules) (kept : Kind) (scan : Scan) (char : Char) (kind : Kind)
    (outside : scan.region = none)
    (opened : rules.opened? (scan.tracker.push char) = some kind) :
    scan.step rules kept char =
      openRegion rules
        { scan with tracker := scan.tracker.push char, draft := scan.draft.pushChar char } kind := by
  simp only [step, outside, opened]

/-- Inside, a character that does not close the region is put out only if the region
is kept. -/
theorem step_inside (rules : Rules) (kept : Kind) (scan : Scan) (char : Char)
    (region : OpenRegion) (inside : scan.region = some region)
    (goesOn : (scan.tracker.read rules.stringAware char).2 = false) :
    scan.step rules kept char =
      { scan with
        tracker := (scan.tracker.read rules.stringAware char).1
        draft := scan.draft.push (region.kind.shown kept [char]) } := by
  unfold Tracker.read at goesOn
  simp only [step, inside, goesOn, Tracker.read, Kind.shown]
  by_cases same : region.kind = kept
  · simp [same, Draft.push]
  · simp [same, Draft.push, Draft.drop, Draft.pushChar]

/-- Inside, the closing brace leaves the region and the draft as it was. -/
theorem step_closing (rules : Rules) (kept : Kind) (scan : Scan) (char : Char)
    (region : OpenRegion) (inside : scan.region = some region)
    (closed : (scan.tracker.read rules.stringAware char).2 = true) :
    scan.step rules kept char =
      { tracker := (scan.tracker.read rules.stringAware char).1.closeRegion
        draft := scan.draft
        region := none
        events := .left region.kind :: scan.events } := by
  unfold Tracker.read at closed
  simp [step, inside, closed, closeRegion, Tracker.read, Draft.drop, Draft.pushChar]

/-- A text is read part by part. -/
theorem run_append (rules : Rules) (kept : Kind) (scan : Scan) (first second : Text) :
    scan.run rules kept (first ++ second) = (scan.run rules kept first).run rules kept second :=
  List.foldl_append

/-- Every step records the character it reads. -/
theorem step_consumed (rules : Rules) (kept : Kind) (scan : Scan) (char : Char) :
    (scan.step rules kept char).tracker.consumed = scan.tracker.consumed.pushChar char := by
  have recorded := Tracker.read_consumed rules.stringAware scan.tracker char
  cases inside : scan.region with
  | none =>
    cases opened : rules.opened? (scan.tracker.push char) with
    | none => rw [step_outside rules kept scan char inside opened]; rfl
    | some kind => rw [step_opening rules kept scan char kind inside opened]; rfl
  | some region =>
    by_cases closed : (scan.tracker.read rules.stringAware char).2 = true
    · rw [step_closing rules kept scan char region inside closed]
      exact recorded
    · rw [step_inside rules kept scan char region inside (by simpa using closed)]
      exact recorded

/-- A run records the text it reads. -/
theorem run_consumed (rules : Rules) (kept : Kind) (scan : Scan) (text : Text) :
    (scan.run rules kept text).tracker.consumed = scan.tracker.consumed.push text := by
  induction text generalizing scan with
  | nil => rfl
  | cons char rest inductionHypothesis =>
    have rested := inductionHypothesis (scan.step rules kept char)
    rw [step_consumed] at rested
    exact rested

/-- A run reads as many characters as the text has. -/
theorem run_size (rules : Rules) (kept : Kind) (scan : Scan) (text : Text) :
    (scan.run rules kept text).tracker.consumed.size =
      scan.tracker.consumed.size + text.length := by
  rw [run_consumed, TailBuffer.push_size]

/-- Outside every region with nothing above the floor, as at the start of a source. -/
structure AtBoundary (scan : Scan) : Prop where
  outside : scan.region = none
  floor : scan.tracker.floor = scan.tracker.consumed.size

/-- At a boundary the window is empty. -/
theorem AtBoundary.window {scan : Scan} (boundary : scan.AtBoundary) :
    scan.tracker.window = [] := by
  simp [Tracker.window, boundary.floor]

/-- At a boundary the tracker is grounded. -/
theorem AtBoundary.grounded {scan : Scan} (boundary : scan.AtBoundary) :
    scan.tracker.Grounded :=
  Nat.le_of_eq boundary.floor

/-- A source starts at a boundary. -/
theorem start_atBoundary : start.AtBoundary := ⟨rfl, rfl⟩

/-- Outside, a text in which no prologue ends is copied as it is. What the window
holds already is `seen`; a prologue might start there, so the condition speaks of
both together.

Induct over the text. Each character joins what was seen, and the condition at the
prefix up to it says that the scan sees no prologue there. -/
theorem run_quiet {rules : Rules} (proper : rules.Proper) (kept : Kind) (scan : Scan)
    (seen text : Text) (outside : scan.region = none) (grounded : scan.tracker.Grounded)
    (window : scan.tracker.window = seen.reverse)
    (quiet : ∀ before, before <+: text → before ≠ [] → rules.endedBy? (seen ++ before) = none) :
    scan.run rules kept text =
      { scan with tracker := scan.tracker.pushAll text, draft := scan.draft.push text } := by
  induction text generalizing scan seen with
  | nil => rfl
  | cons char rest inductionHypothesis =>
    have pushed : (scan.tracker.push char).window = (seen ++ [char]).reverse := by
      rw [scan.tracker.window_push grounded, window]
      simp
    have unopened : rules.opened? (scan.tracker.push char) = none := by
      rw [Rules.opened?_eq proper, pushed, List.reverse_reverse]
      exact quiet [char] (by simp) (by simp)
    have restQuiet : ∀ before, before <+: rest → before ≠ [] →
        rules.endedBy? ((seen ++ [char]) ++ before) = none := by
      intro before inside _
      rw [List.append_assoc]
      exact quiet (char :: before) (List.cons_prefix_cons.mpr ⟨rfl, inside⟩) (by simp)
    have stepped := step_outside rules kept scan char outside unopened
    have rested := inductionHypothesis (scan.step rules kept char) (seen ++ [char])
      (by rw [stepped]; exact outside) (by rw [stepped]; exact Nat.le_succ_of_le grounded)
      (by rw [stepped]; exact pushed) restQuiet
    rw [stepped] at rested
    exact (congrArg (run rules kept · rest) stepped).trans rested

/-- From a boundary on, the first prologue that ends opens its region. The lead is
copied, the prologue is taken back and the region is followed as a fresh one. -/
theorem run_opening {rules : Rules} (proper : rules.Proper) (kept : Kind) (scan : Scan)
    (boundary : scan.AtBoundary) (lead : Text) (kind : Kind) (opens : rules.Opens lead kind) :
    (scan.run rules kept (lead ++ rules.prologue kind)).region =
        some ⟨kind, scan.tracker.consumed.size + lead.length⟩ ∧
      (scan.run rules kept (lead ++ rules.prologue kind)).draft = scan.draft.push lead ∧
      (scan.run rules kept (lead ++ rules.prologue kind)).tracker.EqAboveFloor .fresh := by
  obtain ⟨start, last, whole⟩ : ∃ start last, rules.prologue kind = start ++ [last] :=
    ⟨_, _, (List.dropLast_concat_getLast (proper.prologue_ne_nil kind)).symm⟩
  have split : lead ++ rules.prologue kind = (lead ++ start) ++ [last] := by
    rw [whole, List.append_assoc]
  have quiet : ∀ before, before <+: lead ++ start → rules.endedBy? before = none := by
    intro before inside
    refine opens.quiet before (split ▸ inside.trans (List.prefix_append _ _)) ?_
    intro complete
    have lengths := inside.length_le
    rw [complete, split, List.length_append, List.length_singleton] at lengths
    omega
  have copied := run_quiet proper kept scan [] (lead ++ start) boundary.outside
    boundary.grounded boundary.window (fun before inside _ => quiet before inside)
  have seen : rules.opened? ((scan.tracker.pushAll (lead ++ start)).push last) = some kind := by
    rw [Rules.opened?_eq proper, Tracker.window_push _ (Tracker.pushAll_grounded _
      boundary.grounded _), Tracker.window_pushAll _ boundary.grounded, boundary.window]
    simpa [whole] using opens.endedBy?
  have opened : scan.run rules kept (lead ++ rules.prologue kind) =
      openRegion rules
        { scan with
          tracker := scan.tracker.pushAll (lead ++ rules.prologue kind)
          draft := scan.draft.push (lead ++ rules.prologue kind) } kind := by
    rw [split, run_append, copied, Tracker.pushAll_append _ (lead ++ start),
      Draft.push_append _ (lead ++ start)]
    exact step_opening rules kept
      { scan with
        tracker := scan.tracker.pushAll (lead ++ start)
        draft := scan.draft.push (lead ++ start) } last kind boundary.outside seen
  have position : scan.tracker.consumed.size + (lead ++ rules.prologue kind).length -
      (rules.prologue kind).length = scan.tracker.consumed.size + lead.length := by
    rw [List.length_append]
    omega
  rw [opened]
  refine ⟨?_, ?_, ?_⟩
  · simp only [openRegion, Tracker.pushAll_size, position]
  · simp only [openRegion, Draft.push_append, Draft.push_drop]
  · exact ⟨Nat.le_refl _, Nat.le_refl _, by simp [openRegion, Tracker.openRegion, Tracker.window,
      Tracker.enter, Tracker.fresh, Tracker.start, TailBuffer.empty], rfl, rfl, rfl⟩

/-- Inside a region, a text that does not close it is put out only if the region is
kept. -/
theorem run_inside (rules : Rules) (kept : Kind) (scan : Scan) (text : Text)
    (region : OpenRegion) (next : Tracker) (inside : scan.region = some region)
    (followed : scan.tracker.follow? rules.stringAware text = some next) :
    scan.run rules kept text =
      { scan with tracker := next, draft := scan.draft.push (region.kind.shown kept text) } := by
  induction text generalizing scan with
  | nil =>
    obtain rfl : scan.tracker = next := Option.some.inj followed
    simp [run, Kind.shown, Draft.push]
  | cons char rest inductionHypothesis =>
    by_cases closed : (scan.tracker.read rules.stringAware char).2 = true
    · rw [Tracker.follow?, if_pos closed] at followed
      exact absurd followed (by simp)
    · rw [Tracker.follow?, if_neg closed] at followed
      have stepped := step_inside rules kept scan char region inside (by simpa using closed)
      have rested := inductionHypothesis (scan.step rules kept char)
        (by rw [stepped]; exact inside) (by rw [stepped]; exact followed)
      rw [stepped] at rested
      have shown : region.kind.shown kept (char :: rest) =
          region.kind.shown kept [char] ++ region.kind.shown kept rest :=
        region.kind.shown_append kept [char] rest
      rw [shown, Draft.push_append]
      exact (congrArg (run rules kept · rest) stepped).trans rested

/-- A body and its closing brace lead to a boundary. -/
theorem run_closing (rules : Rules) (kept : Kind) (scan : Scan) (body : Text)
    (region : OpenRegion) (inside : scan.region = some region)
    (closes : scan.tracker.closesAfter rules.stringAware body = true) :
    (scan.run rules kept (body ++ ['}'])).AtBoundary ∧
      (scan.run rules kept (body ++ ['}'])).draft =
        scan.draft.push (region.kind.shown kept body) := by
  unfold Tracker.closesAfter at closes
  cases followed : scan.tracker.follow? rules.stringAware body with
  | none => simp [followed] at closes
  | some next =>
    rw [followed] at closes
    have reached := run_inside rules kept scan body region next inside followed
    have stepped := step_closing rules kept
      { scan with tracker := next, draft := scan.draft.push (region.kind.shown kept body) }
      '}' region inside closes
    have whole := (congrArg (step rules kept · '}') reached).trans stepped
    rw [run_append]
    change AtBoundary (step rules kept (scan.run rules kept body) '}') ∧
      (step rules kept (scan.run rules kept body) '}').draft = _
    rw [whole]
    exact ⟨⟨rfl, rfl⟩, rfl⟩

/-- One whole round, from a boundary to the next: the lead is copied and of the
region's body what is kept. The region behaves as it would alone, because its
tracker agrees with a fresh one above the floor. -/
theorem run_block {rules : Rules} (proper : rules.Proper) (kept : Kind) (scan : Scan)
    (boundary : scan.AtBoundary) (lead body : Text) (kind : Kind)
    (opens : rules.Opens lead kind)
    (closes : Tracker.fresh.closesAfter rules.stringAware body = true) :
    (scan.run rules kept (lead ++ rules.prologue kind ++ (body ++ ['}']))).AtBoundary ∧
      (scan.run rules kept (lead ++ rules.prologue kind ++ (body ++ ['}']))).draft =
        scan.draft.push (lead ++ kind.shown kept body) := by
  obtain ⟨region, draft, agree⟩ := run_opening proper kept scan boundary lead kind opens
  have closesHere := (agree.closesAfter rules.stringAware body).trans closes
  obtain ⟨final, shown⟩ := run_closing rules kept _ body _ region closesHere
  rw [run_append]
  refine ⟨final, ?_⟩
  rw [shown, draft, Draft.push_append]

end Scan

end RegionBuild.Region
