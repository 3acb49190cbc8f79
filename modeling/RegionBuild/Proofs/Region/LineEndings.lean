import RegionBuild.Proofs.Region.Concatenation
import RegionBuild.Proofs.Region.LineSteps

/-!
# Pruning and the two ways to end a line

A source is pruned once with line feeds and once with a carriage return before each of
them. If in every region all lines end steadily, the layout of the first source with
its texts rewritten is the layout of the second, and pruning gives the same text with
carriage returns or the same fault on the same line. A pruner that does not follow
literals finds all lines steady. One that does follow them finds some that are not, and
right after each of these a source can go on so that the two prunings part.
-/

namespace RegionBuild.Region

namespace Rules

/-- Prologues without line ends. -/
def Unbroken (rules : Rules) : Prop :=
  ∀ kind, '\n' ∉ rules.prologue kind ∧ '\r' ∉ rules.prologue kind

/-- A prologue without line ends stays as it is. -/
theorem Unbroken.withReturns_prologue {rules : Rules} (unbroken : rules.Unbroken)
    (lead : Text) (kind : Kind) :
    Text.withReturns (lead ++ rules.prologue kind) =
      Text.withReturns lead ++ rules.prologue kind := by
  rw [Text.withReturns_append, Text.withReturns_eq_self (unbroken kind).1]

/-- A region opens at the same prologue however the lines before it end. -/
theorem Opens.withReturns {rules : Rules} (proper : rules.Proper) (unbroken : rules.Unbroken)
    {lead : Text} {kind : Kind} (opens : rules.Opens lead kind) :
    rules.Opens (Text.withReturns lead) kind where
  first := by
    intro other before inside ends
    rw [← unbroken.withReturns_prologue] at inside ⊢
    obtain ⟨front, within, rfl, occurs⟩ := Text.occurs_of_withReturns
      (proper.prologue_ne_nil other) (unbroken other).1 (unbroken other).2 inside ends
    rw [opens.first other front within occurs]
  clientWins := by
    intro ends
    rw [← unbroken.withReturns_prologue] at ends
    exact opens.clientWins (Text.suffix_of_suffix_withReturns (unbroken .client).1 ends)

/-- A text contains no more prologues however its lines end. -/
theorem Unbroken.quiet_withReturns {rules : Rules} (proper : rules.Proper)
    (unbroken : rules.Unbroken) {text : Text} (quiet : ∀ kind, ¬ rules.prologue kind <:+: text)
    (kind : Kind) : ¬ rules.prologue kind <:+: Text.withReturns text := by
  rintro ⟨before, after, whole⟩
  obtain ⟨front, within, _, occurs⟩ := Text.occurs_of_withReturns
    (proper.prologue_ne_nil kind) (unbroken kind).1 (unbroken kind).2
    ⟨after, whole⟩ (List.suffix_append before _)
  exact quiet kind (occurs.isInfix.trans within.isInfix)

end Rules

/-- A block whose lines end with carriage returns. -/
def Block.withReturns (block : Block) : Block :=
  { block with lead := Text.withReturns block.lead, body := Text.withReturns block.body }

namespace Layout

/-- A layout whose lines end with carriage returns. -/
def withReturns (layout : Layout) : Layout where
  blocks := layout.blocks.map Block.withReturns
  rest := Text.withReturns layout.rest
  unclosed := layout.unclosed.map fun region =>
    { region with tail := Text.withReturns region.tail }

/-- In every region all lines end steadily. -/
structure Steady (rules : Rules) (layout : Layout) : Prop where
  blocks : ∀ block ∈ layout.blocks,
    Tracker.fresh.steadyOver rules.stringAware block.body = true
  unclosed : ∀ region, layout.unclosed = some region →
    Tracker.fresh.steadyOver rules.stringAware region.tail = true

/-- What stands before the open region gets its carriage returns. -/
theorem before_withReturns {rules : Rules} (unbroken : rules.Unbroken) (layout : Layout) :
    layout.withReturns.before rules = Text.withReturns (layout.before rules) := by
  have block : ∀ block : Block,
      block.withReturns.source rules = Text.withReturns (block.source rules) := by
    intro block
    have closed : Text.withReturns (block.body ++ ['}']) = Text.withReturns block.body ++ ['}'] :=
      Text.withReturns_append block.body ['}']
    rw [Block.source, Block.source, Text.withReturns_append, unbroken.withReturns_prologue, closed]
    rfl
  rw [before, before, Text.withReturns_append, Text.withReturns_flatMap, withReturns,
    List.flatMap_map]
  simp only [block]

/-- What is kept gets its carriage returns. -/
theorem shown_withReturns (kept : Kind) (layout : Layout) :
    layout.withReturns.shown kept = Text.withReturns (layout.shown kept) := by
  have block : ∀ block : Block,
      block.withReturns.shown kept = Text.withReturns (block.shown kept) := by
    intro block
    rw [Block.shown, Block.shown, Text.withReturns_append]
    by_cases same : block.kind = kept
    · simp [Block.withReturns, Kind.shown, same]
    · simp [Block.withReturns, Kind.shown, same, Text.withReturns]
  rw [shown, shown, Text.withReturns_append, Text.withReturns_flatMap, withReturns,
    List.flatMap_map]
  simp only [block]

/-- The source of a layout gets its carriage returns. -/
theorem source_withReturns {rules : Rules} (unbroken : rules.Unbroken) (layout : Layout) :
    layout.withReturns.source rules = Text.withReturns (layout.source rules) := by
  rw [source, source, before_withReturns unbroken, Text.withReturns_append]
  obtain ⟨blocks, rest, unclosed⟩ := layout
  cases unclosed with
  | none => rfl
  | some region =>
    simp only [withReturns, Option.map_some, Text.withReturns_append,
      Text.withReturns_eq_self (unbroken region.kind).1]

/-- The layout of a source with steady lines is the layout of that source with
carriage returns. -/
theorem Divides.withReturns {rules : Rules} (proper : rules.Proper) (unbroken : rules.Unbroken)
    {layout : Layout} {source : Text} (divides : layout.Divides rules source)
    (steady : layout.Steady rules) :
    layout.withReturns.Divides rules (Text.withReturns source) where
  source_eq := by rw [source_withReturns unbroken, divides.source_eq]
  blocks := by
    intro block inside
    obtain ⟨original, listed, rfl⟩ := List.mem_map.mp inside
    have sound := divides.blocks original listed
    constructor
    · exact sound.opens.withReturns proper unbroken
    · exact (Tracker.SameHalfToken.refl (Nat.le_refl _)).closesAfter_withReturns rules.stringAware _
        (steady.blocks original listed) |>.trans sound.closes
  quiet := by
    intro closed
    exact unbroken.quiet_withReturns proper (divides.quiet (Option.map_eq_none_iff.mp closed))
  opened := by
    intro region left
    obtain ⟨original, left', rfl⟩ := Option.map_eq_some_iff.mp left
    obtain ⟨opens, followed⟩ := divides.opened original left'
    constructor
    · exact opens.withReturns proper unbroken
    · exact (Tracker.SameHalfToken.refl (Nat.le_refl _)).follow?_withReturns_isSome
        rules.stringAware _
        (steady.unclosed original left') |>.trans followed

/-- A layout with carriage returns comes to the same outcome, on the same line. -/
theorem outcome_withReturns {rules : Rules} (unbroken : rules.Unbroken) (kept : Kind)
    (path : Text) (layout : Layout) :
    layout.withReturns.outcome rules kept path =
      Text.withReturns <$> layout.outcome rules kept path := by
  have shown := shown_withReturns kept layout
  have lines := congrArg (List.count '\n') (before_withReturns unbroken layout)
  rw [Text.count_withReturns] at lines
  obtain ⟨blocks, rest, unclosed⟩ := layout
  cases unclosed with
  | none => exact congrArg Except.ok shown
  | some region =>
    exact congrArg (fun count => Except.error (Unterminated.mk path (count + 1) region.kind)) lines

/-- A text that leaves the open region open belongs to its tail. -/
theorem Divides.stays_open {rules : Rules} {blocks : List Block} {rest source tail more : Text}
    {kind : Kind} (divides : Divides rules ⟨blocks, rest, some ⟨kind, tail⟩⟩ source)
    (followed : (Tracker.fresh.follow? rules.stringAware (tail ++ more)).isSome = true) :
    Divides rules ⟨blocks, rest, some ⟨kind, tail ++ more⟩⟩ (source ++ more) where
  source_eq := by
    rw [← divides.source_eq]
    simp [Layout.source, before]
  blocks := divides.blocks
  quiet := nofun
  opened := by
    intro region same
    obtain rfl : ⟨kind, tail ++ more⟩ = region := Option.some.inj same
    exact ⟨(divides.opened ⟨kind, tail⟩ rfl).1, followed⟩

end Layout

namespace Scan

/-- Whether every line that ends inside a region ends steadily. -/
def steadyLines (rules : Rules) (kept : Kind) : Scan → Text → Bool
  | _, [] => true
  | scan, char :: rest =>
    (char != '\n' || scan.region.isNone || scan.tracker.steady) &&
      steadyLines rules kept (scan.step rules kept char) rest

/-- A text is scanned part by part. -/
theorem steadyLines_append (rules : Rules) (kept : Kind) (scan : Scan) (first second : Text) :
    scan.steadyLines rules kept (first ++ second) =
      (scan.steadyLines rules kept first &&
        (scan.run rules kept first).steadyLines rules kept second) := by
  induction first generalizing scan with
  | nil => rfl
  | cons char rest inductionHypothesis =>
    rw [List.cons_append, steadyLines, steadyLines, inductionHypothesis, Bool.and_assoc]
    rfl

/-- Outside regions every line ends steadily. -/
theorem steadyLines_outside {rules : Rules} {kept : Kind} {scan : Scan} {text : Text}
    (outside : ∀ before char, before ++ [char] <+: text →
      (scan.run rules kept before).region = none) :
    scan.steadyLines rules kept text = true := by
  induction text generalizing scan with
  | nil => rfl
  | cons char rest inductionHypothesis =>
    have here : scan.region = none := outside [] char (by simp)
    have later : (scan.step rules kept char).steadyLines rules kept rest = true := by
      apply inductionHypothesis
      intro before next inside
      exact outside (char :: before) next (List.cons_prefix_cons.mpr ⟨rfl, inside⟩)
    rw [steadyLines, here, later]
    simp

/-- Inside a region the tracker decides. -/
theorem steadyLines_inside {rules : Rules} {kept : Kind} {scan : Scan} {region : OpenRegion}
    {text : Text} {next : Tracker} (inside : scan.region = some region)
    (followed : scan.tracker.follow? rules.stringAware text = some next) :
    scan.steadyLines rules kept text = scan.tracker.steadyOver rules.stringAware text := by
  induction text generalizing scan with
  | nil => rfl
  | cons char rest inductionHypothesis =>
    by_cases closed : (scan.tracker.read rules.stringAware char).2 = true
    · rw [Tracker.follow?, if_pos closed] at followed
      cases followed
    · rw [Tracker.follow?, if_neg closed] at followed
      have stepped := step_inside rules kept scan char region inside (by simpa using closed)
      have rested := @inductionHypothesis (scan.step rules kept char)
        (by rw [stepped]; exact inside) (by rw [stepped]; exact followed)
      rw [steadyLines, Tracker.steadyOver, rested, inside, stepped]
      simp

/-- From a boundary on, a scan stays outside as long as it sees no prologue. -/
theorem AtBoundary.run_outside {rules : Rules} (proper : rules.Proper) (kept : Kind)
    {scan : Scan} (boundary : scan.AtBoundary) {text : Text}
    (quiet : ∀ before, before <+: text → rules.endedBy? before = none) :
    (scan.run rules kept text).region = none := by
  rw [run_quiet proper kept scan [] text boundary.outside boundary.grounded boundary.window
    fun before inside _ => quiet before inside]
  exact boundary.outside

/-- Up to the prologue that opens a region every line ends steadily. -/
theorem AtBoundary.steadyLines_opening {rules : Rules} (proper : rules.Proper) (kept : Kind)
    {scan : Scan} (boundary : scan.AtBoundary) {lead : Text} {kind : Kind}
    (opens : rules.Opens lead kind) :
    scan.steadyLines rules kept (lead ++ rules.prologue kind) = true := by
  apply steadyLines_outside
  intro before char inside
  apply boundary.run_outside proper kept
  intro start starts
  apply opens.quiet start (starts.trans ((List.prefix_append before [char]).trans inside))
  rintro rfl
  exact absurd (inside.trans starts).length_le (by simp)

/-- In a rest without prologues every line ends steadily. -/
theorem AtBoundary.steadyLines_quiet {rules : Rules} (proper : rules.Proper) (kept : Kind)
    {scan : Scan} (boundary : scan.AtBoundary) {rest : Text}
    (quiet : ∀ kind, ¬ rules.prologue kind <:+: rest) :
    scan.steadyLines rules kept rest = true := by
  apply steadyLines_outside
  intro before char inside
  apply boundary.run_outside proper kept
  intro start starts
  exact Rules.endedBy?_of_absent quiet
    (starts.trans ((List.prefix_append before [char]).trans inside))

/-- Once a region is open, the lines of what a fresh tracker follows end as steadily
for the scan as for that tracker. -/
theorem AtBoundary.steadyLines_opened {rules : Rules} (proper : rules.Proper) (kept : Kind)
    {scan : Scan} (boundary : scan.AtBoundary) {lead : Text} {kind : Kind}
    (opens : rules.Opens lead kind) {text : Text}
    (followed : (Tracker.fresh.follow? rules.stringAware text).isSome = true) :
    scan.steadyLines rules kept (lead ++ rules.prologue kind ++ text) =
      Tracker.fresh.steadyOver rules.stringAware text := by
  obtain ⟨region, _, agree⟩ := run_opening proper kept scan boundary lead kind opens
  rw [← agree.follow?_isSome rules.stringAware text] at followed
  obtain ⟨next, reached⟩ := Option.isSome_iff_exists.mp followed
  rw [steadyLines_append, boundary.steadyLines_opening proper kept opens, Bool.true_and,
    steadyLines_inside region reached, agree.steadyOver]

/-- The lines of a source end steadily exactly if they do in every region of its
layout.

Induct over the blocks; each one leads from a boundary to the next. -/
theorem steadyLines_iff {rules : Rules} (proper : rules.Proper) (kept : Kind) (scan : Scan)
    (boundary : scan.AtBoundary) (layout : Layout) (source : Text)
    (divides : layout.Divides rules source) :
    scan.steadyLines rules kept source = true ↔ layout.Steady rules := by
  obtain ⟨blocks, rest, unclosed⟩ := layout
  induction blocks generalizing scan source with
  | nil =>
    have whole := divides.source_eq
    cases unclosed with
    | none =>
      obtain rfl : rest = source := by simpa [Layout.source, Layout.before] using whole
      exact iff_of_true (boundary.steadyLines_quiet proper kept (divides.quiet rfl))
        ⟨by simp, by simp⟩
    | some region =>
      obtain ⟨opens, followed⟩ := divides.opened region rfl
      have split : source = rest ++ rules.prologue region.kind ++ region.tail := by
        simpa [Layout.source, Layout.before] using whole.symm
      rw [split, boundary.steadyLines_opened proper kept opens followed]
      constructor
      · intro steady
        exact ⟨by simp, fun other same => Option.some.inj same ▸ steady⟩
      · intro steady
        exact steady.unclosed region rfl
  | cons block more inductionHypothesis =>
    obtain ⟨sound, divided, whole⟩ := divides.uncons block ⟨more, rest, unclosed⟩
    obtain ⟨next, _⟩ := run_block proper kept scan boundary block.lead block.body block.kind
      sound.opens sound.closes
    have body : (Tracker.fresh.follow? rules.stringAware block.body).isSome = true := by
      have closes := sound.closes
      unfold Tracker.closesAfter at closes
      cases followed : Tracker.fresh.follow? rules.stringAware block.body with
      | none => rw [followed] at closes; exact closes
      | some _ => rfl
    -- The closing brace is no line feed, so it adds nothing to the body.
    have here : scan.steadyLines rules kept (block.source rules) =
        Tracker.fresh.steadyOver rules.stringAware block.body := by
      rw [Block.source, ← List.append_assoc, steadyLines_append,
        boundary.steadyLines_opened proper kept sound.opens body]
      exact Bool.and_true _
    rw [← whole, steadyLines_append, here, Bool.and_eq_true,
      inductionHypothesis (scan.run rules kept (block.source rules)) next _ divided]
    constructor
    · rintro ⟨first, later⟩
      refine ⟨fun member inside => ?_, later.unclosed⟩
      rcases List.mem_cons.mp inside with rfl | inside
      · exact first
      · exact later.blocks member inside
    · intro steady
      exact ⟨steady.blocks block List.mem_cons_self,
        fun member inside => steady.blocks member (List.mem_cons_of_mem block inside),
        steady.unclosed⟩

end Scan

end RegionBuild.Region

namespace RegionBuild.Pruner

open Region

/-- Whether every line of a source that ends inside a region ends steadily. -/
def steadyLines (pruner : Pruner) (source architecture : Text) : Bool :=
  Scan.start.steadyLines pruner.rules (pruner.kept architecture) source

/-- Where all lines end steadily pruning does not depend on how they end. -/
theorem process_withReturns_of_steady (pruner : Pruner) (unbroken : pruner.rules.Unbroken)
    (path architecture : Text) (scanned : pruner.bypasses path = false) (source : Text)
    (steady : pruner.steadyLines source architecture = true) :
    pruner.process (Text.withReturns source) path architecture =
      Text.withReturns <$> pruner.process source path architecture := by
  obtain ⟨layout, divides⟩ := Layout.exists_divides pruner.rules_proper source
  have steady' := (Scan.steadyLines_iff pruner.rules_proper _ _ Scan.start_atBoundary layout
    source divides).mp steady
  rw [pruner.process_divides _ path architecture scanned _
      (divides.withReturns pruner.rules_proper unbroken steady'),
    pruner.process_divides source path architecture scanned layout divides,
    Layout.outcome_withReturns unbroken]

/-- Where literals are not followed all lines end steadily. -/
theorem steadyLines_of_unaware (pruner : Pruner) (unaware : pruner.options.stringAware = false)
    (source architecture : Text) : pruner.steadyLines source architecture = true := by
  obtain ⟨layout, divides⟩ := Layout.exists_divides pruner.rules_proper source
  have fresh : Tracker.Unquoted .fresh := ⟨Nat.le_refl _, Or.inl rfl, fun _ slash => by
    exact absurd slash (by decide), nofun⟩
  have rules : pruner.rules.stringAware = false := unaware
  apply (Scan.steadyLines_iff pruner.rules_proper _ _ Scan.start_atBoundary layout source
    divides).mpr
  constructor
  · intro block _
    rw [rules]
    exact fresh.steadyOver block.body
  · intro region _
    rw [rules]
    exact fresh.steadyOver region.tail

/-- A line that does not end steadily ends inside a region that the text up to it
leaves open. -/
theorem exists_unsteady (pruner : Pruner) (architecture front : Text)
    (steady : pruner.steadyLines front architecture = true)
    (unsteady : pruner.steadyLines (front ++ ['\n']) architecture = false) :
    ∃ blocks rest kind tail next,
      Layout.Divides pruner.rules ⟨blocks, rest, some ⟨kind, tail⟩⟩ front ∧
        Layout.Steady pruner.rules ⟨blocks, rest, some ⟨kind, tail⟩⟩ ∧
        Tracker.fresh.follow? pruner.rules.stringAware tail = some next ∧
        next.steady = false := by
  obtain ⟨⟨blocks, rest, unclosed⟩, divides⟩ := Layout.exists_divides pruner.rules_proper front
  have steadily := fun layout source =>
    Scan.steadyLines_iff pruner.rules_proper (pruner.kept architecture) Scan.start
      Scan.start_atBoundary layout source
  have steady' := (steadily _ front divides).mp steady
  cases unclosed with
  | none =>
    obtain ⟨region, _⟩ := Scan.run_divides pruner.rules_proper (pruner.kept architecture)
      Scan.start Scan.start_atBoundary _ front divides
    have outside : pruner.steadyLines (front ++ ['\n']) architecture = true := by
      unfold steadyLines at steady ⊢
      rw [Scan.steadyLines_append, steady, Scan.steadyLines, region]
      rfl
    rw [outside] at unsteady
    cases unsteady
  | some region =>
    obtain ⟨kind, tail⟩ := region
    obtain ⟨next, followed⟩ := Option.isSome_iff_exists.mp (divides.opened _ rfl).2
    have goesOn : (next.read pruner.rules.stringAware '\n').2 ≠ true := by
      intro closed
      exact absurd (Tracker.read_closed _ next '\n' closed) (by decide)
    have followed' : (Tracker.fresh.follow? pruner.rules.stringAware (tail ++ ['\n'])).isSome =
        true := by
      rw [Tracker.follow?_append, followed, Option.bind_some, Tracker.follow?, if_neg goesOn]
      rfl
    refine ⟨blocks, rest, kind, tail, next, divides, steady', followed, ?_⟩
    rw [Bool.eq_false_iff]
    intro steadyHere
    have longer := (steadily _ _ (divides.stays_open followed')).mpr ⟨steady'.blocks, by
      intro region same
      obtain rfl : ⟨kind, tail ++ ['\n']⟩ = region := Option.some.inj same
      rw [Tracker.steadyOver_append followed, steady'.unclosed _ rfl, Tracker.steadyOver,
        steadyHere]
      rfl⟩
    unfold steadyLines at unsteady
    rw [longer] at unsteady
    cases unsteady

/-- Up to the first line that does not end steadily, nothing depends on how lines end.
There, some continuation makes a difference. -/
theorem exists_process_withReturns_ne (pruner : Pruner) (unbroken : pruner.rules.Unbroken)
    (path architecture : Text) (scanned : pruner.bypasses path = false) (front : Text)
    (steady : pruner.steadyLines front architecture = true)
    (unsteady : pruner.steadyLines (front ++ ['\n']) architecture = false) :
    ∃ after : Text, (∀ char ∈ after, isLineEnd char = false) ∧
      pruner.process (Text.withReturns (front ++ '\n' :: after)) path architecture ≠
        Text.withReturns <$> pruner.process (front ++ '\n' :: after) path architecture := by
  have aware : pruner.rules.stringAware = true := by
    rw [← Bool.not_eq_false]
    intro unaware
    rw [pruner.steadyLines_of_unaware unaware] at unsteady
    cases unsteady
  obtain ⟨blocks, rest, kind, tail, next, divides, steady', followed, unsteadyHere⟩ :=
    pruner.exists_unsteady architecture front steady unsteady
  have divides' : Layout.Divides pruner.rules ⟨blocks.map Block.withReturns,
      Text.withReturns rest, some ⟨kind, Text.withReturns tail⟩⟩ (Text.withReturns front) :=
    divides.withReturns pruner.rules_proper unbroken steady'
  obtain ⟨next', followed', pair⟩ := (Tracker.SameHalfToken.refl (Nat.le_refl _)).exists_withReturns
    (steady'.unclosed _ rfl) followed
  have ongoing := Tracker.fresh_ongoing.follow? followed
  obtain ⟨after, oneLine, apart⟩ := pair.feed_apart ongoing unsteadyHere aware
  have sameLine : ∀ char ∈ after ++ ['}'], isLineEnd char = false := by
    intro char inside
    rcases List.mem_append.mp inside with here | last
    · exact oneLine char here
    · rw [List.mem_singleton.mp last]
      rfl
  have rewritten : Text.withReturns (front ++ '\n' :: (after ++ ['}'])) =
      Text.withReturns front ++ '\r' :: '\n' :: (after ++ ['}']) := by
    have unfed : '\n' ∉ after ++ ['}'] := fun inside =>
      absurd (sameLine '\n' inside) (by decide)
    rw [Text.withReturns_append, Text.withReturns_feed, Text.withReturns_eq_self unfed]
  refine ⟨after ++ ['}'], sameLine, ?_⟩
  rw [rewritten]
  rcases apart with ⟨stays, closes⟩ | ⟨closes, stays⟩
  · rw [← Tracker.follow?_resumed followed] at stays
    rw [← Tracker.closesAfter_resumed followed'] at closes
    have fails := pruner.process_divides _ path architecture scanned _ (divides.stays_open stays)
    have succeeds := pruner.process_divides _ path architecture scanned _
      (divides'.closed closes (.nil pruner.rules_proper))
    rw [List.cons_append, List.cons_append] at succeeds
    rw [fails, succeeds]
    nofun
  · rw [← Tracker.follow?_resumed followed'] at stays
    rw [← Tracker.closesAfter_resumed followed] at closes
    have fails := pruner.process_divides _ path architecture scanned _ (divides'.stays_open stays)
    have succeeds := pruner.process_divides _ path architecture scanned _
      (divides.closed closes (.nil pruner.rules_proper))
    rw [List.cons_append] at succeeds
    rw [fails, succeeds]
    nofun

/-- How lines end makes no difference where literals are not followed, and none where
all lines inside regions end steadily: pruning gives the same text with carriage
returns or the same fault. This is as far as it goes. After every start of a source
that is steady up to a line end that is not, a continuation on the same line makes a
difference. -/
theorem process_withReturns (pruner : Pruner) (unbroken : pruner.rules.Unbroken)
    (path architecture : Text) (scanned : pruner.bypasses path = false) :
    (pruner.options.stringAware = false → ∀ source : Text,
        pruner.process (Text.withReturns source) path architecture =
          Text.withReturns <$> pruner.process source path architecture) ∧
      (∀ source : Text, pruner.steadyLines source architecture = true →
        pruner.process (Text.withReturns source) path architecture =
          Text.withReturns <$> pruner.process source path architecture) ∧
      ∀ front : Text, pruner.steadyLines front architecture = true →
        pruner.steadyLines (front ++ ['\n']) architecture = false →
          ∃ after : Text, (∀ char ∈ after, isLineEnd char = false) ∧
            pruner.process (Text.withReturns (front ++ '\n' :: after)) path architecture ≠
              Text.withReturns <$> pruner.process (front ++ '\n' :: after) path architecture := by
  have steadily := pruner.process_withReturns_of_steady unbroken path architecture scanned
  refine ⟨?_, steadily, ?_⟩
  · intro unaware source
    exact steadily source (pruner.steadyLines_of_unaware unaware source architecture)
  · exact pruner.exists_process_withReturns_ne unbroken path architecture scanned

/-- Lines that end in code, in a comment, in a template and after a string, and one
that ends inside an escape. -/
theorem process_withReturns_escape :
    standard.rules.Unbroken ∧ standard.bypasses "main.ts".toList = false ∧
      standard.process
          "a\r\nif (Meteor.isClient) \x7bx // \x7d\r\ny('z')\r\n\x60\r\n\x7d\x60\x7d\r\n".toList
          "main.ts".toList "web".toList =
        .ok "a\r\nx // \x7d\r\ny('z')\r\n\x60\r\n\x7d\x60\r\n".toList ∧
      ∃ after : Text, standard.process
          (Text.withReturns ("if (Meteor.isClient) \x7b'\\".toList ++ '\n' :: after))
          "main.ts".toList "web".toList ≠
        Text.withReturns <$> standard.process
          ("if (Meteor.isClient) \x7b'\\".toList ++ '\n' :: after) "main.ts".toList
          "web".toList := by
  have unbroken : standard.rules.Unbroken := fun kind => by cases kind <;> decide
  have scanned : standard.bypasses "main.ts".toList = false := by decide
  obtain ⟨_, steadily, apart⟩ :=
    process_withReturns standard unbroken "main.ts".toList "web".toList scanned
  have same := steadily
    "a\nif (Meteor.isClient) \x7bx // \x7d\ny('z')\n\x60\n\x7d\x60\x7d\n".toList (by rfl)
  obtain ⟨after, _, differ⟩ := apart "if (Meteor.isClient) \x7b'\\".toList (by rfl) (by rfl)
  exact ⟨unbroken, scanned, same, after, differ⟩

/-- An escaped line end continues a string only if it is one character, and a word goes
on behind a line comment only then. -/
theorem process_line_ends_differ :
    standard.process "if (Meteor.isClient) \x7b'\\\n\x7d'\x7d".toList "main.ts".toList
        "web".toList = .ok "'\\\n\x7d'".toList ∧
      standard.process "if (Meteor.isClient) \x7b'\\\r\n\x7d'\x7d".toList "main.ts".toList
        "web".toList = .ok "'\\\r\n'\x7d".toList ∧
      standard.process "if (Meteor.isClient) \x7belse//\nreturn/\x7d/\x7d".toList
        "main.ts".toList "web".toList = .ok "else//\nreturn//\x7d".toList ∧
      standard.process "if (Meteor.isClient) \x7belse//\r\nreturn/\x7d/\x7d".toList
        "main.ts".toList "web".toList = .ok "else//\r\nreturn/\x7d/".toList := by
  refine ⟨?_, ?_, ?_, ?_⟩ <;> rfl

end RegionBuild.Pruner
