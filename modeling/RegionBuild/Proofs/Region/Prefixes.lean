import Mathlib.Data.List.DropRight
import RegionBuild.Proofs.Region.Layout

/-!
# Pruning the beginnings of a source

The regions of a source have places: where the prologue starts and ends, and where the
closing brace is. A source that is cut off has the same regions as far as it goes. So
whether pruning fails is known from the places alone: exactly if the cut is after the
end of a prologue and not after the closing brace of its region.

What was put out before a cut can be taken back by what follows, since a prologue may
have begun. Of the prologue at least one character is missing at the cut, so never more
than that is taken back.
-/

namespace RegionBuild.Region

/-- The place of a region: where its prologue starts, the position after the prologue,
and the position of the closing brace if there is one. -/
structure Span where
  kind : Kind
  start : Nat
  stop : Nat
  close : Option Nat
deriving DecidableEq, Repr

namespace Span

/-- The same region with so many characters more in front. -/
def later (count : Nat) (span : Span) : Span where
  kind := span.kind
  start := count + span.start
  stop := count + span.stop
  close := span.close.map (count + ·)

/-- A text of the size ends inside the region: after its prologue and before its closing
brace. -/
def Covers (span : Span) (size : Nat) : Prop :=
  span.stop ≤ size ∧ ∀ close, span.close = some close → size ≤ close

/-- In the source the prologue stands at the place, and the closing brace if there is
one. -/
structure Marks (rules : Rules) (source : Text) (span : Span) : Prop where
  prologue : source.take span.stop = source.take span.start ++ rules.prologue span.kind
  brace : ∀ close, span.close = some close → source[close]? = some '}'

/-- More in front moves the place. -/
theorem Marks.later {rules : Rules} {source : Text} {span : Span} (front : Text)
    (marks : span.Marks rules source) : (span.later front.length).Marks rules (front ++ source) where
  prologue := by
    simp only [Span.later, List.take_length_add_append, marks.prologue, List.append_assoc]
  brace := by
    intro close closed
    obtain ⟨earlier, same, rfl⟩ := Option.map_eq_some_iff.mp closed
    rw [List.getElem?_append_right (Nat.le_add_right _ _), Nat.add_sub_cancel_left]
    exact marks.brace earlier same

/-- What is in front counts for the size as well. -/
theorem covers_later {count size : Nat} (span : Span) (reached : count ≤ size) :
    (span.later count).Covers size ↔ span.Covers (size - count) := by
  simp only [Covers, later, Option.map_eq_some_iff]
  constructor
  · rintro ⟨entered, closes⟩
    refine ⟨by omega, ?_⟩
    intro close closed
    have bound := closes (count + close) ⟨close, closed, rfl⟩
    omega
  · rintro ⟨entered, closes⟩
    refine ⟨by omega, ?_⟩
    rintro _ ⟨close, closed, rfl⟩
    have bound := closes close closed
    omega

/-- A text that ends in front of a region does not end inside it. -/
theorem not_covers_later {count size : Nat} (span : Span) (short : size < count) :
    ¬ (span.later count).Covers size := by
  rintro ⟨entered, _⟩
  simp only [later] at entered
  omega

end Span

/-- The place of a region with its prologue after a lead. -/
def Rules.spanOf (rules : Rules) (lead : Text) (kind : Kind) (close : Option Nat) : Span where
  kind := kind
  start := lead.length
  stop := (lead ++ rules.prologue kind).length
  close := close

/-- A prologue after a lead is at its place. -/
theorem Rules.spanOf_marks (rules : Rules) (lead after : Text) (kind : Kind) {close : Option Nat}
    (brace : ∀ position, close = some position →
      (lead ++ rules.prologue kind ++ after)[position]? = some '}') :
    (rules.spanOf lead kind close).Marks rules (lead ++ rules.prologue kind ++ after) where
  prologue := by
    have start : (lead ++ rules.prologue kind ++ after).take lead.length = lead := by
      rw [List.append_assoc, List.take_left]
    simp only [Rules.spanOf, List.take_left, start]
  brace := brace

/-- The place of a block's region in the block's part of the source. -/
def Block.span (rules : Rules) (block : Block) : Span :=
  rules.spanOf block.lead block.kind
    (some (block.lead ++ rules.prologue block.kind ++ block.body).length)

namespace Layout

/-- The places of the regions that are closed, and of the one that is left open. -/
def spansOf (rules : Rules) (rest : Text) (unclosed : Option Unclosed) : List Block → List Span
  | [] => unclosed.toList.map fun region => rules.spanOf rest region.kind none
  | block :: more =>
    block.span rules ::
      (spansOf rules rest unclosed more).map (Span.later (block.source rules).length)

/-- The places of all regions, in order. -/
def spans (rules : Rules) (layout : Layout) : List Span :=
  spansOf rules layout.rest layout.unclosed layout.blocks

/-- The layout of the first characters of a source that is one region after a lead. -/
def cutRegion (rules : Rules) (lead : Text) (kind : Kind) (inner : Text) (size : Nat) : Layout :=
  if size < (lead ++ rules.prologue kind).length then
    ⟨[], (lead ++ rules.prologue kind).take size, none⟩
  else
    ⟨[], lead, some ⟨kind, inner.take (size - (lead ++ rules.prologue kind).length)⟩⟩

/-- The layout of the first characters of a source with these blocks, this rest and this
open region. -/
def cutBlocks (rules : Rules) (rest : Text) (unclosed : Option Unclosed) :
    List Block → Nat → Layout
  | [], size =>
    match unclosed with
    | none => ⟨[], rest.take size, none⟩
    | some region => cutRegion rules rest region.kind region.tail size
  | block :: more, size =>
    if size < (block.source rules).length then
      cutRegion rules block.lead block.kind block.body size
    else
      cons block (cutBlocks rules rest unclosed more (size - (block.source rules).length))

/-- The layout of the first characters of a source. -/
def cut (rules : Rules) (layout : Layout) (size : Nat) : Layout :=
  cutBlocks rules layout.rest layout.unclosed layout.blocks size

end Layout

/-- A tracker that follows a text follows its beginnings. -/
theorem Tracker.follow?_take {stringAware : Bool} {tracker : Tracker} {text : Text}
    (followed : (tracker.follow? stringAware text).isSome = true) (size : Nat) :
    (tracker.follow? stringAware (text.take size)).isSome = true := by
  rw [← List.take_append_drop size text, follow?_append] at followed
  cases reached : tracker.follow? stringAware (text.take size) with
  | none => simp [reached] at followed
  | some next => rfl

/-- A tracker follows a body that ends where the region closes. -/
theorem Tracker.follow?_of_closesAfter {stringAware : Bool} {tracker : Tracker} {body : Text}
    (closes : tracker.closesAfter stringAware body = true) :
    (tracker.follow? stringAware body).isSome = true := by
  cases followed : tracker.follow? stringAware body with
  | none => simp [Tracker.closesAfter, followed] at closes
  | some next => rfl

namespace Layout

/-- A source with one region is divided wherever it is cut. Before the end of the prologue
it has no region, and from there on it has one that is open. -/
theorem divides_cutRegion {rules : Rules} {lead inner : Text} {kind : Kind}
    (opens : rules.Opens lead kind)
    (followed : (Tracker.fresh.follow? rules.stringAware inner).isSome = true) (size : Nat) :
    (cutRegion rules lead kind inner size).Divides rules
      ((lead ++ rules.prologue kind ++ inner).take size) := by
  by_cases short : size < (lead ++ rules.prologue kind).length
  · rw [List.take_append_of_le_length (Nat.le_of_lt short), cutRegion, if_pos short]
    apply Divides.of_quiet
    apply opens.absent (List.take_prefix size _)
    rw [List.length_take]
    omega
  · rw [cutRegion, if_neg short, List.take_append, List.take_of_length_le (Nat.le_of_not_lt short)]
    exact Divides.of_unclosed opens (Tracker.follow?_take followed _)

/-- The cut layout divides the first characters of the source.

Induct over the blocks. A cut inside the first one leaves at most its region; after it the
block stays whole and the cut is in what follows. -/
theorem Divides.cut {rules : Rules} {layout : Layout} {source : Text}
    (divides : layout.Divides rules source) (size : Nat) :
    (layout.cut rules size).Divides rules (source.take size) := by
  obtain ⟨blocks, rest, unclosed⟩ := layout
  induction blocks generalizing source size with
  | nil =>
    have whole := divides.source_eq
    cases unclosed with
    | none =>
      obtain rfl : rest = source := by simpa [Layout.source, before] using whole
      apply Divides.of_quiet
      intro kind occurs
      exact divides.quiet rfl kind (occurs.trans (List.take_prefix size rest).isInfix)
    | some region =>
      obtain ⟨opens, followed⟩ := divides.opened region rfl
      obtain rfl : rest ++ rules.prologue region.kind ++ region.tail = source := by
        simpa [Layout.source, before] using whole
      exact divides_cutRegion opens followed size
  | cons block more inductionHypothesis =>
    obtain ⟨sound, divided, whole⟩ := divides.uncons block ⟨more, rest, unclosed⟩
    rw [← whole]
    by_cases inside : size < (block.source rules).length
    · have last : block.source rules =
          block.lead ++ rules.prologue block.kind ++ block.body ++ ['}'] := by
        simp [Block.source]
      have bound : size ≤ (block.lead ++ rules.prologue block.kind ++ block.body).length := by
        rw [last, List.length_append, List.length_singleton] at inside
        omega
      rw [List.take_append_of_le_length (Nat.le_of_lt inside), last,
        List.take_append_of_le_length bound]
      simp only [Layout.cut, cutBlocks, inside, ↓reduceIte]
      exact divides_cutRegion sound.opens (Tracker.follow?_of_closesAfter sound.closes) size
    · rw [List.take_append, List.take_of_length_le (Nat.le_of_not_lt inside)]
      simp only [Layout.cut, cutBlocks, inside, ↓reduceIte]
      exact Divides.cons block sound (inductionHypothesis _ divided)

/-- The kind of the region that is left open, and where its prologue starts. -/
def openAt (rules : Rules) (layout : Layout) : Option (Kind × Nat) :=
  layout.unclosed.map fun region => (region.kind, (layout.before rules).length)

/-- A cut leaves the first region open exactly if it is in its place. -/
theorem openAt_cutRegion (rules : Rules) (lead inner : Text) (kind : Kind) (close : Option Nat)
    (size : Nat) (bounded : ∀ brace, close = some brace → size ≤ brace) (found : Kind × Nat) :
    (cutRegion rules lead kind inner size).openAt rules = some found ↔
      (rules.spanOf lead kind close).Covers size ∧ found = (kind, lead.length) := by
  by_cases short : size < (lead ++ rules.prologue kind).length
  · rw [cutRegion, if_pos short]
    refine iff_of_false (by simp [openAt]) ?_
    rintro ⟨⟨entered, _⟩, _⟩
    exact Nat.not_le.mpr short entered
  · rw [cutRegion, if_neg short]
    constructor
    · intro same
      refine ⟨⟨Nat.le_of_not_lt short, bounded⟩, ?_⟩
      simpa [openAt, before, eq_comm] using same
    · rintro ⟨_, rfl⟩
      simp [openAt, before]

/-- A cut layout has an open region exactly if the cut is in the place of a region, which
is then the one that is open. -/
theorem openAt_cut (rules : Rules) (layout : Layout) (size : Nat) (found : Kind × Nat) :
    (layout.cut rules size).openAt rules = some found ↔
      ∃ span ∈ layout.spans rules, span.Covers size ∧ found = (span.kind, span.start) := by
  obtain ⟨blocks, rest, unclosed⟩ := layout
  induction blocks generalizing size found with
  | nil =>
    cases unclosed with
    | none => simp [spans, spansOf, cut, cutBlocks, openAt]
    | some region =>
      have opening := openAt_cutRegion rules rest region.tail region.kind none size (by simp) found
      simpa [spans, spansOf, cut, cutBlocks, Rules.spanOf] using opening
  | cons block more inductionHypothesis =>
    have brace : (block.source rules).length =
        (block.lead ++ rules.prologue block.kind ++ block.body).length + 1 := by
      simp [Block.source, Nat.add_assoc]
    simp only [spans, spansOf, cut, cutBlocks, List.mem_cons, List.mem_map]
    by_cases inside : size < (block.source rules).length
    · have bounded : ∀ close, (block.span rules).close = some close → size ≤ close := by
        intro close same
        rw [← Option.some.inj same]
        omega
      simp only [inside, ↓reduceIte, openAt_cutRegion rules block.lead block.body block.kind
        (block.span rules).close size bounded found]
      constructor
      · rintro ⟨covers, rfl⟩
        exact ⟨block.span rules, Or.inl rfl, covers, rfl⟩
      · rintro ⟨span, rfl | ⟨other, _, rfl⟩, covers, rfl⟩
        · exact ⟨covers, rfl⟩
        · exact absurd covers (other.not_covers_later inside)
    · have reached := Nat.le_of_not_lt inside
      have shifted : (cons block (cutBlocks rules rest unclosed more
          (size - (block.source rules).length))).openAt rules =
            ((cut rules ⟨more, rest, unclosed⟩ (size - (block.source rules).length)).openAt
              rules).map fun earlier => (earlier.1, (block.source rules).length + earlier.2) := by
        simp [openAt, cut, cons, before, Option.map_map, Function.comp_def]
      simp only [inside, ↓reduceIte, shifted, Option.map_eq_some_iff]
      constructor
      · rintro ⟨earlier, same, rfl⟩
        obtain ⟨span, listed, covers, rfl⟩ := (inductionHypothesis _ _).mp same
        exact ⟨span.later _, Or.inr ⟨span, listed, rfl⟩, (span.covers_later reached).mpr covers,
          rfl⟩
      · rintro ⟨span, rfl | ⟨earlier, listed, rfl⟩, covers, rfl⟩
        · have bound := covers.2 _ rfl
          omega
        · exact ⟨_, (inductionHypothesis _ _).mpr
            ⟨earlier, listed, (earlier.covers_later reached).mp covers, rfl⟩, rfl⟩

/-- The places are those of the prologues and closing braces in the source. -/
theorem Divides.marks {rules : Rules} {layout : Layout} {source : Text}
    (divides : layout.Divides rules source) :
    ∀ span ∈ layout.spans rules, span.Marks rules source := by
  obtain ⟨blocks, rest, unclosed⟩ := layout
  induction blocks generalizing source with
  | nil =>
    have whole := divides.source_eq
    intro span listed
    obtain ⟨region, left, rfl⟩ : ∃ region, unclosed = some region ∧
        rules.spanOf rest region.kind none = span := by
      simpa [Layout.spans, spansOf] using listed
    obtain rfl : rest ++ rules.prologue region.kind ++ region.tail = source := by
      simpa [Layout.source, before, left] using whole
    exact rules.spanOf_marks rest region.tail region.kind (by simp)
  | cons block more inductionHypothesis =>
    obtain ⟨sound, divided, whole⟩ := divides.uncons block ⟨more, rest, unclosed⟩
    intro span listed
    rcases List.mem_cons.mp listed with rfl | listed
    · have split : block.lead ++ rules.prologue block.kind ++
          (block.body ++ '}' :: Layout.source rules ⟨more, rest, unclosed⟩) = source := by
        rw [← whole]
        simp [Block.source]
      rw [← split]
      apply rules.spanOf_marks
      intro position same
      rw [← Option.some.inj same, ← List.append_assoc, List.getElem?_append_right (Nat.le_refl _)]
      simp
    · obtain ⟨earlier, inside, rfl⟩ := List.mem_map.mp listed
      rw [← whole]
      exact (inductionHypothesis divided earlier inside).later (block.source rules)

end Layout

/-- How much of the output a later prologue can take back: all of a prologue but its last
character. -/
def Rules.reach (rules : Rules) : Nat := max rules.client.length rules.server.length - 1

/-- No prologue is longer than the reach and one character. -/
theorem Rules.length_prologue_le (rules : Rules) (kind : Kind) :
    (rules.prologue kind).length ≤ rules.reach + 1 := by
  cases kind with
  | client =>
    have bound := Nat.le_max_left rules.client.length rules.server.length
    simp only [Rules.prologue, Rules.reach]
    omega
  | server =>
    have bound := Nat.le_max_right rules.client.length rules.server.length
    simp only [Rules.prologue, Rules.reach]
    omega

/-- What is taken back from a text with something in front comes off its end, and only then
off the front. -/
theorem rdrop_append_starts (front : Text) {text whole : Text} {count : Nat}
    (within : text.rdrop count <+: whole) : (front ++ text).rdrop count <+: front ++ whole := by
  simp only [List.rdrop, List.length_append] at within ⊢
  by_cases short : text.length < count
  · rw [List.take_append_of_le_length (by omega)]
    exact (List.take_prefix _ front).trans (List.prefix_append front whole)
  · have sizes : front.length + text.length - count = front.length + (text.length - count) := by
      omega
    rw [sizes, List.take_length_add_append]
    exact (List.prefix_append_right_inj front).mpr within

namespace Layout

/-- A cut before the end of a prologue leaves the lead and what there is of the prologue. -/
theorem shown_cutRegion {rules : Rules} {lead inner : Text} {kind : Kind} {size : Nat}
    (kept : Kind) (closed : (cutRegion rules lead kind inner size).unclosed = none) :
    ((cutRegion rules lead kind inner size).shown kept).rdrop rules.reach <+: lead := by
  by_cases short : size < (lead ++ rules.prologue kind).length
  · rw [cutRegion, if_pos short]
    have bound := rules.length_prologue_le kind
    rw [List.length_append] at short
    have whole : lead <+: lead ++ rules.prologue kind := List.prefix_append _ _
    refine List.prefix_of_prefix_length_le ?_ whole ?_
    · simp only [shown, List.flatMap_nil, List.nil_append, List.rdrop]
      exact (List.take_prefix _ _).trans (List.take_prefix _ _)
    · simp only [shown, List.flatMap_nil, List.nil_append, List.rdrop, List.length_take,
        List.length_append]
      omega
  · rw [cutRegion, if_neg short] at closed
    cases closed

/-- What is kept of the first characters of a source is kept of the source, but for what a
prologue takes back. -/
theorem shown_cut {rules : Rules} {layout : Layout} {size : Nat} (kept : Kind)
    (closed : (layout.cut rules size).unclosed = none) :
    ((layout.cut rules size).shown kept).rdrop rules.reach <+: layout.shown kept := by
  obtain ⟨blocks, rest, unclosed⟩ := layout
  induction blocks generalizing size with
  | nil =>
    cases unclosed with
    | none =>
      simp only [cut, cutBlocks, shown, List.flatMap_nil, List.nil_append, List.rdrop]
      exact (List.take_prefix _ _).trans (List.take_prefix _ _)
    | some region => exact shown_cutRegion kept closed
  | cons block more inductionHypothesis =>
    simp only [cut, cutBlocks] at closed ⊢
    by_cases inside : size < (block.source rules).length
    · simp only [inside, ↓reduceIte] at closed ⊢
      refine (shown_cutRegion kept closed).trans ?_
      simp [shown, Block.shown]
    · simp only [inside, ↓reduceIte] at closed ⊢
      have rested := rdrop_append_starts (block.shown kept) (inductionHypothesis closed)
      simpa [shown, cons, cut] using rested

end Layout

end RegionBuild.Region

namespace RegionBuild.Pruner

open Region

/-- Pruning a source that is cut off fails exactly if the cut is inside the place of one of
its regions, with the line of that region's prologue. -/
theorem process_take_eq_error_iff (pruner : Pruner) {path : Text} (architecture : Text)
    (scanned : pruner.bypasses path = false) {source : Text} {layout : Layout}
    (divides : layout.Divides pruner.rules source) (size : Nat) (fault : Unterminated) :
    pruner.process (source.take size) path architecture = .error fault ↔
      ∃ span ∈ layout.spans pruner.rules, span.Covers size ∧
        fault = ⟨path, (source.take span.start).count '\n' + 1, span.kind⟩ := by
  have divided := divides.cut size
  have openings := layout.openAt_cut pruner.rules size
  rw [pruner.process_divides _ path architecture scanned _ divided]
  generalize layout.cut pruner.rules size = part at divided openings
  have within : part.before pruner.rules <+: source := by
    refine List.IsPrefix.trans ?_ (List.take_prefix size source)
    rw [← divided.source_eq]
    exact List.prefix_append _ _
  cases left : part.unclosed with
  | none =>
    simp only [Layout.openAt, left, Option.map_none] at openings
    refine iff_of_false (by simp [Layout.outcome, left]) ?_
    rintro ⟨span, listed, covers, _⟩
    cases (openings _).mpr ⟨span, listed, covers, rfl⟩
  | some region =>
    simp only [Layout.openAt, left, Option.map_some, Option.some.injEq] at openings
    have lines : ∀ start, start = (part.before pruner.rules).length →
        part.before pruner.rules = source.take start := by
      rintro start rfl
      exact List.prefix_iff_eq_take.mp within
    simp only [Layout.outcome, left, Except.error.injEq]
    constructor
    · rintro rfl
      obtain ⟨span, listed, covers, same⟩ := (openings _).mp rfl
      obtain ⟨kinds, starts⟩ := Prod.mk.inj same
      exact ⟨span, listed, covers, by rw [kinds, lines span.start starts.symm]⟩
    · rintro ⟨span, listed, covers, rfl⟩
      obtain ⟨kinds, starts⟩ := Prod.mk.inj ((openings _).mpr ⟨span, listed, covers, rfl⟩)
      rw [kinds, lines span.start starts.symm]

/-- What is put out of the first characters of a source is put out of more of them, but for
what a prologue takes back. -/
theorem rdrop_process_take (pruner : Pruner) {path architecture : Text}
    (scanned : pruner.bypasses path = false) {source : Text} {size size' : Nat}
    (shorter : size ≤ size') {text text' : Text}
    (done : pruner.process (source.take size) path architecture = .ok text)
    (done' : pruner.process (source.take size') path architecture = .ok text') :
    text.rdrop pruner.rules.reach <+: text' := by
  obtain ⟨layout, divides⟩ := Layout.exists_divides pruner.rules_proper (source.take size')
  have divided := divides.cut size
  rw [List.take_take, Nat.min_eq_left shorter] at divided
  rw [pruner.process_divides _ path architecture scanned _ divided] at done
  rw [pruner.process_divides _ path architecture scanned _ divides] at done'
  have shown : ∀ {part : Layout} {output : Text},
      part.outcome pruner.rules (pruner.kept architecture) path = .ok output →
        part.unclosed = none ∧ part.shown (pruner.kept architecture) = output := by
    intro part output given
    cases left : part.unclosed with
    | none => exact ⟨rfl, by simpa [Layout.outcome, left] using given⟩
    | some region => simp [Layout.outcome, left] at given
  obtain ⟨closed, rfl⟩ := shown done
  obtain ⟨_, rfl⟩ := shown done'
  exact Layout.shown_cut _ closed

/-- Every source has its regions at places, and what pruning its first characters gives is
known from them. It fails exactly if these characters end after the prologue of a region and
before its closing brace, with the kind of that region and the line of its prologue. Of two
beginnings that can be pruned, the output of the shorter one starts that of the longer one,
but for as many characters at its end as a prologue can have without its last one. -/
theorem process_take (pruner : Pruner) (path architecture : Text)
    (scanned : pruner.bypasses path = false) (source : Text) :
    ∃ layout : Layout, layout.Divides pruner.rules source ∧
      (∀ span ∈ layout.spans pruner.rules, span.Marks pruner.rules source) ∧
      (∀ size fault, pruner.process (source.take size) path architecture = .error fault ↔
        ∃ span ∈ layout.spans pruner.rules, span.Covers size ∧
          fault = ⟨path, (source.take span.start).count '\n' + 1, span.kind⟩) ∧
      ∀ size size' text text', size ≤ size' →
        pruner.process (source.take size) path architecture = .ok text →
        pruner.process (source.take size') path architecture = .ok text' →
        text.rdrop (max pruner.options.clientPrologue.length
          pruner.options.serverPrologue.length - 1) <+: text' := by
  obtain ⟨layout, divides⟩ := Layout.exists_divides pruner.rules_proper source
  refine ⟨layout, divides, divides.marks, ?_, ?_⟩
  · exact pruner.process_take_eq_error_iff architecture scanned divides
  · intro size size' text text' shorter done done'
    exact pruner.rdrop_process_take scanned shorter done done'

/-- A source whose region is on its second line. Cut after the prologue it cannot be pruned,
and cut one character earlier it can. -/
theorem process_take_second_line :
    standard.bypasses "main.ts".toList = false ∧
      standard.process ("\nif (Meteor.isServer) \x7bx\x7d".toList.take 23) "main.ts".toList
        "web".toList = .error ⟨"main.ts".toList, 2, .server⟩ ∧
      standard.process ("\nif (Meteor.isServer) \x7bx\x7d".toList.take 22) "main.ts".toList
        "web".toList = .ok "\nif (Meteor.isServer) ".toList ∧
      ∃ span : Span, span.Covers 23 ∧ ¬ span.Covers 22 ∧
        span.Marks standard.rules "\nif (Meteor.isServer) \x7bx\x7d".toList := by
  have failed : standard.process ("\nif (Meteor.isServer) \x7bx\x7d".toList.take 23)
      "main.ts".toList "web".toList = .error ⟨"main.ts".toList, 2, .server⟩ := by rfl
  have passed : standard.process ("\nif (Meteor.isServer) \x7bx\x7d".toList.take 22)
      "main.ts".toList "web".toList = .ok "\nif (Meteor.isServer) ".toList := by rfl
  refine ⟨by decide, failed, passed, ?_⟩
  obtain ⟨layout, _, marked, fails, _⟩ := process_take standard "main.ts".toList "web".toList
    (by decide) "\nif (Meteor.isServer) \x7bx\x7d".toList
  obtain ⟨span, listed, covers, _⟩ := (fails 23 _).mp failed
  refine ⟨span, covers, ?_, marked span listed⟩
  intro sooner
  have refused := (fails 22 _).mpr ⟨span, listed, sooner, rfl⟩
  rw [passed] at refused
  cases refused

end RegionBuild.Pruner
