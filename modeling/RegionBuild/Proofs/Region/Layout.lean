import RegionBuild.Proofs.Region.Scanning
import RegionBuild.Proofs.Text.Search
import RegionBuild.Pruner

/-!
# The layout of a source

A source divides into closed regions, each with the text before it, a rest, and
possibly a region that is never closed. A division is said without the scan: where
each region opens is decided by the first prologue that ends after the previous
region, and where it closes by a fresh tracker on its body alone.

Every source divides in exactly one way, and the division depends on the prologues
but not on the architecture. Pruning for an architecture is then a plain projection
of the layout: the text outside the regions with the bodies of the kept ones, or a
fault that names the region left open.
-/

namespace RegionBuild.Region

/-- A closed region and the text before its prologue. -/
structure Block where
  lead : Text
  kind : Kind
  body : Text
deriving DecidableEq, Repr

/-- A region that is never closed, with everything after its prologue. -/
structure Unclosed where
  kind : Kind
  tail : Text
deriving DecidableEq, Repr

/-- The closed regions of a source, the text after the last one, and the region
that is left open if there is one. -/
structure Layout where
  blocks : List Block
  rest : Text
  unclosed : Option Unclosed
deriving DecidableEq, Repr

/-- The part of a source that a block stands for. -/
def Block.source (rules : Rules) (block : Block) : Text :=
  block.lead ++ rules.prologue block.kind ++ (block.body ++ ['}'])

/-- The block's region opens at the first prologue that ends in it, and a fresh
region closes exactly at its last character. -/
structure Block.Sound (rules : Rules) (block : Block) : Prop where
  opens : rules.Opens block.lead block.kind
  closes : Tracker.fresh.closesAfter rules.stringAware block.body = true

/-- What is kept of a block. -/
def Block.shown (kept : Kind) (block : Block) : Text :=
  block.lead ++ block.kind.shown kept block.body

namespace Layout

/-- Everything before the region that is left open. -/
def before (rules : Rules) (layout : Layout) : Text :=
  layout.blocks.flatMap (Block.source rules) ++ layout.rest

/-- The source with this layout. -/
def source (rules : Rules) (layout : Layout) : Text :=
  layout.before rules ++
    match layout.unclosed with
    | none => []
    | some region => rules.prologue region.kind ++ region.tail

/-- What is kept of all blocks, and the rest. -/
def shown (kept : Kind) (layout : Layout) : Text :=
  layout.blocks.flatMap (Block.shown kept) ++ layout.rest

/-- A layout is a division of a source: all blocks are sound, and the rest either
contains no prologue or leads to the region that is left open, whose tail a fresh
tracker follows to its end. -/
structure Divides (rules : Rules) (layout : Layout) (source : Text) : Prop where
  source_eq : layout.source rules = source
  blocks : ∀ block ∈ layout.blocks, block.Sound rules
  quiet : layout.unclosed = none → ∀ kind, ¬ rules.prologue kind <:+: layout.rest
  opened : ∀ region, layout.unclosed = some region →
    rules.Opens layout.rest region.kind ∧
      (Tracker.fresh.follow? rules.stringAware region.tail).isSome = true

end Layout

namespace Rules

/-- A prologue seen at the end of a text is a suffix of it, and it is the client's if
that one is a suffix. -/
theorem endedBy?_eq_some {rules : Rules} {text : Text} {kind : Kind}
    (seen : rules.endedBy? text = some kind) :
    rules.prologue kind <:+ text ∧ (rules.client <:+ text → kind = .client) := by
  unfold endedBy? at seen
  split at seen
  · next client =>
    obtain rfl : Kind.client = kind := Option.some.inj seen
    exact ⟨client, fun _ => rfl⟩
  · next client =>
    split at seen
    · next server =>
      obtain rfl : Kind.server = kind := Option.some.inj seen
      exact ⟨server, fun ends => absurd ends client⟩
    · exact absurd seen (by simp)

/-- Either no prologue ends within the first characters of a text, or there is a
shortest prefix that ends with one. -/
theorem quiet_or_shortest (rules : Rules) (text : Text) (size : Nat) :
    (∀ before, before <+: text → before.length < size → rules.endedBy? before = none) ∨
      ∃ before kind, before <+: text ∧ rules.endedBy? before = some kind ∧
        ∀ shorter, shorter <+: text → shorter.length < before.length →
          rules.endedBy? shorter = none := by
  induction size with
  | zero => exact Or.inl (by simp)
  | succ size inductionHypothesis =>
    rcases inductionHypothesis with quiet | found
    · cases seen : rules.endedBy? (text.take size) with
      | none =>
        refine Or.inl ?_
        intro before inside bound
        rcases Nat.lt_or_eq_of_le (Nat.le_of_lt_succ bound) with shorter | same
        · exact quiet before inside shorter
        · rw [List.prefix_iff_eq_take.mp inside, same]
          exact seen
      | some kind =>
        refine Or.inr ⟨text.take size, kind, List.take_prefix size text, seen, ?_⟩
        intro shorter inside bound
        exact quiet shorter inside (Nat.lt_of_lt_of_le bound (List.length_take_le size text))
    · exact Or.inr found

/-- In a text that contains no prologue none is ever seen. -/
theorem endedBy?_of_absent {rules : Rules} {text before : Text}
    (absent : ∀ kind, ¬ rules.prologue kind <:+: text) (inside : before <+: text) :
    rules.endedBy? before = none := by
  rw [endedBy?_eq_none_iff]
  intro kind ends
  exact absent kind (ends.isInfix.trans inside.isInfix)

/-- A text contains no prologue, or the first prologue that ends opens a region. -/
theorem quiet_or_opens (rules : Rules) (text : Text) :
    (∀ kind, ¬ rules.prologue kind <:+: text) ∨
      ∃ lead kind rest, text = lead ++ rules.prologue kind ++ rest ∧ rules.Opens lead kind := by
  rcases rules.quiet_or_shortest text (text.length + 1) with
    quiet | ⟨before, kind, inside, seen, shortest⟩
  · refine Or.inl ?_
    rintro kind ⟨front, back, whole⟩
    have within : front ++ rules.prologue kind <+: text := ⟨back, whole⟩
    have unseen := quiet _ within (Nat.lt_succ_of_le within.length_le)
    exact (rules.endedBy?_eq_none_iff _).mp unseen kind (List.suffix_append _ _)
  · obtain ⟨⟨lead, whole⟩, clientWins⟩ := endedBy?_eq_some seen
    obtain ⟨rest, rfl⟩ := inside
    refine Or.inr ⟨lead, kind, rest, by rw [whole], ?_, by rwa [whole]⟩
    intro other sooner within ends
    rw [whole] at within ⊢
    rcases Nat.lt_or_ge sooner.length before.length with shorter | longer
    · have unseen := shortest sooner (within.trans (List.prefix_append _ _)) shorter
      exact absurd ends ((rules.endedBy?_eq_none_iff _).mp unseen other)
    · exact within.eq_of_length_le longer

/-- Short of the place where a region opens there is no prologue. -/
theorem Opens.absent {rules : Rules} {lead text : Text} {kind : Kind}
    (opens : rules.Opens lead kind) (within : text <+: lead ++ rules.prologue kind)
    (shorter : text.length < (lead ++ rules.prologue kind).length) (other : Kind) :
    ¬ rules.prologue other <:+: text := by
  rintro ⟨front, back, whole⟩
  have ended : front ++ rules.prologue other <+: text := ⟨back, whole⟩
  have same := opens.first other _ (ended.trans within) (List.suffix_append _ _)
  have sizes := ended.length_le
  rw [same] at sizes
  omega

/-- A text opens its first region in one way only. Of two openings neither can end
before the other, and at the same end the client's prologue decides the kind. -/
theorem Opens.unique {rules : Rules} {lead lead' rest rest' : Text} {kind kind' : Kind}
    (opens : rules.Opens lead kind) (opens' : rules.Opens lead' kind')
    (same : lead ++ rules.prologue kind ++ rest = lead' ++ rules.prologue kind' ++ rest') :
    lead = lead' ∧ kind = kind' ∧ rest = rest' := by
  have ends : lead ++ rules.prologue kind = lead' ++ rules.prologue kind' := by
    rcases List.prefix_or_prefix_of_prefix (List.prefix_append _ rest)
      (same ▸ List.prefix_append _ rest') with within | within
    · exact opens'.first kind _ within (List.suffix_append _ _)
    · exact (opens.first kind' _ within (List.suffix_append _ _)).symm
  have kinds : kind = kind' := by
    have seen := opens.endedBy?
    rw [ends, opens'.endedBy?] at seen
    exact (Option.some.inj seen).symm
  subst kinds
  refine ⟨List.append_cancel_right ends, rfl, ?_⟩
  rw [ends] at same
  exact List.append_cancel_left same

end Rules

namespace Layout

/-- The layout of a source that starts with a block. -/
def cons (block : Block) (layout : Layout) : Layout :=
  { layout with blocks := block :: layout.blocks }

/-- A block in front stands before everything else in the source. -/
theorem source_cons (rules : Rules) (block : Block) (layout : Layout) :
    (cons block layout).source rules = block.source rules ++ layout.source rules := by
  simp [source, before, cons]

/-- What is kept is what is left when some of the source is taken away. -/
theorem shown_sublist (rules : Rules) (kept : Kind) (layout : Layout) :
    (layout.shown kept).Sublist (layout.source rules) := by
  have block : ∀ block : Block, (block.shown kept).Sublist (block.source rules) := by
    intro block
    have body : (block.kind.shown kept block.body).Sublist (block.body ++ ['}']) := by
      unfold Kind.shown
      split
      · exact List.sublist_append_left _ _
      · exact List.nil_sublist _
    unfold Block.shown Block.source
    rw [List.append_assoc]
    exact (List.Sublist.refl _).append (body.trans (List.sublist_append_right _ _))
  have blocks : (layout.blocks.flatMap (Block.shown kept)).Sublist
      (layout.blocks.flatMap (Block.source rules)) := by
    induction layout.blocks with
    | nil => exact List.Sublist.refl _
    | cons first rest inductionHypothesis => exact (block first).append inductionHypothesis
  exact (blocks.append (List.Sublist.refl _)).trans (List.sublist_append_left _ _)

/-- A sound block in front of a division divides the longer source. -/
theorem Divides.cons {rules : Rules} {layout : Layout} {source : Text} (block : Block)
    (sound : block.Sound rules) (divides : layout.Divides rules source) :
    (Layout.cons block layout).Divides rules (block.source rules ++ source) where
  source_eq := by rw [source_cons, divides.source_eq]
  blocks := by
    intro member inside
    rcases List.mem_cons.mp inside with rfl | inside
    · exact sound
    · exact divides.blocks member inside
  quiet := divides.quiet
  opened := divides.opened

/-- A division with a block in front divides what comes after the block. -/
theorem Divides.uncons {rules : Rules} {source : Text} (block : Block) (layout : Layout)
    (divides : (Layout.cons block layout).Divides rules source) :
    block.Sound rules ∧ layout.Divides rules (layout.source rules) ∧
      block.source rules ++ layout.source rules = source := by
  refine ⟨divides.blocks block List.mem_cons_self, ⟨rfl, ?_, divides.quiet, divides.opened⟩, ?_⟩
  · intro member inside
    exact divides.blocks member (List.mem_cons_of_mem block inside)
  · rw [← source_cons, divides.source_eq]

/-- A source that contains no prologue has no regions. -/
theorem Divides.of_quiet {rules : Rules} {source : Text}
    (quiet : ∀ kind, ¬ rules.prologue kind <:+: source) :
    Divides rules ⟨[], source, none⟩ source :=
  ⟨by simp [Layout.source, before], by simp, fun _ => quiet, by simp⟩

/-- A source whose first region is never closed has no other. -/
theorem Divides.of_unclosed {rules : Rules} {lead tail : Text} {kind : Kind}
    (opens : rules.Opens lead kind)
    (followed : (Tracker.fresh.follow? rules.stringAware tail).isSome = true) :
    Divides rules ⟨[], lead, some ⟨kind, tail⟩⟩ (lead ++ rules.prologue kind ++ tail) where
  source_eq := by simp [Layout.source, before]
  blocks := by simp
  quiet := by simp
  opened := by
    intro region same
    obtain rfl : ⟨kind, tail⟩ = region := Option.some.inj same
    exact ⟨opens, followed⟩

/-- Every source has a layout.

Induct on the length. Without a prologue the source is all rest. Otherwise the
first one opens a region; either its tail is followed to the end and the region
stays open, or it closes and the shorter remainder has a layout. -/
theorem exists_divides {rules : Rules} (proper : rules.Proper) (source : Text) :
    ∃ layout : Layout, layout.Divides rules source := by
  generalize size : source.length = count
  induction count using Nat.strongRecOn generalizing source with
  | ind count inductionHypothesis =>
    rcases rules.quiet_or_opens source with quiet | ⟨lead, kind, after, rfl, opens⟩
    · exact ⟨_, .of_quiet quiet⟩
    · rcases Tracker.fresh.follow?_or_closes rules.stringAware after with
        ⟨next, followed⟩ | ⟨body, remainder, rfl, closes⟩
      · exact ⟨_, .of_unclosed opens (by simp [followed])⟩
      · have shorter : remainder.length < count := by
          have positive := List.length_pos_iff.mpr (proper.prologue_ne_nil kind)
          simp only [← size, List.length_append, List.length_cons]
          omega
        obtain ⟨layout, divides⟩ := inductionHypothesis _ shorter remainder rfl
        refine ⟨cons ⟨lead, kind, body⟩ layout, ?_⟩
        have whole := Divides.cons ⟨lead, kind, body⟩ ⟨opens, closes⟩ divides
        simpa [Block.source] using whole

/-- A source without closed regions cannot be divided with one: its block would
open inside a rest without prologues, or close inside a tail that never closes. -/
theorem Divides.blocks_ne_cons {rules : Rules} {layout other : Layout} {source : Text}
    {block : Block} (empty : layout.blocks = []) (divides : layout.Divides rules source)
    (sound : block.Sound rules) : block.source rules ++ other.source rules ≠ source := by
  intro same
  have whole := divides.source_eq.trans same.symm
  simp only [Layout.source, before, empty, Block.source, List.flatMap_nil, List.nil_append,
    List.append_assoc] at whole
  cases left : layout.unclosed with
  | none =>
    refine divides.quiet left block.kind ⟨block.lead, block.body ++ '}' :: other.source rules, ?_⟩
    simpa [left, Layout.source, before] using whole.symm
  | some region =>
    obtain ⟨opens, followed⟩ := divides.opened region left
    have split : layout.rest ++ rules.prologue region.kind ++ region.tail =
        block.lead ++ rules.prologue block.kind ++
          (block.body ++ '}' :: other.source rules) := by
      simpa [left, Layout.source, before] using whole
    obtain ⟨_, _, tails⟩ := opens.unique sound.opens split
    have stopped := Tracker.fresh.follow?_eq_none_of_closesAfter rules.stringAware block.body
      (other.source rules) sound.closes
    simp [tails, stopped] at followed

/-- Two layouts of a source without closed regions are the same. -/
theorem Divides.unique_of_nil {rules : Rules} {rest rest' source : Text}
    {unclosed unclosed' : Option Unclosed}
    (divides : Divides rules ⟨[], rest, unclosed⟩ source)
    (divides' : Divides rules ⟨[], rest', unclosed'⟩ source) :
    rest = rest' ∧ unclosed = unclosed' := by
  have whole := divides.source_eq.trans divides'.source_eq.symm
  simp only [Layout.source, before, List.flatMap_nil, List.nil_append] at whole
  cases unclosed with
  | none =>
    cases unclosed' with
    | none => exact ⟨by simpa using whole, rfl⟩
    | some region =>
      refine absurd ?_ (divides.quiet rfl region.kind)
      exact ⟨rest', region.tail, by simpa using whole.symm⟩
  | some region =>
    obtain ⟨opens, _⟩ := divides.opened region rfl
    cases unclosed' with
    | none =>
      refine absurd ?_ (divides'.quiet rfl region.kind)
      exact ⟨rest, region.tail, by simpa using whole⟩
    | some other =>
      obtain ⟨opens', _⟩ := divides'.opened other rfl
      obtain ⟨rests, kinds, tails⟩ := opens.unique opens' (by simpa using whole)
      obtain ⟨kind, tail⟩ := region
      obtain ⟨kind', tail'⟩ := other
      exact ⟨rests, by rw [show kind = kind' from kinds, show tail = tail' from tails]⟩

/-- A source has one layout only.

Induct over the blocks of one layout. The first regions of both open at the same
place and close at the same brace, so their blocks agree and the same source is
left for the rest of both. -/
theorem Divides.unique {rules : Rules} {layout layout' : Layout} {source : Text}
    (divides : layout.Divides rules source) (divides' : layout'.Divides rules source) :
    layout = layout' := by
  obtain ⟨blocks, rest, unclosed⟩ := layout
  obtain ⟨blocks', rest', unclosed'⟩ := layout'
  induction blocks generalizing blocks' source with
  | nil =>
    cases blocks' with
    | nil =>
      obtain ⟨rests, left⟩ := divides.unique_of_nil divides'
      rw [rests, left]
    | cons block' more' =>
      obtain ⟨sound, _, whole⟩ := Divides.uncons block' ⟨more', rest', unclosed'⟩ divides'
      exact absurd whole (divides.blocks_ne_cons rfl sound)
  | cons block more inductionHypothesis =>
    obtain ⟨sound, divided, whole⟩ := Divides.uncons block ⟨more, rest, unclosed⟩ divides
    cases blocks' with
    | nil => exact absurd whole (divides'.blocks_ne_cons rfl sound)
    | cons block' more' =>
      obtain ⟨sound', divided', whole'⟩ :=
        Divides.uncons block' ⟨more', rest', unclosed'⟩ divides'
      have same := whole.trans whole'.symm
      simp only [Block.source, List.append_assoc] at same
      obtain ⟨leads, kinds, afters⟩ := sound.opens.unique sound'.opens (by simpa using same)
      obtain ⟨bodies, remainders⟩ := Tracker.fresh.closesAfter_unique rules.stringAware _ _ _ _
        afters sound.closes sound'.closes
      have later := inductionHypothesis divided more' (remainders ▸ divided')
      obtain ⟨lead, kind, body⟩ := block
      obtain ⟨lead', kind', body'⟩ := block'
      simp only [mk.injEq, List.cons.injEq, Block.mk.injEq] at later ⊢
      exact ⟨⟨⟨leads, kinds, bodies⟩, later.1⟩, later.2⟩

end Layout

/-- A run over a divided source, from any boundary on: it ends inside exactly the
region that is left open, and otherwise has put out what the layout shows.

Induct over the blocks. Each one leads from a boundary to the next, so the rest of
the blocks finds the same situation as the first. -/
theorem Scan.run_divides {rules : Rules} (proper : rules.Proper) (kept : Kind) (scan : Scan)
    (boundary : scan.AtBoundary) (layout : Layout) (source : Text)
    (divides : layout.Divides rules source) :
    (scan.run rules kept source).region = layout.unclosed.map (fun region =>
        ⟨region.kind, scan.tracker.consumed.size + (layout.before rules).length⟩) ∧
      (layout.unclosed = none →
        (scan.run rules kept source).draft = scan.draft.push (layout.shown kept)) := by
  obtain ⟨blocks, rest, unclosed⟩ := layout
  induction blocks generalizing scan source with
  | nil =>
    have whole := divides.source_eq
    cases unclosed with
    | none =>
      obtain rfl : rest = source := by simpa [Layout.source, Layout.before] using whole
      have copied := run_quiet proper kept scan [] rest boundary.outside boundary.grounded
        boundary.window (fun before inside _ => Rules.endedBy?_of_absent (divides.quiet rfl) inside)
      rw [copied]
      exact ⟨boundary.outside, fun _ => by simp [Layout.shown]⟩
    | some region =>
      obtain ⟨opens, followed⟩ := divides.opened region rfl
      obtain ⟨opened, _, agree⟩ := run_opening proper kept scan boundary rest region.kind opens
      obtain ⟨next, reached⟩ : ∃ next, (scan.run rules kept
          (rest ++ rules.prologue region.kind)).tracker.follow? rules.stringAware region.tail =
            some next := by
        rw [← agree.follow?_isSome rules.stringAware region.tail] at followed
        exact Option.isSome_iff_exists.mp followed
      have split : source = rest ++ rules.prologue region.kind ++ region.tail := by
        simpa [Layout.source, Layout.before] using whole.symm
      have stayed := run_inside rules kept _ region.tail _ next opened reached
      rw [split, run_append, stayed]
      exact ⟨by simpa [Layout.before] using opened, by simp⟩
  | cons block more inductionHypothesis =>
    obtain ⟨sound, divided, whole⟩ := divides.uncons block ⟨more, rest, unclosed⟩
    obtain ⟨next, shown⟩ := run_block proper kept scan boundary block.lead block.body block.kind
      sound.opens sound.closes
    obtain ⟨region, draft⟩ := inductionHypothesis _ next _ divided
    have position : scan.tracker.consumed.size +
        (Layout.before rules ⟨block :: more, rest, unclosed⟩).length =
          (scan.run rules kept (block.source rules)).tracker.consumed.size +
            (Layout.before rules ⟨more, rest, unclosed⟩).length := by
      rw [run_size]
      simp [Layout.before, Nat.add_assoc]
    rw [← whole, run_append, position]
    refine ⟨region, fun closed => ?_⟩
    rw [Block.source, draft closed, shown, ← Draft.push_append]
    simp [Layout.shown, Block.shown]

/-- What pruning makes of a layout. The fault names the line on which the prologue
of the open region starts. -/
def Layout.outcome (rules : Rules) (kept : Kind) (path : Text) (layout : Layout) :
    Except Unterminated Text :=
  match layout.unclosed with
  | none => .ok (layout.shown kept)
  | some region => .error ⟨path, (layout.before rules).count '\n' + 1, region.kind⟩

end RegionBuild.Region

namespace RegionBuild.Pruner

open Region

/-- An accepted pruner tells its prologues apart. -/
theorem rules_proper (pruner : Pruner) : pruner.rules.Proper :=
  ⟨pruner.client_ne_nil, pruner.server_ne_nil, pruner.client_ne_server⟩

/-- A source mentions a region exactly if the bytes of a prologue occur among its
bytes. -/
theorem mentionsRegion_iff_bytes (pruner : Pruner) (source : Text) :
    pruner.mentionsRegion source = true ↔
      ∃ kind, Utf8.encode (pruner.rules.prologue kind) <:+: Utf8.encode source := by
  have client : pruner.options.clientPrologue.isEmpty = false := by
    simpa using pruner.client_ne_nil
  have server : pruner.options.serverPrologue.isEmpty = false := by
    simpa using pruner.server_ne_nil
  simp only [mentionsRegion, Text.containsAny, List.any_cons, List.any_nil, client, server,
    Bool.not_false, Bool.true_and, Bool.or_false, Bool.or_eq_true, Text.contains_iff_bytes]
  constructor
  · rintro (occurs | occurs)
    · exact ⟨.client, occurs⟩
    · exact ⟨.server, occurs⟩
  · rintro ⟨kind, occurs⟩
    cases kind with
    | client => exact Or.inl occurs
    | server => exact Or.inr occurs

/-- A source mentions a region exactly if it contains a prologue. -/
theorem mentionsRegion_iff (pruner : Pruner) (source : Text) :
    pruner.mentionsRegion source = true ↔ ∃ kind, pruner.rules.prologue kind <:+: source := by
  simp only [mentionsRegion_iff_bytes, Utf8.encode_infix_iff]

/-- A scan that has reached a boundary goes on as the layout of the text after it
says. What was put out before stays in front, and lines count from the start. -/
theorem scanned_resumed (pruner : Pruner) (done after path architecture : Text)
    (boundary : (Scan.start.run pruner.rules (pruner.kept architecture) done).AtBoundary)
    (layout : Layout) (divides : layout.Divides pruner.rules after) :
    pruner.scanned (done ++ after) path architecture =
      match layout.unclosed with
      | none =>
        .ok ((Scan.start.run pruner.rules (pruner.kept architecture) done).draft.toText ++
          layout.shown (pruner.kept architecture))
      | some region =>
        .error ⟨path, (done ++ layout.before pruner.rules).count '\n' + 1, region.kind⟩ := by
  obtain ⟨region, draft⟩ := Scan.run_divides pruner.rules_proper (pruner.kept architecture) _
    boundary layout after divides
  have size : (Scan.start.run pruner.rules (pruner.kept architecture) done).tracker.consumed.size =
      done.length := by
    rw [Scan.run_size]
    exact Nat.zero_add _
  have front : (done ++ after).take (done.length + (layout.before pruner.rules).length) =
      done ++ layout.before pruner.rules := by
    rw [← divides.source_eq, Layout.source, ← List.append_assoc, ← List.length_append,
      List.take_left]
  unfold Pruner.scanned scan
  rw [Scan.run_append]
  cases left : layout.unclosed with
  | none => simp only [region, left, Option.map_none, draft left, Draft.push_toText]
  | some unclosed => simp only [region, left, Option.map_some, size, Text.lineAt, front]

/-- The scan of a divided source. -/
theorem scanned_divides (pruner : Pruner) (source path architecture : Text) (layout : Layout)
    (divides : layout.Divides pruner.rules source) :
    pruner.scanned source path architecture =
      layout.outcome pruner.rules (pruner.kept architecture) path :=
  pruner.scanned_resumed [] source path architecture Scan.start_atBoundary layout divides

/-- A source outside the bypass roots gives what its scan gives. Where the scan is
skipped it would have found no region. -/
theorem process_eq_scanned (pruner : Pruner) (source path architecture : Text)
    (scanned : pruner.bypasses path = false) :
    pruner.process source path architecture = pruner.scanned source path architecture := by
  unfold process
  rw [scanned]
  by_cases mentioned : pruner.mentionsRegion source = true
  · simp [mentioned]
  · have quiet : ∀ kind, ¬ pruner.rules.prologue kind <:+: source := by
      intro kind occurs
      exact mentioned ((pruner.mentionsRegion_iff source).mpr ⟨kind, occurs⟩)
    have whole := pruner.scanned_divides source path architecture _ (.of_quiet quiet)
    simp [mentioned, whole, Layout.outcome, Layout.shown]

/-- Pruning projects the layout of a source. -/
theorem process_divides (pruner : Pruner) (source path architecture : Text)
    (scanned : pruner.bypasses path = false) (layout : Layout)
    (divides : layout.Divides pruner.rules source) :
    pruner.process source path architecture =
      layout.outcome pruner.rules (pruner.kept architecture) path := by
  rw [pruner.process_eq_scanned source path architecture scanned]
  exact pruner.scanned_divides source path architecture layout divides

/-- Pruning takes characters away and does nothing else. -/
theorem process_sublist {pruner : Pruner} {source path architecture text : Text}
    (done : pruner.process source path architecture = .ok text) : text.Sublist source := by
  cases scanned : pruner.bypasses path with
  | true =>
    simp only [process, scanned, ↓reduceIte, Except.ok.injEq] at done
    exact done ▸ List.Sublist.refl source
  | false =>
    obtain ⟨layout, divides⟩ := Layout.exists_divides pruner.rules_proper source
    rw [pruner.process_divides source path architecture scanned layout divides] at done
    unfold Layout.outcome at done
    split at done
    · rw [← Except.ok.inj done, ← divides.source_eq]
      exact layout.shown_sublist pruner.rules _
    · cases done

/-- Every source has exactly one layout, which depends on the pruner's prologues but
on no architecture, and pruning for any architecture projects it. The text before,
between and after the regions is put out as it is, of each region the body if its
kind is the one kept, and a region that is left open makes pruning fail with the
line of its prologue. -/
theorem process_layout (pruner : Pruner) (source : Text) :
    ∃ layout : Layout, layout.Divides pruner.rules source ∧
      (∀ other : Layout, other.Divides pruner.rules source → other = layout) ∧
      ∀ path architecture : Text, pruner.bypasses path = false →
        pruner.process source path architecture =
          layout.outcome pruner.rules (pruner.kept architecture) path := by
  obtain ⟨layout, divides⟩ := Layout.exists_divides pruner.rules_proper source
  refine ⟨layout, divides, fun other divides' => divides'.unique divides, ?_⟩
  intro path architecture scanned
  exact pruner.process_divides source path architecture scanned layout divides

/-- The pruner with the default options. -/
def standard : Pruner := ⟨{}, by decide, by decide, by decide⟩

/-- A region whose body holds a quoted brace, kept for one class of architectures
and dropped for the other. -/
theorem process_layout_quoted_brace :
    standard.bypasses "main.ts".toList = false ∧
      ∃ layout : Layout,
        layout.Divides standard.rules "a if (Meteor.isServer) \x7b'\x7d'\x7d b".toList ∧
        layout.outcome standard.rules .client "main.ts".toList = .ok "a  b".toList ∧
        layout.outcome standard.rules .server "main.ts".toList = .ok "a '\x7d' b".toList := by
  obtain ⟨layout, divides, _, projected⟩ :=
    process_layout standard "a if (Meteor.isServer) \x7b'\x7d'\x7d b".toList
  have scanned : standard.bypasses "main.ts".toList = false := by decide
  have client := projected "main.ts".toList "web".toList scanned
  have server := projected "main.ts".toList "os".toList scanned
  exact ⟨scanned, layout, divides, client.symm.trans (by rfl), server.symm.trans (by rfl)⟩

end RegionBuild.Pruner
