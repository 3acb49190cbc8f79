import RegionBuild.Proofs.Region.LineEndings
import RegionBuild.Proofs.Region.Operands

/-!
# A comment in place of a blank

In code a block comment should count as white space. The tracker comes to a comment in
two ways. Where an operand is expected the slash is first taken for the start of a
literal and not noted; elsewhere it is noted, and the piece that it leaves behind is that
of a division. After the comment the piece is in general not the one a blank would have
left, but one that can be exchanged for it: the same is expected after both, and none of
them grows. Trackers with such pieces answer every further character in the same way.

There is one exception. White space ends a word, while a comment that stands directly
behind a keyword does not, so that letters behind the comment continue the keyword. Then
some text after the comment closes the region, and stays inside it after a blank.
-/

namespace RegionBuild.Region

namespace Piece

/-- Whether the piece is a keyword that the next letter would continue. -/
def openKeyword (piece : Piece) : Bool := piece.growing && piece.expectsOperand

/-- Unless a keyword could still be continued, a slash that opens a comment leaves behind
as much as a blank. -/
theorem slashed_sameExpectation {piece : Piece} (complete : piece.openKeyword = false) :
    SameExpectation piece.slashed piece.settled := by
  rw [openKeyword, Bool.and_eq_false_iff] at complete
  unfold slashed
  by_cases operand : piece.expectsOperand = true
  · -- The slash is not noted, so the piece must have stopped growing by itself.
    have grown : piece.growing = false := complete.resolve_right (by simp [operand])
    rw [if_pos operand, settled_eq_self grown]
    exact .refl piece
  · rw [if_neg operand]
    apply SameExpectation.of_grown
    · rw [settled_expectsOperand, Bool.eq_false_iff.mpr operand]
      rfl
    · rfl
    · exact settled_growing piece

/-- A slash is not noted after a keyword. -/
theorem slashed_eq_self {piece : Piece} (operand : piece.expectsOperand = true) :
    piece.slashed = piece :=
  if_pos operand

/-- A keyword that can be continued has letters. -/
theorem exists_letters {piece : Piece} (keyword : piece.openKeyword = true) :
    ∃ letters, letters ≠ [] ∧ piece = .word letters true := by
  rw [openKeyword, Bool.and_eq_true] at keyword
  obtain ⟨growing, operand⟩ := keyword
  cases piece with
  | mark => cases growing
  | word letters stillGrowing =>
    obtain rfl : stillGrowing = true := growing
    refine ⟨letters, ?_, rfl⟩
    rintro rfl
    exact absurd operand (by decide)

/-- An open keyword grows, and of two different pieces with the same expectation neither
grows. -/
theorem SameExpectation.openKeyword {left right : Piece}
    (expectation : SameExpectation left right) :
    left.openKeyword = right.openKeyword := by
  unfold Piece.openKeyword
  rcases expectation.grown with same | ⟨leftGrown, rightGrown⟩
  · rw [same]
  · rw [leftGrown, rightGrown]
    rfl

end Piece

/-- The piece of a record is a keyword that could be continued exactly if the identifiers
joined at its end make one. -/
theorem Reading.piece_openKeyword (past : List Reading) :
    (piece past).openKeyword = operandKeywords.contains (joinedWord past).reverse := by
  have none : operandKeywords.contains (List.reverse []) = false := by decide
  unfold Piece.openKeyword
  induction past with
  | nil => rfl
  | cons reading past inductionHypothesis =>
    cases reading with
    | code char =>
      rw [piece, joinedWord]
      by_cases letter : isIdentifierChar char = true
      · rw [piece_extended past letter, if_pos letter]
        rfl
      · rw [Piece.extended_of_mark _ letter, if_neg letter, none]
        rfl
    | hidden => exact inductionHypothesis
    | closed => exact none.symm
    | blank =>
      rw [piece, Piece.settled_growing]
      exact none.symm
    | opener =>
      rw [piece, Piece.settled_growing]
      exact none.symm

namespace Tracker

/-- Trackers with the same half of a token that may differ in their pieces, as long as these
have the same expectation. -/
structure SameHalfTokenAndExpectation (left right : Tracker) : Prop where
  pieces : Piece.SameExpectation left.piece right.piece
  sameHalf : SameHalfToken left { right with piece := left.piece }

namespace SameHalfTokenAndExpectation

variable {left right : Tracker}

/-- Every change of a tracker other than a new piece concerns its half of a token alone, and
a new piece is the same on both sides. -/
theorem congruence : Congruence SameHalfTokenAndExpectation where
  context pair := pair.sameHalf.context
  depth pair := pair.sameHalf.depth
  operand pair := pair.pieces.operand
  noted pair char := ⟨pair.pieces.note char, SameHalfToken.congruence.noted pair.sameHalf char⟩
  enter pair context := ⟨pair.pieces, SameHalfToken.congruence.enter pair.sameHalf context⟩
  inContext pair context := ⟨pair.pieces, SameHalfToken.congruence.inContext pair.sameHalf context⟩
  withDepth pair depth := ⟨pair.pieces, SameHalfToken.congruence.withDepth pair.sameHalf depth⟩
  withPiece pair piece := ⟨.refl piece, SameHalfToken.congruence.withPiece pair.sameHalf piece⟩

/-- Every character keeps the relation and closes the region for both or for none. -/
theorem stepwise (stringAware : Bool) : Stepwise stringAware SameHalfTokenAndExpectation := by
  intro left right pair char
  have pushed : SameHalfTokenAndExpectation (left.push char) (right.push char) :=
    ⟨pair.pieces, pair.sameHalf.push char⟩
  have completes := fun first half second =>
    @SameHalfToken.completes left { right with piece := left.piece } pair.sameHalf char first half
      second
  apply congruence.advance pushed
  constructor
  · exact completes '/' (by simp) '/'
  · exact completes '/' (by simp) '*'
  · exact completes '*' (by simp) '/'

end SameHalfTokenAndExpectation

/-- A blank in code stays there and ends the last word. -/
theorem InCode.follow?_blank {depth : Nat} {tracker : Tracker} (inCode : InCode depth tracker) :
    ∃ next, tracker.follow? true [' '] = some next ∧
      Spelled depth tracker.piece.settled next ∧ next.window.head? = some ' ' := by
  have read := inCode.read_plain (show ' ' ∉ delimiters by decide)
  rw [tracker.piece.note_blank (by decide)] at read
  refine ⟨_, by rw [follow?, read]; rfl, ?_, ?_⟩
  · exact { inCode.noted (show ' ' ≠ '/' by decide) tracker.piece.settled with piece_eq := rfl }
  · exact congrArg List.head? (tracker.window_push inCode.grounded ' ')

/-- Unless it stands behind a keyword that it leaves open, a comment leads where a blank
leads. -/
theorem InCode.follow?_comment_as_blank {depth : Nat} {tracker : Tracker}
    (inCode : InCode depth tracker) (complete : tracker.piece.openKeyword = false) {content : Text}
    (unended : ¬ ['*', '/'] <:+: content) :
    ∃ left right, tracker.follow? true (blockComment content) = some left ∧
      tracker.follow? true [' '] = some right ∧ SameHalfTokenAndExpectation left right := by
  obtain ⟨left, commented, inCode', window, piece⟩ := inCode.follow?_blockComment unended
  obtain ⟨right, blank, spelled, head⟩ := inCode.follow?_blank
  refine ⟨left, right, commented, blank, ?_, ?_⟩
  · rw [piece, spelled.piece_eq]
    exact Piece.slashed_sameExpectation complete
  · refine ⟨inCode'.grounded, spelled.grounded, ?_, ?_, ?_, rfl⟩
    · intro half listed
      rw [window]
      refine iff_of_false (by simp) ?_
      change right.window.head? ≠ some half
      rw [head]
      rintro ⟨rfl⟩
      exact absurd listed (by decide)
    · exact inCode'.context_eq.trans spelled.context_eq.symm
    · exact inCode'.depth_eq.trans spelled.depth_eq.symm

/-- Behind a keyword that could be continued, a text that closes the region after a
comment leaves it open after a blank. -/
theorem InCode.comment_apart {depth : Nat} {tracker : Tracker} (inCode : InCode depth tracker)
    (keyword : tracker.piece.openKeyword = true) {content : Text}
    (unended : ¬ ['*', '/'] <:+: content) :
    ∃ after, tracker.closesAfter true (blockComment content ++ after) = true ∧
      (tracker.follow? true (' ' :: (after ++ ['}']))).isSome = true := by
  obtain ⟨letters, worded, word⟩ := Piece.exists_letters keyword
  refine ⟨"return/;".toList ++ List.replicate depth '}', ?_, ?_⟩
  · obtain ⟨left, commented, inCode', _, piece⟩ := inCode.follow?_blockComment unended
    have operand : tracker.piece.expectsOperand = true := (Bool.and_eq_true_iff.mp keyword).2
    have spelled : Spelled depth (.word letters true) left :=
      { inCode' with piece_eq := by rw [piece, Piece.slashed_eq_self operand, word] }
    rw [closesAfter_resumed commented]
    exact (leads_joined depth worded).closesAfter spelled
  · obtain ⟨right, blank, spelled, _⟩ := inCode.follow?_blank
    rw [word] at spelled
    obtain ⟨final, followed, _⟩ := leads_separate depth (depth + 1) letters right spelled
    rw [List.replicate_succ', ← List.append_assoc, ← follow?_resumed blank] at followed
    exact Option.isSome_iff_exists.mpr ⟨final, followed⟩

end Tracker

/-- A character that a text does not end with is not the last one read. -/
theorem Scan.window_head_ne {rules : Rules} {kept : Kind} {text : Text} {char : Char}
    (other : text.getLast? ≠ some char) :
    (start.run rules kept text).tracker.window.head? ≠ some char := by
  have read : (start.run rules kept text).tracker.consumed.reversed = text.reverse := by
    rw [run_consumed, TailBuffer.push_reversed]
    exact List.append_nil _
  rw [Tracker.window, read, List.head?_take, List.head?_reverse]
  split
  · simp
  · exact other

/-- A comment on one line has no more line feeds than a blank. -/
theorem count_blockComment {content : Text} (oneLine : '\n' ∉ content) :
    (blockComment content).count '\n' = [' '].count '\n' := by
  simp [blockComment, List.count_append, List.count_eq_zero_of_not_mem oneLine]

/-- What pruning gives when one text stands in place of another inside a region: the same
fault, or texts that differ in nothing but what is kept of the two. -/
inductive SameBut (kind kept : Kind) (inner inner' : Text) :
    Except Unterminated Text → Except Unterminated Text → Prop where
  | fault (fault : Unterminated) : SameBut kind kept inner inner' (.error fault) (.error fault)
  | texts (before after : Text) : SameBut kind kept inner inner'
      (.ok (before ++ kind.shown kept inner ++ after))
      (.ok (before ++ kind.shown kept inner' ++ after))

namespace Layout

/-- Exchanging a text in one body for another with as many line feeds changes what is kept
of that text and nothing else. -/
theorem outcome_sameBut (rules : Rules) (kept kind : Kind) (path rest front back : Text)
    (blocks : List Block) (layout : Layout) {inner inner' : Text}
    (lines : inner.count '\n' = inner'.count '\n') :
    SameBut kind kept inner inner'
      (outcome rules kept path { layout with
        blocks := (blocks ++ [⟨rest, kind, front ++ (inner ++ back)⟩]) ++ layout.blocks })
      (outcome rules kept path { layout with
        blocks := (blocks ++ [⟨rest, kind, front ++ (inner' ++ back)⟩]) ++ layout.blocks }) := by
  obtain ⟨more, last, unclosed⟩ := layout
  have shown : ∀ text : Text,
      Layout.shown kept
        ⟨(blocks ++ [⟨rest, kind, front ++ (text ++ back)⟩]) ++ more, last, unclosed⟩ =
      (blocks.flatMap (Block.shown kept) ++ rest ++ kind.shown kept front) ++
        kind.shown kept text ++
          (kind.shown kept back ++ Layout.shown kept ⟨more, last, unclosed⟩) := by
    intro text
    simp [Layout.shown, Block.shown, Kind.shown_append]
  have counted :
      (Layout.before rules
        ⟨(blocks ++ [⟨rest, kind, front ++ (inner ++ back)⟩]) ++ more, last, unclosed⟩).count '\n' =
      (Layout.before rules
        ⟨(blocks ++ [⟨rest, kind, front ++ (inner' ++ back)⟩]) ++ more, last, unclosed⟩).count
          '\n' := by
    simp [Layout.before, Block.source, List.count_append, lines]
  unfold outcome
  cases unclosed with
  | none =>
    dsimp only
    rw [shown inner, shown inner']
    exact .texts _ _
  | some region =>
    dsimp only
    rw [counted]
    exact .fault _

end Layout

/-- After closed regions a scan is at a boundary again. -/
theorem Scan.run_blocks {rules : Rules} (proper : rules.Proper) (kept : Kind) (scan : Scan)
    (boundary : scan.AtBoundary) (blocks : List Block)
    (sound : ∀ block ∈ blocks, block.Sound rules) :
    (scan.run rules kept (blocks.flatMap (Block.source rules))).AtBoundary := by
  induction blocks generalizing scan with
  | nil => exact boundary
  | cons block more inductionHypothesis =>
    have here := sound block List.mem_cons_self
    obtain ⟨next, _⟩ := run_block proper kept scan boundary block.lead block.body block.kind
      here.opens here.closes
    rw [List.flatMap_cons, run_append]
    apply inductionHypothesis _ next
    intro other inside
    exact sound other (List.mem_cons_of_mem block inside)

end RegionBuild.Region

namespace RegionBuild.Pruner

open Region

/-- A text after which the scan is inside a region leaves that region open, and a fresh
tracker reads the part inside it as the scan does. -/
theorem exists_open (pruner : Pruner) (architecture front : Text) {region : OpenRegion}
    (inside : (Scan.start.run pruner.rules (pruner.kept architecture) front).region =
      some region) :
    ∃ blocks rest tail next,
      Layout.Divides pruner.rules ⟨blocks, rest, some ⟨region.kind, tail⟩⟩ front ∧
        Tracker.fresh.follow? pruner.rules.stringAware tail = some next ∧
        Tracker.EqAboveFloor
          (Scan.start.run pruner.rules (pruner.kept architecture) front).tracker next := by
  obtain ⟨⟨blocks, rest, unclosed⟩, divides⟩ := Layout.exists_divides pruner.rules_proper front
  obtain ⟨found, _⟩ := Scan.run_divides pruner.rules_proper (pruner.kept architecture) _
    Scan.start_atBoundary _ front divides
  rw [inside] at found
  cases unclosed with
  | none => cases found
  | some unclosed =>
    obtain ⟨kind, tail⟩ := unclosed
    obtain rfl : region = _ := Option.some.inj found
    obtain ⟨opens, followed⟩ := divides.opened _ rfl
    obtain ⟨next, followed⟩ := Option.isSome_iff_exists.mp followed
    refine ⟨blocks, rest, tail, next, divides, followed, ?_⟩
    have boundary := Scan.run_blocks pruner.rules_proper (pruner.kept architecture) _
      Scan.start_atBoundary blocks divides.blocks
    obtain ⟨opened, _, agree⟩ := Scan.run_opening pruner.rules_proper (pruner.kept architecture) _
      boundary rest kind opens
    have whole : front = blocks.flatMap (Block.source pruner.rules) ++
        (rest ++ pruner.rules.prologue kind) ++ tail := by
      rw [← divides.source_eq]
      simp [Layout.source, Layout.before]
    have related := (Tracker.EqAboveFloor.stepwise pruner.rules.stringAware).follow? agree tail
    rw [followed] at related
    generalize reached : Tracker.follow? pruner.rules.stringAware _ tail = final at related
    cases related with
    | some agree' =>
      rw [whole, Scan.run_append, Scan.run_append,
        Scan.run_inside pruner.rules _ _ tail _ _ opened reached]
      exact agree'

/-- Inside a region, texts that lead to trackers with the same half of a token and the same
expectation can be exchanged if they have the same number of line feeds.

The rest of the source closes the region for both or for none. -/
theorem process_eq_inside (pruner : Pruner) (path architecture : Text)
    (scanned : pruner.bypasses path = false) {blocks : List Block}
    {rest front tail inner inner' : Text} {kind : Kind} {next left right : Tracker}
    (divides : Layout.Divides pruner.rules ⟨blocks, rest, some ⟨kind, tail⟩⟩ front)
    (followed : Tracker.fresh.follow? pruner.rules.stringAware tail = some next)
    (leads : next.follow? pruner.rules.stringAware inner = some left)
    (leads' : next.follow? pruner.rules.stringAware inner' = some right)
    (pair : left.SameHalfTokenAndExpectation right)
    (lines : inner.count '\n' = inner'.count '\n') (after : Text) :
    SameBut kind (pruner.kept architecture) inner inner'
      (pruner.process (front ++ (inner ++ after)) path architecture)
      (pruner.process (front ++ (inner' ++ after)) path architecture) := by
  have stepwise := Tracker.SameHalfTokenAndExpectation.stepwise pruner.rules.stringAware
  rcases left.follow?_or_closes pruner.rules.stringAware after with
    ⟨final, reached⟩ | ⟨body, remainder, rfl, closes⟩
  · have stays : (left.follow? pruner.rules.stringAware after).isSome = true := by
      rw [reached]
      rfl
    have stays' := stays
    rw [stepwise.follow?_isSome pair, ← Tracker.follow?_resumed leads',
      ← Tracker.follow?_resumed followed] at stays'
    rw [← Tracker.follow?_resumed leads, ← Tracker.follow?_resumed followed] at stays
    rw [pruner.process_divides _ path architecture scanned _ (divides.stays_open stays),
      pruner.process_divides _ path architecture scanned _ (divides.stays_open stays')]
    exact .fault _
  · have closes' := closes
    rw [stepwise.closesAfter pair, ← Tracker.closesAfter_resumed leads',
      ← Tracker.closesAfter_resumed followed] at closes'
    rw [← Tracker.closesAfter_resumed leads, ← Tracker.closesAfter_resumed followed] at closes
    obtain ⟨layout, divides'⟩ := Layout.exists_divides pruner.rules_proper remainder
    rw [← List.append_assoc inner, ← List.append_assoc inner',
      pruner.process_divides _ path architecture scanned _ (divides.closed closes divides'),
      pruner.process_divides _ path architecture scanned _ (divides.closed closes' divides')]
    exact Layout.outcome_sameBut _ _ _ _ _ _ _ _ _ lines

/-- A block comment in code in place of a blank. Unless the text before it ends with a
keyword, pruning fails with the same fault after both or gives texts that differ in the
comment and the blank alone, and not at all where the region is not kept. Behind a keyword
there always is a continuation with which pruning succeeds after the comment and fails
after the blank. -/
theorem process_comment (pruner : Pruner) (aware : pruner.options.stringAware = true)
    (path architecture : Text) (scanned : pruner.bypasses path = false) (front : Text)
    (region : OpenRegion)
    (inside : (Scan.start.run pruner.rules (pruner.kept architecture) front).region = some region)
    (inCode : (Scan.start.run pruner.rules (pruner.kept architecture) front).tracker.context =
      .code)
    (unslashed : front.getLast? ≠ some '/') :
    ((Reading.joinedWord
          (Scan.recordOf pruner.rules (pruner.kept architecture) front)).reverse ∉ operandKeywords →
        ∀ content after : Text, ¬ ['*', '/'] <:+: content → '\n' ∉ content →
          SameBut region.kind (pruner.kept architecture) (blockComment content) [' ']
            (pruner.process (front ++ (blockComment content ++ after)) path architecture)
            (pruner.process (front ++ ([' '] ++ after)) path architecture)) ∧
      ((Reading.joinedWord
          (Scan.recordOf pruner.rules (pruner.kept architecture) front)).reverse ∈ operandKeywords →
        ∀ content : Text, ¬ ['*', '/'] <:+: content →
          ∃ after text fault,
            pruner.process (front ++ (blockComment content ++ after)) path architecture =
                .ok text ∧
              pruner.process (front ++ ([' '] ++ after)) path architecture = .error fault) := by
  have aware' : pruner.rules.stringAware = true := aware
  have recorded := Scan.recorded_run aware' (pruner.kept architecture) inside
  have keyword := recorded.piece.openKeyword.trans (Reading.piece_openKeyword _)
  obtain ⟨blocks, rest, tail, next, divides, followed, agree⟩ :=
    pruner.exists_open architecture front inside
  rw [agree.piece] at keyword
  obtain ⟨depth, inCode'⟩ : ∃ depth, next.InCode depth := by
    have positive := (Tracker.fresh_ongoing.follow? followed).positive
    obtain ⟨depth, deep⟩ := Nat.exists_eq_succ_of_ne_zero (Nat.ne_of_gt positive)
    refine ⟨depth, ⟨agree.rightGrounded, agree.context ▸ inCode, deep⟩, ?_⟩
    rw [← agree.window]
    exact Scan.window_head_ne unslashed
  constructor
  · intro absent content after unended oneLine
    have complete : next.piece.openKeyword = false := by
      rw [keyword, Bool.eq_false_iff, ne_eq, List.contains_iff_mem]
      exact absent
    obtain ⟨left, right, commented, blank, pair⟩ :=
      inCode'.follow?_comment_as_blank complete unended
    rw [← aware'] at commented blank
    apply pruner.process_eq_inside path architecture scanned divides followed commented blank pair
    exact count_blockComment oneLine
  · intro present content unended
    have stillOpen : next.piece.openKeyword = true := by
      rw [keyword, List.contains_iff_mem]
      exact present
    obtain ⟨after, closes, stays⟩ := inCode'.comment_apart stillOpen unended
    have closes' : Tracker.fresh.closesAfter pruner.rules.stringAware
        (tail ++ (blockComment content ++ after)) = true := by
      rw [Tracker.closesAfter_resumed followed, aware']
      exact closes
    have stays' : (Tracker.fresh.follow? pruner.rules.stringAware
        (tail ++ ([' '] ++ (after ++ ['}'])))).isSome = true := by
      rw [Tracker.follow?_resumed followed, aware']
      exact stays
    have succeeds := pruner.process_divides _ path architecture scanned _
      (divides.closed closes' (.nil pruner.rules_proper))
    have fails := pruner.process_divides _ path architecture scanned _ (divides.stays_open stays')
    rw [List.append_assoc] at succeeds
    exact ⟨after ++ ['}'], _, _, succeeds, fails⟩

/-- A comment with a brace behind an operand, and one behind a keyword. -/
theorem process_comment_division :
    standard.bypasses "main.ts".toList = false ∧
      SameBut .client .client (blockComment ['}']) [' ']
        (standard.process "if (Meteor.isClient) \x7ba/*\x7d*// b\x7d".toList "main.ts".toList
          "web".toList)
        (standard.process "if (Meteor.isClient) \x7ba / b\x7d".toList "main.ts".toList
          "web".toList) ∧
      ∃ after text fault,
        standard.process ("if (Meteor.isClient) \x7belse".toList ++ (blockComment [] ++ after))
            "main.ts".toList "web".toList = .ok text ∧
          standard.process ("if (Meteor.isClient) \x7belse".toList ++ ([' '] ++ after))
            "main.ts".toList "web".toList = .error fault := by
  have scanned : standard.bypasses "main.ts".toList = false := by decide
  obtain ⟨exchanged, _⟩ := process_comment standard rfl "main.ts".toList "web".toList scanned
    "if (Meteor.isClient) \x7ba".toList ⟨.client, 0⟩ rfl rfl (by decide)
  obtain ⟨_, apart⟩ := process_comment standard rfl "main.ts".toList "web".toList scanned
    "if (Meteor.isClient) \x7belse".toList ⟨.client, 0⟩ rfl rfl (by decide)
  exact ⟨scanned, exchanged (by decide) ['}'] "/ b\x7d".toList (by decide) (by decide),
    apart (by decide) [] (by decide)⟩

/-- Behind a keyword a comment is no blank: the word after it continues the keyword, so
that the slash divides and a brace closes the region that belongs to a literal after a
blank. -/
theorem process_comment_joins :
    standard.process "if (Meteor.isClient) \x7belse/**/return/\x7d/\x7d".toList "main.ts".toList
        "web".toList = .ok "else/**/return//\x7d".toList ∧
      standard.process "if (Meteor.isClient) \x7belse return/\x7d/\x7d".toList "main.ts".toList
        "web".toList = .ok "else return/\x7d/".toList ∧
      ¬ SameBut .client .client (blockComment []) [' ']
        (.ok "else/**/return//\x7d".toList) (.ok "else return/\x7d/".toList) := by
  refine ⟨rfl, rfl, ?_⟩
  generalize commented : Except.ok "else/**/return//\x7d".toList = left
  generalize blank : Except.ok "else return/\x7d/".toList = right
  rintro (fault | ⟨before, after⟩)
  · cases commented
  · have ends := congrArg List.getLast? (Except.ok.inj commented)
    have ends' := congrArg List.getLast? (Except.ok.inj blank)
    rcases List.eq_nil_or_concat after with rfl | ⟨front, last, rfl⟩
    · simp [Kind.shown, blockComment] at ends
    · simp only [← List.append_assoc, List.concat_eq_append, List.getLast?_concat] at ends ends'
      exact absurd (ends.trans ends'.symm) (by decide)

end RegionBuild.Pruner
