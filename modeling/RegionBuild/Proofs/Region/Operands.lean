import RegionBuild.Proofs.Region.LineSteps

/-!
# What a slash in code means

A slash in code divides or starts a regular expression. The rule speaks of the last
significant thing that was read as code since the region opened: at the start of the
region, after an operator or an opening bracket, and after an identifier that is a
keyword an operand is expected, so the slash starts a literal; after anything else it
divides. White space and comments do not count, and a closed literal is an operand.

The tracker keeps one piece instead of what it read. Here every character of a region is
recorded as what it was read as, and the piece is compared with that record. It follows
the rule with two exceptions. An operand is expected after a closing brace as well. And an
identifier that stands directly behind a comment or an unfinished literal may continue the
one directly before it, so that the tracker looks up the two together.
-/

namespace RegionBuild.Region

namespace Piece

/-- Two pieces after which everything goes on in the same way: both expect an operand or
none does, and unless they are the same neither is a word that may grow. -/
structure SameExpectation (left right : Piece) : Prop where
  operand : left.expectsOperand = right.expectsOperand
  grown : left = right ∨ left.growing = false ∧ right.growing = false

/-- White space does not change what is expected. -/
theorem settled_expectsOperand (piece : Piece) :
    piece.settled.expectsOperand = piece.expectsOperand := by
  cases piece with
  | mark => rfl
  | word => rfl

/-- After white space no word grows. -/
theorem settled_growing (piece : Piece) : piece.settled.growing = false := by
  cases piece with
  | mark => rfl
  | word => rfl

/-- The piece after a character that is no white space. -/
def extended (piece : Piece) (char : Char) : Piece :=
  if isIdentifierChar char then
    match piece with
    | .word letters true => .word (char :: letters) true
    | _ => .word [char] true
  else
    .mark char

/-- A character that is no part of an identifier is a mark. -/
theorem extended_of_mark (piece : Piece) {char : Char} (mark : ¬ isIdentifierChar char = true) :
    piece.extended char = .mark char :=
  if_neg mark

/-- A character that is no white space is significant. -/
theorem note_visible (piece : Piece) {char : Char} (visible : Text.isBlank char = false) :
    piece.note char = piece.extended char := by
  have noBlank : ¬ Text.isBlank char = true := by simp [visible]
  cases piece with
  | mark => exact if_neg noBlank
  | word letters growing =>
    cases growing with
    | false => exact if_neg noBlank
    | true => exact if_neg noBlank

namespace SameExpectation

variable {left right : Piece}

/-- The pieces may be the same, growing or not. -/
theorem refl (piece : Piece) : SameExpectation piece piece := ⟨rfl, Or.inl rfl⟩

/-- Of pieces that do not grow it is enough that both or none expect an operand. -/
theorem of_grown (operand : left.expectsOperand = right.expectsOperand)
    (leftGrown : left.growing = false) (rightGrown : right.growing = false) :
    SameExpectation left right :=
  ⟨operand, Or.inr ⟨leftGrown, rightGrown⟩⟩

/-- White space stops both from growing and changes neither expectation. -/
theorem settled (expectation : SameExpectation left right) :
    SameExpectation left.settled right.settled := by
  apply of_grown
  · rw [settled_expectsOperand, settled_expectsOperand, expectation.operand]
  · exact settled_growing left
  · exact settled_growing right

/-- A piece that does not grow starts a new one with the next significant character. -/
theorem extended_of_grown {piece : Piece} (grown : piece.growing = false) (char : Char) :
    piece.extended char = (Piece.mark char).extended char := by
  cases piece with
  | mark => rfl
  | word letters growing =>
    obtain rfl : growing = false := grown
    rfl

/-- A significant character makes pieces with the same expectation the same. -/
theorem extended (expectation : SameExpectation left right) (char : Char) :
    left.extended char = right.extended char := by
  rcases expectation.grown with same | ⟨leftGrown, rightGrown⟩
  · rw [same]
  · rw [extended_of_grown leftGrown, extended_of_grown rightGrown]

/-- Every character keeps the expectation the same. -/
theorem note (expectation : SameExpectation left right) (char : Char) :
    SameExpectation (left.note char) (right.note char) := by
  cases blank : Text.isBlank char with
  | true =>
    rw [note_blank left blank, note_blank right blank]
    exact expectation.settled
  | false =>
    rw [note_visible left blank, note_visible right blank, expectation.extended char]
    exact refl _

end SameExpectation

end Piece

/-- What one character of a region was read as. -/
inductive Reading where
  /-- Code that is no white space. -/
  | code (char : Char)
  /-- White space between code. -/
  | blank
  /-- The end of a literal. -/
  | closed
  /-- A slash that the next character made the start of a comment. -/
  | opener
  /-- Any other part of a comment or a literal. -/
  | hidden
deriving DecidableEq, Repr

namespace Reading

/-- What a character was read as, by the contexts before and after it. -/
def ofChar (context next : Context) (char : Char) : Reading :=
  match context, next with
  | .code, .code => if Text.isBlank char then .blank else .code char
  | .quoted quote _, .code => if char = quote.mark then .closed else .hidden
  | .regex _ _ _, .code => if char = '/' then .closed else .hidden
  | _, _ => .hidden

/-- One more character in a record, which has the last one first. A comment that opens in
code takes the slash before it along. -/
def record (past : List Reading) (context next : Context) (char : Char) : List Reading :=
  match context, next with
  | .code, .lineComment | .code, .blockComment => .hidden :: .opener :: past.tail
  | _, _ => ofChar context next char :: past

/-- Whether an operand may be expected because of the character. -/
def significant : Reading → Bool
  | .code _ | .closed => true
  | .blank | .opener | .hidden => false

/-- The record up to the last significant character. -/
def upToSignificant (past : List Reading) : List Reading :=
  past.dropWhile fun reading => !reading.significant

/-- The identifier at the end of a record, its letters in reverse. -/
def word : List Reading → Text
  | .code char :: past => if isIdentifierChar char then char :: word past else []
  | _ => []

/-- The identifier at the end of a record together with those from which it is separated
by comments and literals alone. -/
def joinedWord : List Reading → Text
  | .code char :: past => if isIdentifierChar char then char :: joinedWord past else []
  | .hidden :: past => joinedWord past
  | _ => []

/-- Whether an operand is expected at the end of a record: at its start, after one of the
marks and after a keyword. -/
def expectsOperand (marks : List Char) (spelled : List Reading → Text) (past : List Reading) :
    Bool :=
  match upToSignificant past with
  | [] => true
  | .code char :: earlier =>
    marks.contains char || operandKeywords.contains (spelled (.code char :: earlier)).reverse
  | _ => false

/-- The last significant character. -/
def last? (past : List Reading) : Option Reading := (upToSignificant past).head?

/-- Whether an operand is expected by the rule. -/
def operandDue (past : List Reading) : Bool := expectsOperand ('{' :: operators) word past

/-- Whether an operand is expected by the tracker. -/
def operandTracked (past : List Reading) : Bool :=
  expectsOperand ('}' :: '{' :: operators) joinedWord past

/-- The piece that a record amounts to. -/
def piece : List Reading → Piece
  | [] => .mark '{'
  | .code char :: past => (piece past).extended char
  | .blank :: past | .opener :: past => (piece past).settled
  | .closed :: _ => .mark '/'
  | .hidden :: past => piece past

/-- Only significant characters change what is expected. -/
theorem piece_upToSignificant (past : List Reading) :
    (piece (upToSignificant past)).expectsOperand = (piece past).expectsOperand := by
  induction past with
  | nil => rfl
  | cons reading past inductionHypothesis =>
    cases reading with
    | code char => rfl
    | closed => rfl
    | hidden => exact inductionHypothesis
    | blank => exact inductionHypothesis.trans (piece past).settled_expectsOperand.symm
    | opener => exact inductionHypothesis.trans (piece past).settled_expectsOperand.symm

/-- An identifier character joins the letters at the end of the record. -/
theorem piece_extended (past : List Reading) {char : Char}
    (letter : isIdentifierChar char = true) :
    (piece past).extended char = .word (char :: joinedWord past) true := by
  have alone : ∀ piece : Piece, ∀ char, isIdentifierChar char = true → piece.growing = false →
      piece.extended char = .word [char] true := by
    intro piece char letter grown
    rw [Piece.SameExpectation.extended_of_grown grown]
    simp only [Piece.extended, letter, ↓reduceIte]
  induction past generalizing char with
  | nil => exact alone _ char letter rfl
  | cons reading past inductionHypothesis =>
    cases reading with
    | code other =>
      by_cases also : isIdentifierChar other = true
      · rw [piece, inductionHypothesis also, joinedWord, if_pos also]
        simp only [Piece.extended, letter, ↓reduceIte]
      · rw [piece, Piece.extended_of_mark _ also, joinedWord, if_neg also]
        exact alone _ char letter rfl
    | closed => exact alone _ char letter rfl
    | hidden => exact inductionHypothesis letter
    | blank => exact alone _ char letter (Piece.settled_growing _)
    | opener => exact alone _ char letter (Piece.settled_growing _)

/-- What stands at the end of such a record is significant. -/
theorem significant_of_upTo {past earlier : List Reading} {reading : Reading}
    (upTo : upToSignificant past = reading :: earlier) : reading.significant = true := by
  have last := List.head?_dropWhile_not (fun reading => !reading.significant) past
  rw [upToSignificant] at upTo
  rw [upTo] at last
  simpa using last

/-- The operators and both braces are all the marks after which the tracker expects an
operand. -/
theorem contains_preceders (char : Char) :
    operandPreceders.contains char = ('}' :: '{' :: operators).contains char := by
  have same : operandPreceders.Perm ('}' :: '{' :: operators) := by decide
  rw [Bool.eq_iff_iff, List.contains_iff_mem, List.contains_iff_mem]
  exact same.mem_iff

/-- No mark is an identifier character. -/
theorem contains_of_letter {char : Char} (letter : isIdentifierChar char = true) :
    ('}' :: '{' :: operators).contains char = false := by
  have marks : (('}' :: '{' :: operators).all fun mark => !isIdentifierChar mark) = true := by
    decide
  rw [Bool.eq_false_iff, ne_eq, List.contains_iff_mem]
  intro listed
  have unlike := List.all_eq_true.mp marks char listed
  rw [letter] at unlike
  cases unlike

/-- The piece of a record expects an operand after the operators and both braces, and
after a keyword, which may be put together from several identifiers. -/
theorem piece_expectsOperand (past : List Reading) :
    (piece past).expectsOperand = operandTracked past := by
  rw [← piece_upToSignificant, operandTracked, expectsOperand]
  cases upTo : upToSignificant past with
  | nil => rfl
  | cons reading earlier =>
    have significant := significant_of_upTo upTo
    cases reading with
    | code char =>
      simp only [piece, joinedWord]
      by_cases letter : isIdentifierChar char = true
      · rw [piece_extended earlier letter, if_pos letter, contains_of_letter letter]
        rfl
      · rw [if_neg letter, ← contains_preceders, Piece.extended_of_mark _ letter]
        exact (Bool.or_false _).symm
    | closed => rfl
    | hidden => cases significant
    | blank => cases significant
    | opener => cases significant

/-- A record that ends in code is made of the character and what was read before it. -/
theorem exists_of_last?_eq_code {past : List Reading} {char : Char}
    (last : last? past = some (.code char)) :
    ∃ earlier, upToSignificant past = .code char :: earlier :=
  List.head?_eq_some_iff.mp last

/-- An operand is expected by the tracker after a closing brace, though not by the rule. -/
theorem operandTracked_brace {past : List Reading} (last : last? past = some (.code '}')) :
    operandTracked past = true ∧ operandDue past = false := by
  obtain ⟨earlier, upTo⟩ := exists_of_last?_eq_code last
  rw [operandTracked, operandDue, expectsOperand, expectsOperand, upTo]
  exact ⟨rfl, rfl⟩

/-- No operand is expected after a closing parenthesis. -/
theorem operandTracked_parenthesis {past : List Reading}
    (last : last? past = some (.code ')')) : operandTracked past = false := by
  obtain ⟨earlier, upTo⟩ := exists_of_last?_eq_code last
  rw [operandTracked, expectsOperand, upTo]
  rfl

/-- Otherwise the tracker expects what the rule says, unless identifiers are joined. -/
theorem operandTracked_eq_due {past : List Reading} (noBrace : last? past ≠ some (.code '}'))
    (unjoined : joinedWord (upToSignificant past) = word (upToSignificant past)) :
    operandTracked past = operandDue past := by
  rw [operandTracked, operandDue, expectsOperand, expectsOperand]
  cases upTo : upToSignificant past with
  | nil => rfl
  | cons reading earlier =>
    cases reading with
    | code char =>
      have other : (char == '}') = false := by
        rw [beq_eq_false_iff_ne]
        rintro rfl
        exact noBrace (congrArg List.head? upTo)
      rw [upTo] at unjoined
      simp only [unjoined, List.contains_cons, other, Bool.false_or]
    | closed => rfl
    | hidden => rfl
    | blank => rfl
    | opener => rfl

end Reading

namespace Tracker

/-- A slash in code that opens no comment starts a regular expression or is plain. -/
theorem read_slash {tracker : Tracker} (grounded : tracker.Grounded)
    (inCode : tracker.context = .code)
    (unopened : (tracker.push '/').completes ['/', '/'] = false) :
    tracker.read true '/' =
      if tracker.piece.expectsOperand then
        ((tracker.push '/').enter (.regex 0 false false), false)
      else ({ tracker.push '/' with piece := tracker.piece.note '/' }, false) := by
  have noBlock : (tracker.push '/').completes ['/', '*'] = false := by
    rw [Bool.eq_false_iff, ne_eq, completes_pair_iff tracker grounded]
    exact fun both => absurd both.1 (by decide)
  rw [read_of_context tracker .code '/' inCode]
  simp only [advanceCode, unopened, noBlock, Bool.false_eq_true, ↓reduceIte]
  rfl

/-- All that one character of code can do: complete the opener of a comment, start a
literal, or be plain. A plain slash stands where no operand is expected. -/
theorem read_code_cases {tracker : Tracker} (grounded : tracker.Grounded)
    (inCode : tracker.context = .code) (char : Char) :
    (tracker.window.head? = some '/' ∧ ∃ context ∈ [Context.lineComment, .blockComment],
        tracker.read true char = ((tracker.push char).enter context, false)) ∨
      (tracker.read true char = ((tracker.push char).enter (.regex 0 false false), false) ∧
        char = '/' ∧ tracker.piece.expectsOperand = true) ∨
      (∃ quote, tracker.read true char =
        ((tracker.push char).enter (.quoted quote false), false)) ∨
      ((char = '/' → tracker.piece.expectsOperand = false) ∧
        tracker.read true char = (tracker.push char).advancePlain char) := by
  rw [read_of_context tracker .code char inCode]
  simp only [advanceCode, Bool.true_and, ↓reduceIte]
  by_cases line : (tracker.push char).completes ['/', '/'] = true
  · have slash := ((completes_pair_iff tracker grounded _ _ _).mp line).2
    simp only [line, ↓reduceIte]
    exact Or.inl ⟨slash, .lineComment, by simp, rfl⟩
  by_cases block : (tracker.push char).completes ['/', '*'] = true
  · have slash := ((completes_pair_iff tracker grounded _ _ _).mp block).2
    simp only [line, block, Bool.false_eq_true, ↓reduceIte]
    exact Or.inl ⟨slash, .blockComment, by simp, rfl⟩
  simp only [line, block, Bool.false_eq_true, ↓reduceIte]
  by_cases operand : (char == '/' && (tracker.push char).piece.expectsOperand) = true
  · have expected : char = '/' ∧ tracker.piece.expectsOperand = true := by
      rwa [Bool.and_eq_true, beq_iff_eq] at operand
    simp only [operand, ↓reduceIte]
    exact Or.inr (Or.inl ⟨trivial, expected⟩)
  simp only [operand, Bool.false_eq_true, ↓reduceIte]
  cases Quote.ofChar? char with
  | some quote => exact Or.inr (Or.inr (Or.inl ⟨quote, rfl⟩))
  | none =>
    refine Or.inr (Or.inr (Or.inr ⟨?_, rfl⟩))
    rintro rfl
    exact Bool.eq_false_iff.mpr operand

/-- A record of what a tracker has read in a region: the tracker's piece can be exchanged
for that of the record. A slash that may still open a comment was read as code where no
operand was expected. -/
structure Recorded (past : List Reading) (tracker : Tracker) : Prop where
  grounded : tracker.Grounded
  piece : Piece.SameExpectation tracker.piece (Reading.piece past)
  slash : tracker.context = .code → tracker.window.head? = some '/' →
    ∃ earlier, past = .code '/' :: earlier ∧ (Reading.piece earlier).expectsOperand = false

namespace Recorded

variable {past : List Reading} {tracker : Tracker}

/-- A tracker that enters a context has no slash left over. -/
theorem entered {context : Context}
    (piece : Piece.SameExpectation tracker.piece (Reading.piece past)) :
    Recorded past (tracker.enter context) where
  grounded := Nat.le_refl _
  piece := piece
  slash _ slash := by
    rw [window_enter] at slash
    cases slash

/-- A tracker that stays outside code has no slash left over. -/
theorem stayed (grounded : tracker.Grounded) (outside : tracker.context ≠ .code)
    (piece : Piece.SameExpectation tracker.piece (Reading.piece past)) : Recorded past tracker where
  grounded := grounded
  piece := piece
  slash inCode := absurd inCode outside

/-- In code, a comment takes the slash before it out of the record. It was read where no
operand is expected, and after the comment none is expected either. -/
theorem comment (recorded : Recorded past tracker) (inCode : tracker.context = .code)
    (slash : tracker.window.head? = some '/') :
    Piece.SameExpectation tracker.piece (Reading.piece (.hidden :: .opener :: past.tail)) := by
  obtain ⟨earlier, rfl, division⟩ := recorded.slash inCode slash
  have piece : Piece.SameExpectation tracker.piece (.mark '/') := recorded.piece
  -- The tracker goes on with the mark of the slash, the record with what stood before it.
  apply Piece.SameExpectation.of_grown
  · rw [piece.operand]
    exact (division.symm.trans (Reading.piece earlier).settled_expectsOperand.symm)
  · rcases piece.grown with same | ⟨grown, _⟩
    · rw [same]
      rfl
    · exact grown
  · exact Piece.settled_growing _

/-- A plain character of code is recorded as what it is. -/
theorem plain (recorded : Recorded past tracker) (inCode : tracker.context = .code) {char : Char}
    (division : char = '/' → tracker.piece.expectsOperand = false) (depth : Nat) :
    Recorded (Reading.record past .code tracker.context char)
      { tracker.push char with piece := tracker.piece.note char, depth } := by
  have noted := recorded.piece.note char
  have grounded : (tracker.push char).Grounded := Nat.le_succ_of_le recorded.grounded
  have window := tracker.window_push recorded.grounded char
  cases blank : Text.isBlank char with
  | true =>
    have entry : Reading.record past .code tracker.context char = .blank :: past := by
      simp only [inCode, Reading.record, Reading.ofChar, blank, ↓reduceIte]
    rw [entry]
    refine ⟨grounded, ?_, ?_⟩
    · rw [Piece.note_blank (Reading.piece past) blank] at noted
      exact noted
    · intro _ slash
      change (tracker.push char).window.head? = some '/' at slash
      rw [window, List.head?_cons, Option.some.injEq] at slash
      rw [slash] at blank
      exact absurd blank (by decide)
  | false =>
    have entry : Reading.record past .code tracker.context char = .code char :: past := by
      simp only [inCode, Reading.record, Reading.ofChar, blank, Bool.false_eq_true, ↓reduceIte]
    rw [entry]
    refine ⟨grounded, ?_, ?_⟩
    · rw [Piece.note_visible (Reading.piece past) blank] at noted
      exact noted
    · intro _ slash
      change (tracker.push char).window.head? = some '/' at slash
      rw [window, List.head?_cons, Option.some.injEq] at slash
      subst slash
      exact ⟨past, rfl, recorded.piece.operand ▸ division rfl⟩

/-- Whatever a character of code turns out to be, the piece goes on to match the record. -/
theorem read_code (recorded : Recorded past tracker) (inCode : tracker.context = .code)
    (char : Char) :
    Recorded (Reading.record past .code (tracker.read true char).1.context char)
      (tracker.read true char).1 := by
  rcases read_code_cases recorded.grounded inCode char with
    ⟨slash, context, listed, read⟩ | ⟨read, _⟩ | ⟨quote, read⟩ | ⟨division, read⟩
  · have piece := recorded.comment inCode slash
    have comments : context = .lineComment ∨ context = .blockComment := by simpa using listed
    rw [read]
    rcases comments with rfl | rfl
    · exact entered piece
    · exact entered piece
  · rw [read]
    exact entered recorded.piece
  · rw [read]
    exact entered recorded.piece
  · obtain ⟨depth, next⟩ := (tracker.push char).advancePlain_fst char
    rw [read, next]
    exact recorded.plain inCode division depth

/-- The end of a literal is an operand, whatever delimits it. -/
theorem closed {delimiter : Char} (operand : (Piece.mark delimiter).expectsOperand = false) :
    Recorded (.closed :: past) (tracker.closeLiteral delimiter) where
  grounded := Nat.le_refl _
  piece := .of_grown operand rfl rfl
  slash _ slash := by
    rw [show (tracker.closeLiteral delimiter).window = [] from window_enter tracker .code] at slash
    cases slash

/-- One character of a string literal. A quote that closes it is recorded as its end; a
line end that breaks it off is hidden. -/
theorem read_quoted (recorded : Recorded past tracker) {quote : Quote} {escaped : Bool}
    (inQuote : tracker.context = .quoted quote escaped) (char : Char) :
    Recorded (Reading.record past (.quoted quote escaped) (tracker.read true char).1.context char)
      (tracker.read true char).1 := by
  have grounded : (tracker.push char).Grounded := Nat.le_succ_of_le recorded.grounded
  have here : (tracker.push char).context = .quoted quote escaped := inQuote
  rw [read_of_context tracker _ char inQuote]
  simp only [advanceQuoted]
  split
  · exact stayed grounded (by simp) recorded.piece
  split
  · exact stayed grounded (by simp) recorded.piece
  split
  · next mark =>
    have entry : Reading.record past (.quoted quote escaped) .code char = .closed :: past := by
      simp only [Reading.record, Reading.ofChar, mark, ↓reduceIte]
    subst mark
    have operand : (Piece.mark quote.mark).expectsOperand = false := by cases quote <;> decide
    exact entry ▸ closed operand
  next noMark =>
  split
  · have entry : Reading.record past (.quoted quote escaped) .code char = .hidden :: past := by
      simp only [Reading.record, Reading.ofChar, noMark, ↓reduceIte]
    exact entry ▸ entered recorded.piece
  · rw [here]
    exact stayed grounded (by simp [here]) recorded.piece

/-- One character of what may be a regular expression. -/
theorem read_regex (recorded : Recorded past tracker) {length : Nat} {escaped inClass : Bool}
    (inRegex : tracker.context = .regex length escaped inClass) (char : Char) :
    Recorded
      (Reading.record past (.regex length escaped inClass) (tracker.read true char).1.context char)
      (tracker.read true char).1 := by
  have grounded : (tracker.push char).Grounded := Nat.le_succ_of_le recorded.grounded
  rw [read_of_context tracker _ char inRegex]
  simp only [advanceRegex]
  split
  · exact entered recorded.piece
  split
  · exact entered recorded.piece
  split
  · exact stayed grounded (by simp) recorded.piece
  split
  · exact stayed grounded (by simp) recorded.piece
  split
  · exact stayed grounded (by simp) recorded.piece
  split
  · exact stayed grounded (by simp) recorded.piece
  split
  · next slash =>
    have entry : Reading.record past (.regex length escaped inClass) .code char =
        .closed :: past := by
      simp only [Reading.record, Reading.ofChar, slash.1, ↓reduceIte]
    rw [slash.1] at entry ⊢
    exact entry ▸ closed (by decide)
  split
  · next ends =>
    have entry : Reading.record past (.regex length escaped inClass) .code char =
        .hidden :: past := by
      have noSlash : char ≠ '/' := lineEnd_ne ends rfl
      simp only [Reading.record, Reading.ofChar, noSlash, ↓reduceIte]
    exact entry ▸ entered recorded.piece
  · exact stayed grounded (by simp) recorded.piece

/-- Every character of a region keeps the record. -/
theorem read (recorded : Recorded past tracker) (char : Char) :
    Recorded (Reading.record past tracker.context (tracker.read true char).1.context char)
      (tracker.read true char).1 := by
  have grounded : (tracker.push char).Grounded := Nat.le_succ_of_le recorded.grounded
  cases inContext : tracker.context with
  | code => exact recorded.read_code inContext char
  | quoted quote escaped => exact recorded.read_quoted inContext char
  | regex length escaped inClass => exact recorded.read_regex inContext char
  | lineComment =>
    have here : (tracker.push char).context = .lineComment := inContext
    rw [read_of_context tracker _ char inContext]
    dsimp only
    split
    · exact entered recorded.piece
    · rw [here]
      exact stayed grounded (by simp [here]) recorded.piece
  | blockComment =>
    have here : (tracker.push char).context = .blockComment := inContext
    rw [read_of_context tracker _ char inContext]
    dsimp only
    split
    · exact entered recorded.piece
    · rw [here]
      exact stayed grounded (by simp [here]) recorded.piece

end Recorded

/-- At the start of a region nothing is recorded. -/
theorem openRegion_recorded (tracker : Tracker) : Recorded [] tracker.openRegion where
  grounded := Nat.le_refl _
  piece := .refl _
  slash _ slash := by
    rw [show tracker.openRegion.window = [] from window_enter tracker .code] at slash
    cases slash

end Tracker

namespace Scan

/-- The record of a region while a scan reads a text. Outside regions nothing is recorded,
so that a region starts with an empty record. -/
def recordOver (rules : Rules) (kept : Kind) : Scan → List Reading → Text → List Reading
  | _, past, [] => past
  | scan, past, char :: rest =>
    let next := scan.step rules kept char
    let record :=
      match scan.region with
      | none => []
      | some _ => Reading.record past scan.tracker.context next.tracker.context char
    recordOver rules kept next record rest

/-- What was read since the region opened in which the scan of a text ends. -/
def recordOf (rules : Rules) (kept : Kind) (text : Text) : List Reading :=
  start.recordOver rules kept [] text

/-- Inside regions the scan's tracker is recorded. -/
def Recorded (past : List Reading) (scan : Scan) : Prop :=
  scan.region ≠ none → Tracker.Recorded past scan.tracker

/-- A text keeps it so.

Induct over the text. A region that opens has an empty record, and inside a region every
character is recorded. -/
theorem Recorded.run {rules : Rules} (aware : rules.stringAware = true) (kept : Kind)
    {past : List Reading} {scan : Scan} (recorded : Recorded past scan) (text : Text) :
    Recorded (scan.recordOver rules kept past text) (scan.run rules kept text) := by
  induction text generalizing past scan with
  | nil => exact recorded
  | cons char rest inductionHypothesis =>
    apply inductionHypothesis
    cases inside : scan.region with
    | none =>
      cases opened : rules.opened? (scan.tracker.push char) with
      | none =>
        rw [step_outside rules kept scan char inside opened]
        intro stillOpen
        exact absurd inside stillOpen
      | some kind =>
        rw [step_opening rules kept scan char kind inside opened]
        intro _
        exact Tracker.openRegion_recorded _
    | some region =>
      have here : Tracker.Recorded past scan.tracker := recorded (by rw [inside]; nofun)
      by_cases closed : (scan.tracker.read rules.stringAware char).2 = true
      · rw [step_closing rules kept scan char region inside closed]
        intro stillOpen
        exact absurd rfl stillOpen
      · rw [step_inside rules kept scan char region inside (by simpa using closed), aware]
        intro _
        exact here.read char

/-- Inside a region the record of a text is that of the scan's tracker. -/
theorem recorded_run {rules : Rules} (aware : rules.stringAware = true) (kept : Kind)
    {text : Text} {region : OpenRegion}
    (inside : (start.run rules kept text).region = some region) :
    Tracker.Recorded (recordOf rules kept text) (start.run rules kept text).tracker := by
  have outside : Recorded [] start := fun stillOpen => absurd rfl stillOpen
  exact outside.run aware kept text (by rw [inside]; nofun)

theorem run_concat (rules : Rules) (kept : Kind) (scan : Scan) (text : Text) (char : Char) :
    scan.run rules kept (text ++ [char]) = (scan.run rules kept text).step rules kept char :=
  run_append rules kept scan text [char]

/-- After what was read the scan stands in code inside a region, where a slash completes no
comment's opener. -/
structure BeforeSlash (rules : Rules) (kept : Kind) (read : Text) : Prop where
  inside : (start.run rules kept read).region ≠ none
  inCode : (start.run rules kept read).tracker.context = .code
  unopened : ((start.run rules kept read).tracker.push '/').completes ['/', '/'] = false

/-- A slash after what was read starts a regular expression. -/
def StartsRegex (rules : Rules) (kept : Kind) (read : Text) : Prop :=
  (start.run rules kept (read ++ ['/'])).tracker.context = .regex 0 false false

/-- A slash after what was read divides. The code goes on in the same region at the same
depth, so nothing that follows is hidden. -/
structure IsDivision (rules : Rules) (kept : Kind) (read : Text) : Prop where
  context : (start.run rules kept (read ++ ['/'])).tracker.context = .code
  depth : (start.run rules kept (read ++ ['/'])).tracker.depth =
    (start.run rules kept read).tracker.depth
  region : (start.run rules kept (read ++ ['/'])).region = (start.run rules kept read).region

/-- A slash starts a regular expression or divides, as the tracker expects. -/
theorem BeforeSlash.decided {rules : Rules} (aware : rules.stringAware = true) {kept : Kind}
    {read : Text} (before : BeforeSlash rules kept read) :
    if Reading.operandTracked (recordOf rules kept read) then StartsRegex rules kept read
    else IsDivision rules kept read := by
  obtain ⟨region, inside⟩ := Option.ne_none_iff_exists'.mp before.inside
  have recorded := recorded_run aware kept inside
  have slash := Tracker.read_slash recorded.grounded before.inCode before.unopened
  rw [recorded.piece.operand, Reading.piece_expectsOperand] at slash
  have goesOn : ((start.run rules kept read).tracker.read rules.stringAware '/').2 = false := by
    rw [aware, slash]
    split
    · rfl
    · rfl
  have stepped := (run_concat rules kept start read '/').trans
    (step_inside rules kept _ '/' region inside goesOn)
  rw [aware, slash] at stepped
  split
  · next expected =>
    rw [if_pos expected] at stepped
    rw [StartsRegex, stepped]
    rfl
  · next unexpected =>
    rw [if_neg unexpected] at stepped
    constructor
    · rw [stepped]
      exact before.inCode
    · rw [stepped]
      rfl
    · rw [stepped]

/-- A slash does not do both. -/
theorem StartsRegex.not_isDivision {rules : Rules} {kept : Kind} {read : Text}
    (regex : StartsRegex rules kept read) : ¬ IsDivision rules kept read := by
  intro division
  have context := division.context
  rw [show _ = Context.regex 0 false false from regex] at context
  cases context

/-- A slash starts a regular expression exactly if the tracker expects an operand. -/
theorem BeforeSlash.startsRegex_iff {rules : Rules} (aware : rules.stringAware = true)
    {kept : Kind} {read : Text} (before : BeforeSlash rules kept read) :
    StartsRegex rules kept read ↔
      Reading.operandTracked (recordOf rules kept read) = true := by
  have decided := before.decided aware
  split at decided
  · next tracked => exact iff_of_true decided tracked
  · next untracked => exact iff_of_false (fun regex => regex.not_isDivision decided) untracked

/-- A slash divides exactly if the tracker expects no operand. -/
theorem BeforeSlash.isDivision_iff {rules : Rules} (aware : rules.stringAware = true)
    {kept : Kind} {read : Text} (before : BeforeSlash rules kept read) :
    IsDivision rules kept read ↔
      Reading.operandTracked (recordOf rules kept read) = false := by
  have decided := before.decided aware
  split at decided
  · next tracked => exact iff_of_false decided.not_isDivision (by simp [tracked])
  · next untracked => exact iff_of_true decided (Bool.eq_false_iff.mpr untracked)

end Scan

end RegionBuild.Region

namespace RegionBuild.Pruner

open Region

/-- What a slash in code means where it opens no comment. The tracker decides by its own
record of the region, and a slash that divides hides nothing. It decides by the rule
unless the last significant character is a closing brace or identifiers are joined. After
a closing brace it always expects an operand, against the rule; after a closing
parenthesis it never does. -/
theorem slash_decided (pruner : Pruner) (aware : pruner.options.stringAware = true)
    (kept : Kind) (read : Text) (before : Scan.BeforeSlash pruner.rules kept read) :
    let record := Scan.recordOf pruner.rules kept read
    (Scan.StartsRegex pruner.rules kept read ↔ Reading.operandTracked record = true) ∧
      (Scan.IsDivision pruner.rules kept read ↔ Reading.operandTracked record = false) ∧
      (Reading.last? record ≠ some (.code '}') →
        Reading.joinedWord (Reading.upToSignificant record) =
          Reading.word (Reading.upToSignificant record) →
        (Scan.StartsRegex pruner.rules kept read ↔ Reading.operandDue record = true)) ∧
      (Reading.last? record = some (.code '}') →
        Scan.StartsRegex pruner.rules kept read ∧ Reading.operandDue record = false) ∧
      (Reading.last? record = some (.code ')') → Scan.IsDivision pruner.rules kept read) := by
  intro record
  have regex : Scan.StartsRegex pruner.rules kept read ↔ Reading.operandTracked record = true :=
    before.startsRegex_iff aware
  have division : Scan.IsDivision pruner.rules kept read ↔ Reading.operandTracked record = false :=
    before.isDivision_iff aware
  refine ⟨regex, division, ?_, ?_, ?_⟩
  · intro noBrace unjoined
    rw [regex, Reading.operandTracked_eq_due noBrace unjoined]
  · intro last
    obtain ⟨tracked, undue⟩ := Reading.operandTracked_brace last
    exact ⟨regex.mpr tracked, undue⟩
  · intro last
    exact division.mpr (Reading.operandTracked_parenthesis last)

/-- A slash behind a comment, after a keyword and after a closing parenthesis. -/
theorem slash_decided_behind_comment :
    Scan.BeforeSlash standard.rules .client "if (Meteor.isClient) \x7breturn /* ) */".toList ∧
      Scan.StartsRegex standard.rules .client
        "if (Meteor.isClient) \x7breturn /* ) */".toList ∧
      Scan.BeforeSlash standard.rules .client "if (Meteor.isClient) \x7b(a) /* = */".toList ∧
      Scan.IsDivision standard.rules .client "if (Meteor.isClient) \x7b(a) /* = */".toList := by
  have keyword : Scan.BeforeSlash standard.rules .client
      "if (Meteor.isClient) \x7breturn /* ) */".toList := ⟨nofun, rfl, rfl⟩
  have parenthesis : Scan.BeforeSlash standard.rules .client
      "if (Meteor.isClient) \x7b(a) /* = */".toList := ⟨nofun, rfl, rfl⟩
  obtain ⟨_, _, byRule, _, _⟩ := slash_decided standard rfl .client _ keyword
  obtain ⟨_, _, _, _, divides⟩ := slash_decided standard rfl .client _ parenthesis
  exact ⟨keyword, (byRule (by decide) rfl).mpr rfl, parenthesis, divides rfl⟩

/-- Two slashes that mean something else than the rule says. After a closing brace one
starts a regular expression, which hides the brace that should close the region. Behind a
comment an identifier is joined with the one before it and no keyword any more, so the
slash after it divides and the brace that should be hidden closes the region. -/
theorem slash_against_rule :
    Scan.BeforeSlash standard.rules .server "if (Meteor.isServer) \x7b\x7b\x7d".toList ∧
      Reading.operandDue (Scan.recordOf standard.rules .server
        "if (Meteor.isServer) \x7b\x7b\x7d".toList) = false ∧
      Scan.StartsRegex standard.rules .server "if (Meteor.isServer) \x7b\x7b\x7d".toList ∧
      standard.process "if (Meteor.isServer) \x7b\x7b\x7d/2\x7d".toList "main.ts".toList
        "os".toList = .error ⟨"main.ts".toList, 1, .server⟩ ∧
      Scan.BeforeSlash standard.rules .server
        "if (Meteor.isServer) \x7belse//\nreturn".toList ∧
      Reading.operandDue (Scan.recordOf standard.rules .server
        "if (Meteor.isServer) \x7belse//\nreturn".toList) = true ∧
      Scan.IsDivision standard.rules .server "if (Meteor.isServer) \x7belse//\nreturn".toList ∧
      standard.process "if (Meteor.isServer) \x7belse//\nreturn/\x7d/\x7d".toList
        "main.ts".toList "os".toList = .ok "else//\nreturn//\x7d".toList := by
  have brace : Scan.BeforeSlash standard.rules .server
      "if (Meteor.isServer) \x7b\x7b\x7d".toList := ⟨nofun, rfl, rfl⟩
  have joined : Scan.BeforeSlash standard.rules .server
      "if (Meteor.isServer) \x7belse//\nreturn".toList := ⟨nofun, rfl, rfl⟩
  refine ⟨brace, ?_, (brace.startsRegex_iff rfl).mpr ?_, ?_, joined, ?_,
    (joined.isDivision_iff rfl).mpr ?_, ?_⟩
  · rfl
  · rfl
  · rfl
  · rfl
  · rfl
  · rfl

end RegionBuild.Pruner
