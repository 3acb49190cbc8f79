import RegionBuild.Proofs.Region.WellFormed
import RegionBuild.Proofs.Text.LineEndings

/-!
# A line end of one character and of two

One tracker reads a text and another one the same text with a carriage return before
each line feed. They are out of step inside a line end and agree again after it, as
long as the context treats the two characters like one. In code, in block comments
and in templates this is so. A context that the line end closes is left at the
carriage return, so that the line feed is read as code; this shows only if a word was
still growing when the context was entered. An escape takes the carriage return
alone, so that the line feed ends the literal it should continue.

Where a line ends steadily in this sense the two trackers follow everything after it
in the same way. Where it does not, some text closes the region for one of them and
leaves it open for the other.
-/

namespace RegionBuild.Region

namespace Piece

/-- Whether the next identifier character still belongs to the last word. -/
def growing : Piece → Bool
  | .mark _ => false
  | .word _ growing => growing

/-- The piece after white space. -/
def settled : Piece → Piece
  | .mark char => .mark char
  | .word letters _ => .word letters false

/-- White space ends a word. -/
theorem note_blank (piece : Piece) {char : Char} (blank : Text.isBlank char = true) :
    piece.note char = piece.settled := by
  unfold note
  rw [if_pos blank]
  cases piece with
  | mark => rfl
  | word => rfl

/-- A line end counts as white space. -/
theorem note_lineEnd (piece : Piece) {char : Char} (ends : isLineEnd char = true) :
    piece.note char = piece.settled := by
  apply note_blank
  rcases (by simpa [isLineEnd] using ends : char = '\r' ∨ char = '\n') with rfl | rfl
  · decide
  · decide

/-- More white space changes nothing. -/
theorem settled_settled (piece : Piece) : piece.settled.settled = piece.settled := by
  cases piece with
  | mark => rfl
  | word => rfl

/-- White space changes nothing about a piece that no longer grows. -/
theorem settled_eq_self {piece : Piece} (grown : piece.growing = false) :
    piece.settled = piece := by
  cases piece with
  | mark => rfl
  | word letters growing =>
    obtain rfl : growing = false := grown
    rfl

/-- White space and letters never leave a word without letters. -/
theorem note_ne_empty {piece : Piece} (worded : ∀ growing, piece ≠ .word [] growing)
    (char : Char) (growing : Bool) : piece.note char ≠ .word [] growing := by
  unfold note
  grind

end Piece

namespace Context

/-- Whether a line end leaves the context. -/
def endsWithLine : Context → Bool
  | .code | .blockComment => false
  | .lineComment => true
  | .quoted quote escaped => quote != .template && !escaped
  | .regex _ escaped _ => !escaped

/-- Whether the next character is escaped in a literal that cannot span lines. -/
def escapesLine : Context → Bool
  | .code | .lineComment | .blockComment => false
  | .quoted quote escaped => quote != .template && escaped
  | .regex _ escaped _ => escaped

end Context

namespace Tracker

/-- Whether a line that ends here may end with one character or with two. -/
def steady (tracker : Tracker) : Bool :=
  !tracker.context.escapesLine && !(tracker.context.endsWithLine && tracker.piece.growing)

/-- A character that ends a line is no delimiter and no second half of a token. -/
theorem lineEnd_ne {char other : Char} (ends : isLineEnd char = true)
    (unlike : isLineEnd other = false) : char ≠ other := by
  rintro rfl
  rw [ends] at unlike
  exact absurd unlike (by decide)

/-- In code a line end is white space. -/
theorem read_lineEnd_code (tracker : Tracker) (grounded : tracker.Grounded)
    (inCode : tracker.context = .code) (stringAware : Bool) {char : Char}
    (ends : isLineEnd char = true) :
    tracker.read stringAware char =
      ({ tracker.push char with piece := tracker.piece.settled }, false) := by
  have token : ∀ first second, isLineEnd second = false →
      (tracker.push char).completes [first, second] = false := by
    intro first second unlike
    rw [Bool.eq_false_iff, ne_eq, completes_pair_iff tracker grounded]
    exact fun both => lineEnd_ne ends unlike both.1
  have unquoted : Quote.ofChar? char = none := by
    unfold Quote.ofChar?
    rw [if_neg (lineEnd_ne ends rfl), if_neg (lineEnd_ne ends rfl), if_neg (lineEnd_ne ends rfl)]
  have noSlash : (char == '/') = false := by
    simpa using lineEnd_ne ends (show isLineEnd '/' = false from rfl)
  have context : (tracker.push char).context = .code := inCode
  unfold read advance
  rw [context]
  unfold advanceCode
  simp only [token _ '/' rfl, token _ '*' rfl, noSlash, unquoted, ite_self, Bool.and_false,
    Bool.false_and, Bool.false_eq_true, ↓reduceIte]
  unfold advancePlain
  rw [if_neg (lineEnd_ne ends rfl), if_neg (lineEnd_ne ends rfl)]
  rw [Piece.note_lineEnd _ ends]
  rfl

/-- A context that ends with the line leads back to code. -/
theorem read_lineEnd_leaving {tracker : Tracker}
    (leaves : tracker.context.endsWithLine = true) (stringAware : Bool) {char : Char}
    (ends : isLineEnd char = true) :
    tracker.read stringAware char = ((tracker.push char).enter .code, false) := by
  have context : (tracker.push char).context = tracker.context := rfl
  unfold read advance
  rw [context]
  cases inContext : tracker.context with
  | code => simp [inContext, Context.endsWithLine] at leaves
  | lineComment => simp only [ends, ↓reduceIte]
  | blockComment => simp [inContext, Context.endsWithLine] at leaves
  | quoted quote escaped =>
    rw [inContext, Context.endsWithLine, Bool.and_eq_true, Bool.not_eq_true'] at leaves
    obtain ⟨plain, rfl⟩ := leaves
    have noMark : char ≠ quote.mark := lineEnd_ne ends (by cases quote <;> rfl)
    have leaving : (isLineEnd char && quote != .template) = true := by rw [ends, plain]; rfl
    simp only [advanceQuoted, lineEnd_ne ends (show isLineEnd '\\' = false from rfl), noMark,
      leaving, Bool.false_eq_true, ↓reduceIte]
  | regex length escaped inClass =>
    rw [inContext, Context.endsWithLine, Bool.not_eq_true'] at leaves
    subst leaves
    have other : ∀ mark, isLineEnd mark = false → (char = mark) = False := fun mark unlike =>
      eq_false (lineEnd_ne ends unlike)
    simp only [advanceRegex, other '/' rfl, other '*' rfl, other '\\' rfl, other '[' rfl,
      other ']' rfl, ends, and_false, false_and, Bool.false_eq_true, ↓reduceIte]

/-- A block comment goes on after a line end. -/
theorem read_lineEnd_blockComment {tracker : Tracker} (grounded : tracker.Grounded)
    (inBlock : tracker.context = .blockComment) (stringAware : Bool) {char : Char}
    (ends : isLineEnd char = true) :
    tracker.read stringAware char = (tracker.push char, false) := by
  have goesOn : (tracker.push char).completes ['*', '/'] = false := by
    rw [Bool.eq_false_iff, ne_eq, completes_pair_iff tracker grounded]
    exact fun both => lineEnd_ne ends rfl both.1
  have context : (tracker.push char).context = .blockComment := inBlock
  unfold read advance
  rw [context]
  simp only [goesOn, Bool.false_eq_true, ↓reduceIte]

/-- A template goes on after a line end, escaped or not. -/
theorem read_lineEnd_template {tracker : Tracker} {escaped : Bool}
    (inTemplate : tracker.context = .quoted .template escaped) (stringAware : Bool) {char : Char}
    (ends : isLineEnd char = true) :
    tracker.read stringAware char =
      ({ tracker.push char with context := .quoted .template false }, false) := by
  have context : (tracker.push char).context = .quoted .template escaped := inTemplate
  have noMark : char ≠ Quote.mark .template := lineEnd_ne ends rfl
  unfold read advance
  rw [context]
  cases escaped with
  | true => rfl
  | false =>
    simp only [advanceQuoted, lineEnd_ne ends (show isLineEnd '\\' = false from rfl), noMark,
      bne_self_eq_false, Bool.and_false, Bool.false_eq_true, ↓reduceIte]
    rw [← inTemplate]
    rfl

/-- After a line feed no token is half read. -/
theorem window_feed (tracker : Tracker) (grounded : tracker.Grounded) {half : Char}
    (listed : half ∈ ['/', '*']) : (tracker.push '\n').window.head? ≠ some half := by
  rw [window_push tracker grounded, List.head?_cons]
  rintro ⟨rfl⟩
  exact absurd listed (by decide)

/-- Where a line ends steadily the context either ends with it, after the last word,
or goes on as if a line end were one character. -/
theorem steady_cases {tracker : Tracker} (steady : tracker.steady = true) :
    (tracker.context.endsWithLine = true ∧ tracker.piece.growing = false) ∨
      tracker.context = .code ∨ tracker.context = .blockComment ∨
        ∃ escaped, tracker.context = .quoted .template escaped := by
  rw [Tracker.steady, Bool.and_eq_true, Bool.not_eq_true', Bool.not_eq_true',
    Bool.and_eq_false_iff] at steady
  obtain ⟨unescaped, grown⟩ := steady
  cases inContext : tracker.context with
  | code => exact Or.inr (Or.inl rfl)
  | lineComment =>
    exact Or.inl ⟨rfl, grown.resolve_left (by simp [inContext, Context.endsWithLine])⟩
  | blockComment => exact Or.inr (Or.inr (Or.inl rfl))
  | quoted quote escaped =>
    by_cases spans : quote = .template
    · exact Or.inr (Or.inr (Or.inr ⟨escaped, by rw [spans]⟩))
    · have leaves : (Context.quoted quote escaped).endsWithLine = true := by
        simpa [inContext, Context.escapesLine, Context.endsWithLine, spans] using unescaped
      rw [inContext, leaves] at grown
      exact Or.inl ⟨leaves, grown.resolve_left (by decide)⟩
  | regex length escaped inClass =>
    have leaves : (Context.regex length escaped inClass).endsWithLine = true := by
      simpa [inContext, Context.escapesLine, Context.endsWithLine] using unescaped
    rw [inContext, leaves] at grown
    exact Or.inl ⟨leaves, grown.resolve_left (by decide)⟩

namespace SameHalfToken

variable {left right : Tracker}

/-- Neither a line feed nor a carriage return is half of a token, so trackers hold the same
half when one reads the first and the other one both, without looking at them. -/
theorem pushFeed (pair : SameHalfToken left right) :
    SameHalfToken (left.push '\n') ((right.push '\r').push '\n') where
  leftGrounded := Nat.le_succ_of_le pair.leftGrounded
  rightGrounded := Nat.le_succ_of_le (Nat.le_succ_of_le pair.rightGrounded)
  halves _ listed := iff_of_false (window_feed left pair.leftGrounded listed)
    (window_feed (right.push '\r') (Nat.le_succ_of_le pair.rightGrounded) listed)
  context := pair.context
  depth := pair.depth
  piece := pair.piece

/-- Back in code, a line feed more is no difference if no word is growing. -/
theorem enterFeed (pair : SameHalfToken left right) (grown : left.piece.growing = false) :
    SameHalfToken ((left.push '\n').enter .code)
      { ((right.push '\r').enter .code).push '\n' with piece := right.piece.settled } where
  leftGrounded := Nat.le_refl _
  rightGrounded := Nat.le_succ_of_le (Nat.le_refl _)
  halves _ listed := by
    rw [window_enter]
    exact iff_of_false (by simp)
      (window_feed ((right.push '\r').enter .code) (Nat.le_refl _) listed)
  context := rfl
  depth := pair.depth
  piece := by
    rw [← pair.piece, Piece.settled_eq_self grown]
    rfl

/-- Where a line ends steadily, one tracker reads a line feed and the other one a
carriage return before it, and they hold the same half of a token again. -/
theorem feed (pair : SameHalfToken left right) (steady : left.steady = true) (stringAware : Bool) :
    ∃ next next', left.read stringAware '\n' = (next, false) ∧
      right.follow? stringAware ['\r', '\n'] = some next' ∧ SameHalfToken next next' := by
  have returned : (right.push '\r').Grounded := Nat.le_succ_of_le pair.rightGrounded
  rcases steady_cases steady with ⟨leaves, grown⟩ | inCode | inBlock | ⟨escaped, inTemplate⟩
  · have leaves' : right.context.endsWithLine = true := pair.context ▸ leaves
    refine ⟨_, _, read_lineEnd_leaving leaves stringAware rfl, ?_, pair.enterFeed grown⟩
    apply follow?_pair (read_lineEnd_leaving leaves' stringAware rfl)
    exact read_lineEnd_code _ (Nat.le_refl _) rfl stringAware rfl
  · have inCode' : right.context = .code := pair.context ▸ inCode
    have settled := read_lineEnd_code { right.push '\r' with piece := right.piece.settled }
      returned inCode' stringAware (show isLineEnd '\n' = true from rfl)
    refine ⟨_, _, read_lineEnd_code left pair.leftGrounded inCode stringAware rfl,
      follow?_pair (read_lineEnd_code right pair.rightGrounded inCode' stringAware rfl) settled, ?_⟩
    rw [Piece.settled_settled, pair.piece]
    exact congruence.withPiece pair.pushFeed _
  · have inBlock' : right.context = .blockComment := pair.context ▸ inBlock
    exact ⟨_, _, read_lineEnd_blockComment pair.leftGrounded inBlock stringAware rfl,
      follow?_pair (read_lineEnd_blockComment pair.rightGrounded inBlock' stringAware rfl)
        (read_lineEnd_blockComment returned inBlock' stringAware rfl), pair.pushFeed⟩
  · have inTemplate' : right.context = .quoted .template escaped := pair.context ▸ inTemplate
    exact ⟨_, _, read_lineEnd_template inTemplate stringAware rfl,
      follow?_pair (read_lineEnd_template inTemplate' stringAware rfl)
        (read_lineEnd_template rfl stringAware rfl), congruence.inContext pair.pushFeed _⟩

end SameHalfToken

/-- Whether every line in a text ends steadily when the text is followed. -/
def steadyOver (stringAware : Bool) : Tracker → Text → Bool
  | _, [] => true
  | tracker, char :: rest =>
    (char != '\n' || tracker.steady) &&
      steadyOver stringAware (tracker.read stringAware char).1 rest

/-- Trackers with the same half of a token follow a text and the same text with carriage
returns equally far.

Induct over the text. A line feed makes one step on the left and two on the right. -/
theorem SameHalfToken.follow?_withReturns {left right : Tracker} (pair : SameHalfToken left right)
    (stringAware : Bool) (text : Text) (steady : left.steadyOver stringAware text = true) :
    Option.Rel SameHalfToken (left.follow? stringAware text)
      (right.follow? stringAware (Text.withReturns text)) := by
  induction text generalizing left right with
  | nil => exact .some pair
  | cons char rest inductionHypothesis =>
    rw [steadyOver, Bool.and_eq_true] at steady
    obtain ⟨here, later⟩ := steady
    by_cases feed : char = '\n'
    · subst feed
      obtain ⟨next, next', read, followed, pair'⟩ := pair.feed (by simpa using here) stringAware
      rw [read] at later
      have split : right.follow? stringAware (Text.withReturns ('\n' :: rest)) =
          next'.follow? stringAware (Text.withReturns rest) := by
        have whole := follow?_append stringAware right ['\r', '\n'] (Text.withReturns rest)
        rwa [followed, Option.bind_some] at whole
      rw [split, Tracker.follow?, read]
      exact inductionHypothesis pair' later
    · obtain ⟨next, verdict⟩ := pair.read stringAware char
      rw [Text.withReturns_cons feed, Tracker.follow?, Tracker.follow?, verdict]
      exact ite_related (fun _ => .none) (fun _ => inductionHypothesis next later)

/-- Where one of two such trackers gets to, the other one gets to one with the same half of a
token. -/
theorem SameHalfToken.exists_withReturns {left right next : Tracker}
    (pair : SameHalfToken left right) {stringAware : Bool} {text : Text}
    (steady : left.steadyOver stringAware text = true)
    (followed : left.follow? stringAware text = some next) :
    ∃ next', right.follow? stringAware (Text.withReturns text) = some next' ∧
      SameHalfToken next next' := by
  have related := pair.follow?_withReturns stringAware text steady
  rw [followed] at related
  generalize right.follow? stringAware (Text.withReturns text) = reached at related ⊢
  cases related with
  | some pair' => exact ⟨_, rfl, pair'⟩

/-- Trackers with the same half of a token follow to its end a text with carriage returns if
they follow the text. -/
theorem SameHalfToken.follow?_withReturns_isSome {left right : Tracker}
    (pair : SameHalfToken left right) (stringAware : Bool) (text : Text)
    (steady : left.steadyOver stringAware text = true) :
    (right.follow? stringAware (Text.withReturns text)).isSome =
      (left.follow? stringAware text).isSome := by
  have related := pair.follow?_withReturns stringAware text steady
  generalize left.follow? stringAware text = leftEnd at related ⊢
  generalize right.follow? stringAware (Text.withReturns text) = rightEnd at related ⊢
  cases related with
  | none => rfl
  | some _ => rfl

/-- Trackers with the same half of a token close after a body with carriage returns if they
close after the body. -/
theorem SameHalfToken.closesAfter_withReturns {left right : Tracker}
    (pair : SameHalfToken left right) (stringAware : Bool) (body : Text)
    (steady : left.steadyOver stringAware body = true) :
    right.closesAfter stringAware (Text.withReturns body) =
      left.closesAfter stringAware body := by
  have related := pair.follow?_withReturns stringAware body steady
  unfold Tracker.closesAfter
  generalize left.follow? stringAware body = leftEnd at related ⊢
  generalize right.follow? stringAware (Text.withReturns body) = rightEnd at related ⊢
  cases related with
  | none => rfl
  | some next => exact (next.read stringAware '}').2.symm

/-- Grounding is part of the relation, so only a grounded tracker is related to itself. -/
theorem SameHalfToken.refl {tracker : Tracker} (grounded : tracker.Grounded) :
    SameHalfToken tracker tracker :=
  .of_eqAboveFloor ⟨grounded, grounded, rfl, rfl, rfl, rfl⟩

/-- A text is followed steadily part by part. -/
theorem steadyOver_append {tracker next : Tracker} {stringAware : Bool} {first : Text}
    (followed : tracker.follow? stringAware first = some next) (second : Text) :
    tracker.steadyOver stringAware (first ++ second) =
      (tracker.steadyOver stringAware first && next.steadyOver stringAware second) := by
  induction first generalizing tracker with
  | nil =>
    obtain rfl : tracker = next := Option.some.inj followed
    rfl
  | cons char rest inductionHypothesis =>
    rw [follow?] at followed
    split at followed
    · cases followed
    · rw [List.cons_append, steadyOver, steadyOver, inductionHypothesis followed, Bool.and_assoc]

/-- Trackers that agree above the floor follow the same texts steadily. -/
theorem EqAboveFloor.steadyOver {left right : Tracker} (agree : EqAboveFloor left right)
    (stringAware : Bool) (text : Text) :
    left.steadyOver stringAware text = right.steadyOver stringAware text := by
  induction text generalizing left right with
  | nil => rfl
  | cons char rest inductionHypothesis =>
    have here : left.steady = right.steady := by
      rw [Tracker.steady, Tracker.steady, agree.context, agree.piece]
    rw [Tracker.steadyOver, Tracker.steadyOver, here,
      inductionHypothesis (agree.read stringAware char).1]

/-- Where literals are not followed: no word grows any more after a slash in code,
and so none does in a line comment. -/
structure Unquoted (tracker : Tracker) : Prop where
  grounded : tracker.Grounded
  unquoted : tracker.context = .code ∨ tracker.context = .lineComment ∨
    tracker.context = .blockComment
  slash : tracker.context = .code → tracker.window.head? = some '/' →
    tracker.piece.growing = false
  comment : tracker.context = .lineComment → tracker.piece.growing = false

/-- No character leads out of this. -/
theorem Unquoted.read {tracker : Tracker} (unquoted : Unquoted tracker) (char : Char) :
    Unquoted (tracker.read false char).1 := by
  have grounded : (tracker.push char).Grounded := Nat.le_succ_of_le unquoted.grounded
  rcases unquoted.unquoted with inCode | inLine | inBlock
  · have context : (tracker.push char).context = .code := inCode
    unfold Tracker.read advance
    rw [context]
    change Unquoted (if (tracker.push char).completes ['/', '/'] then _
      else if (tracker.push char).completes ['/', '*'] then _
      else (tracker.push char).advancePlain char : Tracker × Bool).1
    split
    · next opens =>
      rw [completes_pair_iff tracker unquoted.grounded] at opens
      exact ⟨Nat.le_refl _, Or.inr (Or.inl rfl), nofun,
        fun _ => unquoted.slash inCode opens.2⟩
    · split
      · exact ⟨Nat.le_refl _, Or.inr (Or.inr rfl), nofun, nofun⟩
      · obtain ⟨depth, next⟩ := (tracker.push char).advancePlain_fst char
        rw [next]
        refine ⟨grounded, Or.inl inCode, fun _ slash => ?_, fun inLine => ?_⟩
        · have window := tracker.window_push unquoted.grounded char
          obtain rfl : char = '/' := by
            change (tracker.push char).window.head? = some '/' at slash
            rwa [window, List.head?_cons, Option.some.injEq] at slash
          rfl
        · exact absurd (inLine.symm.trans inCode) (by decide)
  · have context : (tracker.push char).context = .lineComment := inLine
    unfold Tracker.read advance
    rw [context]
    by_cases ends : isLineEnd char = true
    · rw [if_pos ends]
      exact ⟨Nat.le_refl _, Or.inl rfl, fun _ slash => by simp [window_enter] at slash, nofun⟩
    · rw [if_neg ends]
      exact ⟨grounded, Or.inr (Or.inl inLine),
        fun inCode => absurd (inCode.symm.trans inLine) (by decide), unquoted.comment⟩
  · have context : (tracker.push char).context = .blockComment := inBlock
    unfold Tracker.read advance
    rw [context]
    by_cases ends : (tracker.push char).completes ['*', '/'] = true
    · rw [if_pos ends]
      exact ⟨Nat.le_refl _, Or.inl rfl, fun _ slash => by simp [window_enter] at slash, nofun⟩
    · rw [if_neg ends]
      exact ⟨grounded, Or.inr (Or.inr inBlock),
        fun inCode => absurd (inCode.symm.trans inBlock) (by decide),
        fun inLine => absurd (inLine.symm.trans inBlock) (by decide)⟩

/-- Where literals are not followed every line ends steadily. -/
theorem Unquoted.steadyOver {tracker : Tracker} (unquoted : Unquoted tracker) (text : Text) :
    tracker.steadyOver false text = true := by
  induction text generalizing tracker with
  | nil => rfl
  | cons char rest inductionHypothesis =>
    have here : tracker.steady = true := by
      unfold Tracker.steady
      rcases unquoted.unquoted with inCode | inLine | inBlock
      · rw [inCode]
        rfl
      · rw [inLine, unquoted.comment inLine]
        rfl
      · rw [inBlock]
        rfl
    rw [Tracker.steadyOver, here, inductionHypothesis (unquoted.read char), Bool.or_true]
    rfl

/-- As long as a region is open: its own brace is open, and the last word has
letters. -/
structure Ongoing (tracker : Tracker) : Prop where
  positive : 0 < tracker.depth
  worded : ∀ growing, tracker.piece ≠ .word [] growing

/-- A fresh region is open. -/
theorem fresh_ongoing : Ongoing fresh := ⟨Nat.zero_lt_one, nofun⟩

/-- A character that does not close the region keeps it so. -/
theorem Ongoing.read {tracker : Tracker} (ongoing : Ongoing tracker) (stringAware : Bool)
    (char : Char) (goesOn : (tracker.read stringAware char).2 = false) :
    Ongoing (tracker.read stringAware char).1 := by
  obtain ⟨positive, worded⟩ := ongoing
  have noted := Piece.note_ne_empty worded char
  -- Only in code does the depth change, where a closing brace at depth one does not go on.
  -- A piece is kept, takes the character in, or becomes the mark that closed a literal.
  unfold Tracker.read advance advanceCode advancePlain advanceQuoted advanceRegex closeLiteral
    enter push at *
  constructor
  · grind
  · grind

/-- A text that can be followed to its end keeps it so. -/
theorem Ongoing.follow? {tracker next : Tracker} (ongoing : Ongoing tracker) {stringAware : Bool}
    {text : Text} (followed : tracker.follow? stringAware text = some next) : Ongoing next := by
  induction text generalizing tracker with
  | nil => exact Option.some.inj followed ▸ ongoing
  | cons char rest inductionHypothesis =>
    rw [Tracker.follow?] at followed
    split at followed
    · cases followed
    · next goesOn =>
      exact inductionHypothesis (ongoing.read stringAware char (by simpa using goesOn)) followed

/-- In a literal that braces do not end. -/
def Hidden (depth : Nat) (tracker : Tracker) : Prop :=
  (∃ quote, Within depth (.quoted quote false) tracker) ∨ ∃ inClass, InRegex depth inClass tracker

/-- Braces stay hidden in a literal. -/
theorem leads_hidden (depth count : Nat) :
    Leads (Hidden depth) (Hidden depth) (List.replicate count '}') := by
  have brace : Leads (Hidden depth) (Hidden depth) ['}'] := by
    rintro tracker (⟨quote, within⟩ | ⟨inClass, inRegex⟩)
    · have item : QuotedItem quote ['}'] :=
        .plain '}' (by cases quote <;> decide) (by decide) (fun _ => rfl)
      obtain ⟨next, followed, within'⟩ := leads_quotedItem depth quote _ item tracker within
      exact ⟨next, followed, Or.inl ⟨quote, within'⟩⟩
    · cases inClass with
      | true =>
        have item : ClassItem ['}'] := .plain '}' (by decide) (by decide) rfl
        obtain ⟨next, followed, inRegex'⟩ := leads_classItem depth _ item tracker inRegex
        exact ⟨next, followed, Or.inr ⟨true, inRegex'⟩⟩
      | false =>
        obtain ⟨length, within⟩ := inRegex
        have item : RegexItem ['}'] := .plain '}' (by decide) (by decide) (by decide) rfl
        obtain ⟨next, followed, inRegex'⟩ :=
          leads_regexItem depth (length + 1) _ item (by simp) tracker within
        exact ⟨next, followed, Or.inr ⟨false, inRegex'⟩⟩
  induction count with
  | zero => exact .nil
  | succ count inductionHypothesis => exact .cons brace inductionHypothesis

/-- As many closing braces as are open besides the region's own come back up to it. -/
theorem leads_closes (depth : Nat) :
    Leads (InCode depth) (InCode 0) (List.replicate depth '}') := by
  induction depth with
  | zero => exact .nil
  | succ depth inductionHypothesis => exact .cons (leads_close depth) inductionHypothesis

/-- In code after a given piece. -/
structure Spelled (depth : Nat) (piece : Piece) (tracker : Tracker) : Prop extends
    InCode depth tracker where
  piece_eq : tracker.piece = piece

/-- Characters that delimit nothing are noted one after the other. -/
theorem leads_noted (depth : Nat) (piece : Piece) (text : Text)
    (plain : ∀ char ∈ text, char ∉ delimiters) :
    Leads (Spelled depth piece) (Spelled depth (text.foldl Piece.note piece)) text := by
  induction text generalizing piece with
  | nil => exact .nil
  | cons char rest inductionHypothesis =>
    have here : char ∉ delimiters := plain char List.mem_cons_self
    refine .cons (.single fun tracker spelled => ⟨_, spelled.read_plain here, ?_⟩)
      (inductionHypothesis (piece.note char)
        fun other inside => plain other (List.mem_cons_of_mem _ inside))
    exact { spelled.noted (ne_slash_of_plain here) (tracker.piece.note char) with
      piece_eq := congrArg (Piece.note · char) spelled.piece_eq }

/-- After a word that expects no operand a slash divides, and code goes on with the
semicolon behind it. -/
theorem leads_division (depth : Nat) {piece : Piece} (operator : piece.expectsOperand = false) :
    Leads (Spelled depth piece) (InCode depth) ['/', ';'] := by
  have slash : Leads (Spelled depth piece) (Within depth .code) ['/'] := by
    refine .single fun tracker spelled => ?_
    have read := spelled.read_code '/'
    rw [spelled.piece_eq, operator] at read
    exact ⟨_, read, Nat.le_succ_of_le spelled.grounded, spelled.context_eq, spelled.depth_eq⟩
  refine .cons slash (.single fun tracker within => ?_)
  have token : ∀ second, ';' ≠ second →
      (tracker.push ';').completes ['/', second] = false := by
    intro second unlike
    rw [Bool.eq_false_iff, ne_eq, completes_pair_iff tracker within.grounded]
    exact fun both => unlike both.1
  refine ⟨{ tracker.push ';' with piece := tracker.piece.note ';' }, ?_, ?_⟩
  · rw [read_of_context tracker _ ';' within.context_eq]
    simp only [advanceCode, token '/' (by decide), token '*' (by decide), Bool.false_eq_true,
      ↓reduceIte]
    rfl
  · refine ⟨⟨Nat.le_succ_of_le within.grounded, within.context_eq, within.depth_eq⟩, ?_⟩
    change (tracker.push ';').window.head? ≠ some '/'
    rw [window_push tracker within.grounded]
    simp

/-- After a word that expects an operand a slash opens a regular expression, and the
semicolon belongs to it. -/
theorem leads_operand (depth : Nat) {piece : Piece} (operand : piece.expectsOperand = true) :
    Leads (Spelled depth piece) (Hidden depth) ['/', ';'] := by
  intro tracker spelled
  have ready : BeforeOperand depth tracker :=
    { spelled.toInCode with expected := spelled.piece_eq ▸ operand }
  have item : RegexItem [';'] := .plain ';' (by decide) (by decide) (by decide) rfl
  have whole := Leads.cons (leads_regex depth)
    (leads_regexItem depth 0 [';'] item fun _ => by decide)
  obtain ⟨next, followed, inRegex⟩ := whole tracker ready
  exact ⟨next, followed, Or.inr ⟨false, inRegex⟩⟩

/-- An escape takes a line end and the literal goes on, until the next line end. -/
theorem read_escaped {tracker : Tracker} (grounded : tracker.Grounded) {depth : Nat}
    (deep : tracker.depth = depth + 1) (escapes : tracker.context.escapesLine = true)
    {char : Char} (ends : isLineEnd char = true) :
    ∃ next, tracker.read true char = (next, false) ∧ Hidden depth next ∧
      Within depth next.context next ∧ next.context.endsWithLine = true := by
  have pushed : Within depth tracker.context (tracker.push char) :=
    ⟨Nat.le_succ_of_le grounded, rfl, deep⟩
  cases inContext : tracker.context with
  | code => simp [inContext, Context.escapesLine] at escapes
  | lineComment => simp [inContext, Context.escapesLine] at escapes
  | blockComment => simp [inContext, Context.escapesLine] at escapes
  | quoted quote escaped =>
    rw [inContext, Context.escapesLine, Bool.and_eq_true] at escapes
    obtain ⟨plain, rfl⟩ := escapes
    have within := pushed.inContext (.quoted quote false)
    refine ⟨_, read_of_context tracker _ char inContext, Or.inl ⟨quote, within⟩, within, ?_⟩
    change (quote != .template && !false) = true
    rw [plain]
    rfl
  | regex length escaped inClass =>
    obtain rfl : escaped = true := by simpa [inContext, Context.escapesLine] using escapes
    have within := pushed.inContext (.regex (length + 1) false inClass)
    refine ⟨_, ?_, Or.inr ⟨inClass, length, within⟩, within, rfl⟩
    rw [read_of_context tracker _ char inContext]
    simp only [advanceRegex, lineEnd_ne ends (show isLineEnd '/' = false from rfl),
      lineEnd_ne ends (show isLineEnd '*' = false from rfl), and_false, ↓reduceIte]

/-- Where a line does not end steadily, it ends inside an escape or the context ends
with it while a word is growing. -/
theorem unsteady_cases {tracker : Tracker} (unsteady : tracker.steady = false) :
    tracker.context.escapesLine = true ∨
      (tracker.context.endsWithLine = true ∧ tracker.piece.growing = true) := by
  unfold steady at unsteady
  cases escapes : tracker.context.escapesLine with
  | true => exact Or.inl rfl
  | false => exact Or.inr (by simpa [escapes] using unsteady)

/-- A line end in an escape: with a line feed alone the literal goes on and hides the
braces after it, with a carriage return the line feed ends it and they count. -/
theorem SameHalfToken.escape_apart {left right : Tracker} (pair : SameHalfToken left right)
    {depth : Nat} (deep : left.depth = depth + 1) (escapes : left.context.escapesLine = true) :
    (left.follow? true ('\n' :: List.replicate (depth + 1) '}')).isSome = true ∧
      right.closesAfter true ('\r' :: '\n' :: List.replicate depth '}') = true := by
  constructor
  · obtain ⟨next, read, hidden, _⟩ :=
      read_escaped pair.leftGrounded deep escapes (show isLineEnd '\n' = true from rfl)
    obtain ⟨final, followed, _⟩ := leads_hidden depth (depth + 1) next hidden
    rw [Tracker.follow?, read]
    exact Option.isSome_iff_exists.mpr ⟨final, followed⟩
  · have line : Leads (· = right) (InCode depth) ['\r', '\n'] := by
      intro tracker same
      rw [same]
      obtain ⟨next, read, _, within, leaves⟩ := read_escaped pair.rightGrounded
        (pair.depth ▸ deep) (pair.context ▸ escapes) (show isLineEnd '\r' = true from rfl)
      exact ⟨_, follow?_pair read (read_lineEnd_leaving leaves true rfl),
        (within.push '\n').enterCode⟩
    exact (line.append (leads_closes depth)).closesAfter rfl

/-- A longer word that ends like this keyword is no keyword. -/
theorem expectsOperand_longer {letters : Text} (worded : letters ≠ []) :
    (Piece.word ("nruter".toList ++ letters) true).expectsOperand = false := by
  have keywords : (operandKeywords.all fun keyword =>
      decide ("return".toList <:+ keyword → keyword = "return".toList)) = true := by
    decide
  rw [Bool.eq_false_iff]
  intro expected
  have listed : letters.reverse ++ "return".toList ∈ operandKeywords := by
    simpa [Piece.expectsOperand] using expected
  have same := of_decide_eq_true (List.all_eq_true.mp keywords _ listed)
    (List.suffix_append _ _)
  exact worded (by simpa using same)

/-- The letters of this keyword delimit nothing. -/
theorem plain_return : ∀ char ∈ "return".toList, char ∉ delimiters := by
  have each : ("return".toList.all fun char => decide (char ∉ delimiters)) = true := by decide
  exact fun char listed => of_decide_eq_true (List.all_eq_true.mp each char listed)

/-- A keyword that continues a word is none any more, so that a slash behind it divides
and the braces after it count. -/
theorem leads_joined (depth : Nat) {letters : Text} (worded : letters ≠ []) :
    Leads (Spelled depth (.word letters true)) (InCode 0)
      ("return/;".toList ++ List.replicate depth '}') := by
  have spelled := leads_noted depth (.word letters true) "return".toList plain_return
  have divided := leads_division depth (expectsOperand_longer worded)
  exact spelled.append (divided.append (leads_closes depth))

/-- After a word that has ended the keyword stands for itself. A slash behind it opens a
regular expression that hides the braces. -/
theorem leads_separate (depth count : Nat) (letters : Text) :
    Leads (Spelled depth (.word letters false)) (Hidden depth)
      ("return/;".toList ++ List.replicate count '}') := by
  have spelled := leads_noted depth (.word letters false) "return".toList plain_return
  have opened := leads_operand depth (show (Piece.word "nruter".toList true).expectsOperand = true
    by rfl)
  exact spelled.append (opened.append (leads_hidden depth count))

/-- A line end after a growing word: with a line feed alone the word grows on behind
it, so that a slash divides; with a carriage return a new word starts, after which
the slash opens a regular expression that hides the braces. -/
theorem SameHalfToken.growing_apart {left right : Tracker} (pair : SameHalfToken left right)
    {depth : Nat} (deep : left.depth = depth + 1) (leaves : left.context.endsWithLine = true)
    {letters : Text} (word : left.piece = .word letters true) (worded : letters ≠ []) :
    left.closesAfter true ('\n' :: ("return/;".toList ++ List.replicate depth '}')) = true ∧
      (right.follow? true
        ('\r' :: '\n' :: ("return/;".toList ++ List.replicate (depth + 1) '}'))).isSome = true := by
  constructor
  · have line : Leads (· = left) (Spelled depth (.word letters true)) ['\n'] := by
      refine .single fun tracker same => ?_
      rw [same]
      have within : Within depth left.context (left.push '\n') :=
        ⟨Nat.le_succ_of_le pair.leftGrounded, rfl, deep⟩
      exact ⟨_, read_lineEnd_leaving leaves true rfl,
        { within.enterCode with piece_eq := word }⟩
    exact (Leads.cons line (leads_joined depth worded)).closesAfter rfl
  · have line : Leads (· = right) (Spelled depth (.word letters false)) ['\r', '\n'] := by
      intro tracker same
      rw [same]
      have within : Within depth right.context (right.push '\r') :=
        ⟨Nat.le_succ_of_le pair.rightGrounded, rfl, pair.depth ▸ deep⟩
      have settled : right.piece.settled = .word letters false := by rw [← pair.piece, word]; rfl
      have inCode := within.enterCode.noted (show '\n' ≠ '/' by decide) right.piece.settled
      refine ⟨_, follow?_pair (read_lineEnd_leaving (pair.context ▸ leaves) true rfl)
        (read_lineEnd_code _ (Nat.le_refl _) rfl true rfl), { inCode with piece_eq := settled }⟩
    obtain ⟨final, followed, _⟩ := (line.append (leads_separate depth (depth + 1) letters)) right rfl
    exact Option.isSome_iff_exists.mpr ⟨final, followed⟩

/-- Where a line does not end steadily there is a text that closes the region for one
way to end the line and leaves it open for the other. -/
theorem SameHalfToken.feed_apart {left right : Tracker} (pair : SameHalfToken left right)
    (ongoing : Ongoing left) (unsteady : left.steady = false) {stringAware : Bool}
    (aware : stringAware = true) :
    ∃ after : Text, (∀ char ∈ after, isLineEnd char = false) ∧
      ((left.follow? stringAware ('\n' :: (after ++ ['}']))).isSome = true ∧
          right.closesAfter stringAware ('\r' :: '\n' :: after) = true ∨
        left.closesAfter stringAware ('\n' :: after) = true ∧
          (right.follow? stringAware ('\r' :: '\n' :: (after ++ ['}']))).isSome = true) := by
  subst aware
  obtain ⟨depth, deep⟩ := Nat.exists_eq_succ_of_ne_zero (Nat.ne_of_gt ongoing.positive)
  have braces : ∀ char ∈ List.replicate depth '}', isLineEnd char = false := by
    intro char inside
    rw [List.eq_of_mem_replicate inside]
    rfl
  rcases unsteady_cases unsteady with escapes | ⟨leaves, growing⟩
  · have apart := pair.escape_apart deep escapes
    rw [List.replicate_succ'] at apart
    exact ⟨_, braces, Or.inl apart⟩
  · obtain ⟨letters, word⟩ : ∃ letters, left.piece = .word letters true := by
      cases piece : left.piece with
      | mark char => simp [piece, Piece.growing] at growing
      | word letters stillGrowing =>
        obtain rfl : stillGrowing = true := by simpa [piece, Piece.growing] using growing
        exact ⟨letters, rfl⟩
    have worded : letters ≠ [] := by
      rintro rfl
      exact ongoing.worded true word
    have apart := pair.growing_apart deep leaves word worded
    rw [List.replicate_succ', ← List.append_assoc] at apart
    refine ⟨_, fun char inside => ?_, Or.inr apart⟩
    have keyword : ("return/;".toList.all fun char => decide (isLineEnd char = false)) = true := by
      decide
    rcases List.mem_append.mp inside with here | here
    · exact of_decide_eq_true (List.all_eq_true.mp keyword char here)
    · exact braces char here

/-- A text is followed from where a first part leads to. -/
theorem follow?_resumed {tracker next : Tracker} {stringAware : Bool} {first : Text}
    (followed : tracker.follow? stringAware first = some next) (second : Text) :
    tracker.follow? stringAware (first ++ second) = next.follow? stringAware second := by
  rw [follow?_append, followed, Option.bind_some]

/-- A region closes after a body from where a first part of it leads to. -/
theorem closesAfter_resumed {tracker next : Tracker} {stringAware : Bool} {first : Text}
    (followed : tracker.follow? stringAware first = some next) (second : Text) :
    tracker.closesAfter stringAware (first ++ second) = next.closesAfter stringAware second := by
  unfold closesAfter
  rw [follow?_resumed followed]

end Tracker

end RegionBuild.Region
