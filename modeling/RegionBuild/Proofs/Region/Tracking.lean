import RegionBuild.Proofs.Region.TailMatching
import RegionBuild.Region.Tracker

/-!
# What the tracker of a region depends on

The tracker records everything that was read since the start of a source, but a
token is matched only against the part above the floor, its window. Two trackers
with the same window, context, depth and piece agree above the floor: they answer every
further character in the same way, whatever they read before. In particular a
region that opens somewhere in a source is followed as a fresh one would be. Of the
window itself only so much counts as can be the first half of a token.

Following a text stops at the brace that closes the region. A text therefore
either can be followed to its end or splits, in exactly one way, into a body, the
closing brace and a rest that the region no longer concerns.
-/

namespace RegionBuild.Region

/-- Two conditionals on the same condition are related if their branches are. -/
theorem ite_related {α β : Type} {related : α → β → Prop} {condition : Prop}
    [Decidable condition] {left left' : α} {right right' : β}
    (yes : condition → related left right) (no : ¬ condition → related left' right') :
    related (if condition then left else left') (if condition then right else right') := by
  by_cases holds : condition
  · simpa only [holds, ↓reduceIte] using yes holds
  · simpa only [holds, ↓reduceIte] using no holds

namespace Tracker

/-- What was read from the floor on, the last character first. -/
def window (tracker : Tracker) : Text :=
  tracker.consumed.reversed.take (tracker.consumed.size - tracker.floor)

/-- The floor is not above what was read. -/
def Grounded (tracker : Tracker) : Prop := tracker.floor ≤ tracker.consumed.size

/-- Read one character and follow it. The second component says whether the region
just closed. -/
def read (stringAware : Bool) (tracker : Tracker) (char : Char) : Tracker × Bool :=
  (tracker.push char).advance stringAware char

/-- A token is completed exactly when it is a suffix of what stands above the
floor; the window holds that text in reverse. -/
theorem completes_iff (tracker : Tracker) (literal : Text) (nonempty : literal ≠ []) :
    tracker.completes literal = true ↔ literal.reverse <+: tracker.window := by
  have positive : 0 < literal.length := List.length_pos_iff.mpr nonempty
  simp only [completes, TailBuffer.endsWith, window, Bool.and_eq_true, decide_eq_true_eq,
    List.isPrefixOf_iff_prefix, List.prefix_take_iff, List.length_reverse]
  constructor
  · rintro ⟨room, tail⟩
    exact ⟨tail, by omega⟩
  · rintro ⟨tail, room⟩
    exact ⟨by omega, tail⟩

/-- Reading a character puts it in front of the window. -/
theorem window_push (tracker : Tracker) (grounded : tracker.Grounded) (char : Char) :
    (tracker.push char).window = char :: tracker.window := by
  have room : tracker.floor ≤ tracker.consumed.size := grounded
  have longer : tracker.consumed.size + 1 - tracker.floor =
      (tracker.consumed.size - tracker.floor) + 1 := by omega
  simp only [window, push, TailBuffer.pushChar, longer, List.take_succ_cons]

/-- Read a text without looking at it. -/
def pushAll (tracker : Tracker) (text : Text) : Tracker := text.foldl push tracker

/-- Reading a text without looking at it adds to what was read and changes nothing
else. -/
theorem pushAll_eq (tracker : Tracker) (text : Text) :
    tracker.pushAll text = { tracker with consumed := tracker.consumed.push text } := by
  induction text generalizing tracker with
  | nil => rfl
  | cons char rest inductionHypothesis => exact inductionHypothesis (tracker.push char)

/-- Texts read one after the other. -/
theorem pushAll_append (tracker : Tracker) (first second : Text) :
    tracker.pushAll (first ++ second) = (tracker.pushAll first).pushAll second :=
  List.foldl_append

/-- Reading a text keeps the floor below what was read. -/
theorem pushAll_grounded (tracker : Tracker) (grounded : tracker.Grounded) (text : Text) :
    (tracker.pushAll text).Grounded := by
  induction text generalizing tracker with
  | nil => exact grounded
  | cons char rest inductionHypothesis =>
    exact inductionHypothesis (tracker.push char) (Nat.le_succ_of_le grounded)

/-- Reading a text puts it in front of the window. -/
theorem window_pushAll (tracker : Tracker) (grounded : tracker.Grounded) (text : Text) :
    (tracker.pushAll text).window = text.reverse ++ tracker.window := by
  induction text generalizing tracker with
  | nil => rfl
  | cons char rest inductionHypothesis =>
    have rested : (tracker.pushAll (char :: rest)).window =
        rest.reverse ++ (tracker.push char).window :=
      inductionHypothesis (tracker.push char) (Nat.le_succ_of_le grounded)
    simp [rested, window_push tracker grounded]

/-- Reading a text adds its characters to those read before. -/
theorem pushAll_size (tracker : Tracker) (text : Text) :
    (tracker.pushAll text).consumed.size = tracker.consumed.size + text.length := by
  rw [pushAll_eq, TailBuffer.push_size]

/-- A new context starts with an empty window. -/
theorem window_enter (tracker : Tracker) (context : Context) :
    (tracker.enter context).window = [] := by
  simp [window, enter]

/-- A token of two characters is completed by its second one, right after the first
within the window. -/
theorem completes_pair_iff (tracker : Tracker) (grounded : tracker.Grounded)
    (char first second : Char) :
    (tracker.push char).completes [first, second] = true ↔
      char = second ∧ tracker.window.head? = some first := by
  rw [completes_iff _ _ (by simp), window_push tracker grounded]
  cases tracker.window with
  | nil => simp
  | cons previous rest => simp [eq_comm]

/-- Two trackers that answer every further character in the same way: they differ
at most in what was read below the floor. -/
structure EqAboveFloor (left right : Tracker) : Prop where
  leftGrounded : left.Grounded
  rightGrounded : right.Grounded
  window : left.window = right.window
  context : left.context = right.context
  depth : left.depth = right.depth
  piece : left.piece = right.piece

namespace EqAboveFloor

variable {left right : Tracker}

/-- Reading the same character puts it on top of both windows. -/
theorem push (agree : EqAboveFloor left right) (char : Char) :
    EqAboveFloor (left.push char) (right.push char) where
  leftGrounded := Nat.le_succ_of_le agree.leftGrounded
  rightGrounded := Nat.le_succ_of_le agree.rightGrounded
  window := by
    rw [window_push left agree.leftGrounded, window_push right agree.rightGrounded,
      agree.window]
  context := agree.context
  depth := agree.depth
  piece := agree.piece

/-- A token must lie within the window, so what is below the floor completes none. -/
theorem completes (agree : EqAboveFloor left right) (literal : Text) (nonempty : literal ≠ []) :
    left.completes literal = right.completes literal := by
  rw [Bool.eq_iff_iff, completes_iff left literal nonempty,
    completes_iff right literal nonempty, agree.window]

/-- Going over to a context empties both windows. -/
theorem enter (agree : EqAboveFloor left right) (context : Context) :
    EqAboveFloor (left.enter context) (right.enter context) where
  leftGrounded := Nat.le_refl _
  rightGrounded := Nat.le_refl _
  window := by rw [window_enter, window_enter]
  context := rfl
  depth := agree.depth
  piece := agree.piece

/-- Staying in a context with other details keeps the windows. -/
theorem inContext (agree : EqAboveFloor left right) (context : Context) :
    EqAboveFloor { left with context } { right with context } :=
  ⟨agree.leftGrounded, agree.rightGrounded, agree.window, rfl, agree.depth, agree.piece⟩

/-- Another depth on both sides keeps the windows. -/
theorem withDepth (agree : EqAboveFloor left right) (depth : Nat) :
    EqAboveFloor { left with depth } { right with depth } :=
  ⟨agree.leftGrounded, agree.rightGrounded, agree.window, agree.context, rfl, agree.piece⟩

/-- Another piece on both sides keeps the windows. -/
theorem withPiece (agree : EqAboveFloor left right) (piece : Piece) :
    EqAboveFloor { left with piece } { right with piece } :=
  ⟨agree.leftGrounded, agree.rightGrounded, agree.window, agree.context, agree.depth, rfl⟩

end EqAboveFloor

/-- A relation that fixes context, depth and whether an operand is expected, and that
holds on when both trackers change one of them in the same way. -/
structure Congruence (related : Tracker → Tracker → Prop) : Prop where
  context {left right : Tracker} : related left right → left.context = right.context
  depth {left right : Tracker} : related left right → left.depth = right.depth
  operand {left right : Tracker} : related left right →
    left.piece.expectsOperand = right.piece.expectsOperand
  noted {left right : Tracker} : related left right → ∀ char,
    related { left with piece := left.piece.note char }
      { right with piece := right.piece.note char }
  enter {left right : Tracker} : related left right → ∀ context,
    related (left.enter context) (right.enter context)
  inContext {left right : Tracker} : related left right → ∀ context,
    related { left with context } { right with context }
  withDepth {left right : Tracker} : related left right → ∀ depth,
    related { left with depth } { right with depth }
  withPiece {left right : Tracker} : related left right → ∀ piece,
    related { left with piece } { right with piece }

/-- The last character completes the same tokens on both sides. -/
structure SameTokens (left right : Tracker) : Prop where
  line : left.completes ['/', '/'] = right.completes ['/', '/']
  block : left.completes ['/', '*'] = right.completes ['/', '*']
  blockEnd : left.completes ['*', '/'] = right.completes ['*', '/']

/-- The same verdict on closing, with related trackers. -/
def After (related : Tracker → Tracker → Prop) (left right : Tracker × Bool) : Prop :=
  related left.1 right.1 ∧ left.2 = right.2

namespace Congruence

variable {related : Tracker → Tracker → Prop} {left right : Tracker}

/-- Closing a literal leaves the same operand behind. -/
theorem closeLiteral (congruence : Congruence related) (pair : related left right)
    (delimiter : Char) : related (left.closeLiteral delimiter) (right.closeLiteral delimiter) :=
  congruence.withPiece (congruence.enter pair .code) (.mark delimiter)

/-- A character of a string literal. -/
theorem advanceQuoted (congruence : Congruence related) (pair : related left right)
    (quote : Quote) (escaped : Bool) (char : Char) :
    related (left.advanceQuoted quote escaped char) (right.advanceQuoted quote escaped char) := by
  unfold Tracker.advanceQuoted
  refine ite_related (fun _ => congruence.inContext pair _) (fun _ => ?_)
  refine ite_related (fun _ => congruence.inContext pair _) (fun _ => ?_)
  refine ite_related (fun _ => congruence.closeLiteral pair _) (fun _ => ?_)
  exact ite_related (fun _ => congruence.enter pair _) (fun _ => pair)

/-- A character of a regular expression literal. -/
theorem advanceRegex (congruence : Congruence related) (pair : related left right)
    (length : Nat) (escaped inClass : Bool) (char : Char) :
    related (left.advanceRegex length escaped inClass char)
      (right.advanceRegex length escaped inClass char) := by
  unfold Tracker.advanceRegex
  refine ite_related (fun _ => congruence.enter pair _) (fun _ => ?_)
  refine ite_related (fun _ => congruence.enter pair _) (fun _ => ?_)
  refine ite_related (fun _ => congruence.inContext pair _) (fun _ => ?_)
  refine ite_related (fun _ => congruence.inContext pair _) (fun _ => ?_)
  refine ite_related (fun _ => congruence.inContext pair _) (fun _ => ?_)
  refine ite_related (fun _ => congruence.inContext pair _) (fun _ => ?_)
  refine ite_related (fun _ => congruence.closeLiteral pair _) (fun _ => ?_)
  exact ite_related (fun _ => congruence.enter pair _) (fun _ => congruence.inContext pair _)

/-- A character of code that starts no comment and no literal. The depth decides
whether the region closes, and it is the same. -/
theorem advancePlain (congruence : Congruence related) (pair : related left right) (char : Char) :
    After related (left.advancePlain char) (right.advancePlain char) := by
  have noted := congruence.noted pair char
  unfold Tracker.advancePlain
  refine ite_related (fun _ => ?_) (fun _ => ?_)
  · rw [congruence.depth pair]
    exact ⟨congruence.withDepth noted _, rfl⟩
  · refine ite_related (fun _ => ?_) (fun _ => ⟨noted, rfl⟩)
    rw [congruence.depth pair]
    exact ⟨congruence.withDepth noted _, rfl⟩

/-- A character of code. Comment openers are tokens, and operands are expected after
the piece. -/
theorem advanceCode (congruence : Congruence related) (pair : related left right)
    (tokens : SameTokens left right) (stringAware : Bool) (char : Char) :
    After related (left.advanceCode stringAware char) (right.advanceCode stringAware char) := by
  unfold Tracker.advanceCode
  rw [tokens.line, tokens.block, congruence.operand pair]
  refine ite_related (fun _ => ⟨congruence.enter pair _, rfl⟩) (fun _ => ?_)
  refine ite_related (fun _ => ⟨congruence.enter pair _, rfl⟩) (fun _ => ?_)
  refine ite_related (fun _ => ⟨congruence.enter pair _, rfl⟩) (fun _ => ?_)
  cases if stringAware then Quote.ofChar? char else none with
  | none => exact congruence.advancePlain pair char
  | some quote => exact ⟨congruence.enter pair _, rfl⟩

/-- A character in any context. -/
theorem advance (congruence : Congruence related) (pair : related left right)
    (tokens : SameTokens left right) (stringAware : Bool) (char : Char) :
    After related (left.advance stringAware char) (right.advance stringAware char) := by
  unfold Tracker.advance
  rw [congruence.context pair, tokens.blockEnd]
  cases right.context with
  | code => exact congruence.advanceCode pair tokens stringAware char
  | lineComment =>
    exact ⟨ite_related (fun _ => congruence.enter pair _) (fun _ => pair), rfl⟩
  | blockComment =>
    exact ⟨ite_related (fun _ => congruence.enter pair _) (fun _ => pair), rfl⟩
  | quoted quote escaped => exact ⟨congruence.advanceQuoted pair quote escaped char, rfl⟩
  | regex length escaped inClass =>
    exact ⟨congruence.advanceRegex pair length escaped inClass char, rfl⟩

end Congruence

namespace EqAboveFloor

variable {left right : Tracker}

/-- What lies below the floor is not looked at, so agreement above it is such a relation. -/
theorem congruence : Congruence EqAboveFloor where
  context := context
  depth := depth
  operand agree := congrArg Piece.expectsOperand agree.piece
  noted agree char := by
    rw [agree.piece]
    exact agree.withPiece _
  enter := enter
  inContext := inContext
  withDepth := withDepth
  withPiece := withPiece

/-- Trackers that agree above the floor go on to agree after every character, and they close
at the same one. -/
theorem read (agree : EqAboveFloor left right) (stringAware : Bool) (char : Char) :
    After EqAboveFloor (left.read stringAware char) (right.read stringAware char) := by
  have pushed := agree.push char
  refine congruence.advance pushed ⟨?_, ?_, ?_⟩ stringAware char
  · exact pushed.completes ['/', '/'] (by simp)
  · exact pushed.completes ['/', '*'] (by simp)
  · exact pushed.completes ['*', '/'] (by simp)

end EqAboveFloor

/-- Two trackers that answer every further character in the same way although they
read different texts: of their windows only the first half of a token counts. -/
structure SameHalfToken (left right : Tracker) : Prop where
  leftGrounded : left.Grounded
  rightGrounded : right.Grounded
  halves : ∀ half ∈ ['/', '*'],
    (left.window.head? = some half ↔ right.window.head? = some half)
  context : left.context = right.context
  depth : left.depth = right.depth
  piece : left.piece = right.piece

namespace SameHalfToken

variable {left right : Tracker}

/-- Trackers with equal windows hold the same half of a token. -/
theorem of_eqAboveFloor (agree : EqAboveFloor left right) : SameHalfToken left right :=
  ⟨agree.leftGrounded, agree.rightGrounded, fun _ _ => by rw [agree.window], agree.context,
    agree.depth, agree.piece⟩

/-- Holding the same half of a token is a congruence, because a new context starts with an
empty window. -/
theorem congruence : Congruence SameHalfToken where
  context := context
  depth := depth
  operand pair := congrArg Piece.expectsOperand pair.piece
  noted pair char :=
    ⟨pair.leftGrounded, pair.rightGrounded, pair.halves, pair.context, pair.depth,
      congrArg (Piece.note · char) pair.piece⟩
  enter pair _ := ⟨Nat.le_refl _, Nat.le_refl _, fun _ _ => by rw [window_enter, window_enter],
    rfl, pair.depth, pair.piece⟩
  inContext pair _ :=
    ⟨pair.leftGrounded, pair.rightGrounded, pair.halves, rfl, pair.depth, pair.piece⟩
  withDepth pair _ :=
    ⟨pair.leftGrounded, pair.rightGrounded, pair.halves, pair.context, rfl, pair.piece⟩
  withPiece pair _ :=
    ⟨pair.leftGrounded, pair.rightGrounded, pair.halves, pair.context, pair.depth, rfl⟩

/-- After the same character the half of a token is that character or none, for both. -/
theorem push (pair : SameHalfToken left right) (char : Char) :
    SameHalfToken (left.push char) (right.push char) where
  leftGrounded := Nat.le_succ_of_le pair.leftGrounded
  rightGrounded := Nat.le_succ_of_le pair.rightGrounded
  halves := by
    intro half _
    rw [window_push left pair.leftGrounded, window_push right pair.rightGrounded]
    rfl
  context := pair.context
  depth := pair.depth
  piece := pair.piece

/-- The same character completes the same tokens of two characters. -/
theorem completes (pair : SameHalfToken left right) (char : Char) {first : Char}
    (half : first ∈ ['/', '*']) (second : Char) :
    (left.push char).completes [first, second] = (right.push char).completes [first, second] := by
  rw [Bool.eq_iff_iff, completes_pair_iff left pair.leftGrounded,
    completes_pair_iff right pair.rightGrounded, pair.halves first half]

/-- Every token has two characters, so with the same first half both complete the same ones:
they go on to hold the same half, and close at the same character. -/
theorem read (pair : SameHalfToken left right) (stringAware : Bool) (char : Char) :
    After SameHalfToken (left.read stringAware char) (right.read stringAware char) := by
  refine congruence.advance (pair.push char) ⟨?_, ?_, ?_⟩ stringAware char
  · exact pair.completes char (by simp) '/'
  · exact pair.completes char (by simp) '*'
  · exact pair.completes char (by simp) '/'

end SameHalfToken

/-- Following a character never changes what was read. -/
theorem advance_consumed (stringAware : Bool) (tracker : Tracker) (char : Char) :
    (tracker.advance stringAware char).1.consumed = tracker.consumed := by
  unfold advance advanceCode advancePlain advanceQuoted advanceRegex closeLiteral enter
  grind

/-- A plain character of code changes the piece and perhaps the depth. -/
theorem advancePlain_fst (tracker : Tracker) (char : Char) :
    ∃ depth, (tracker.advancePlain char).1 =
      { tracker with piece := tracker.piece.note char, depth } := by
  simp only [advancePlain]
  split
  · exact ⟨_, rfl⟩
  · split
    · exact ⟨_, rfl⟩
    · exact ⟨_, rfl⟩

/-- Reading a character records it. -/
theorem read_consumed (stringAware : Bool) (tracker : Tracker) (char : Char) :
    (tracker.read stringAware char).1.consumed = tracker.consumed.pushChar char :=
  advance_consumed stringAware (tracker.push char) char

/-- A region closes at a brace only. -/
theorem read_closed (stringAware : Bool) (tracker : Tracker) (char : Char)
    (closed : (tracker.read stringAware char).2 = true) : char = '}' := by
  unfold read advance advanceCode advancePlain at closed
  grind

/-- Follow a text. There is no tracker left if the region closes on the way. -/
def follow? (stringAware : Bool) : Tracker → Text → Option Tracker
  | tracker, [] => some tracker
  | tracker, char :: rest =>
    if (tracker.read stringAware char).2 then none
    else follow? stringAware (tracker.read stringAware char).1 rest

/-- Whether the region closes at the brace after the body, and not before. -/
def closesAfter (stringAware : Bool) (tracker : Tracker) (body : Text) : Bool :=
  match tracker.follow? stringAware body with
  | some next => (next.read stringAware '}').2
  | none => false

/-- A text is followed part by part. -/
theorem follow?_append (stringAware : Bool) (tracker : Tracker) (first second : Text) :
    tracker.follow? stringAware (first ++ second) =
      (tracker.follow? stringAware first).bind (follow? stringAware · second) := by
  induction first generalizing tracker with
  | nil => rfl
  | cons char rest inductionHypothesis =>
    simp only [List.cons_append, follow?, inductionHypothesis]
    split
    · rfl
    · rfl

/-- Two characters that leave the region open. -/
theorem follow?_pair {tracker middle next : Tracker} {stringAware : Bool} {first second : Char}
    (here : tracker.read stringAware first = (middle, false))
    (there : middle.read stringAware second = (next, false)) :
    tracker.follow? stringAware [first, second] = some next := by
  simp [follow?, here, there]

/-- A relation that every character keeps, with the same verdict on closing. -/
def Stepwise (stringAware : Bool) (related : Tracker → Tracker → Prop) : Prop :=
  ∀ left right, related left right → ∀ char,
    After related (left.read stringAware char) (right.read stringAware char)

namespace Stepwise

variable {stringAware : Bool} {related : Tracker → Tracker → Prop} {left right : Tracker}

/-- Related trackers follow a text equally far and end related. -/
theorem follow? (stepwise : Stepwise stringAware related) (pair : related left right)
    (text : Text) :
    Option.Rel related (left.follow? stringAware text) (right.follow? stringAware text) := by
  induction text generalizing left right with
  | nil => exact .some pair
  | cons char rest inductionHypothesis =>
    obtain ⟨next, verdict⟩ := stepwise left right pair char
    simp only [Tracker.follow?, verdict]
    exact ite_related (fun _ => .none) (fun _ => inductionHypothesis next)

/-- Related trackers follow the same texts to their end. -/
theorem follow?_isSome (stepwise : Stepwise stringAware related) (pair : related left right)
    (text : Text) :
    (left.follow? stringAware text).isSome = (right.follow? stringAware text).isSome := by
  have ends := stepwise.follow? pair text
  generalize left.follow? stringAware text = leftEnd at ends ⊢
  generalize right.follow? stringAware text = rightEnd at ends ⊢
  cases ends with
  | none => rfl
  | some _ => rfl

/-- Related trackers close after the same bodies. -/
theorem closesAfter (stepwise : Stepwise stringAware related) (pair : related left right)
    (body : Text) :
    left.closesAfter stringAware body = right.closesAfter stringAware body := by
  have ends := stepwise.follow? pair body
  unfold Tracker.closesAfter
  generalize left.follow? stringAware body = leftEnd at ends ⊢
  generalize right.follow? stringAware body = rightEnd at ends ⊢
  cases ends with
  | none => rfl
  | some next => exact (stepwise _ _ next '}').2

end Stepwise

/-- Agreement above the floor is kept by every character. -/
theorem EqAboveFloor.stepwise (stringAware : Bool) : Stepwise stringAware EqAboveFloor :=
  fun _ _ agree char => agree.read stringAware char

/-- Trackers that agree above the floor follow the same texts to their end. -/
theorem EqAboveFloor.follow?_isSome {left right : Tracker} (agree : EqAboveFloor left right)
    (stringAware : Bool) (text : Text) :
    (left.follow? stringAware text).isSome = (right.follow? stringAware text).isSome :=
  (EqAboveFloor.stepwise stringAware).follow?_isSome agree text

/-- Trackers that agree above the floor close after the same bodies. -/
theorem EqAboveFloor.closesAfter {left right : Tracker} (agree : EqAboveFloor left right)
    (stringAware : Bool) (body : Text) :
    left.closesAfter stringAware body = right.closesAfter stringAware body :=
  (EqAboveFloor.stepwise stringAware).closesAfter agree body

/-- Beyond the closing brace nothing is followed. -/
theorem follow?_eq_none_of_closesAfter (stringAware : Bool) (tracker : Tracker)
    (body rest : Text) (closes : tracker.closesAfter stringAware body = true) :
    tracker.follow? stringAware (body ++ '}' :: rest) = none := by
  rw [follow?_append]
  unfold closesAfter at closes
  cases followed : tracker.follow? stringAware body with
  | none => rfl
  | some next =>
    rw [followed] at closes
    simp only [Option.bind_some, follow?]
    exact if_pos closes

/-- A text is followed to its end unless the region closes at one of its braces. -/
theorem follow?_or_closes (stringAware : Bool) (tracker : Tracker) (text : Text) :
    (∃ next, tracker.follow? stringAware text = some next) ∨
      ∃ body rest, text = body ++ '}' :: rest ∧
        tracker.closesAfter stringAware body = true := by
  induction text generalizing tracker with
  | nil => exact Or.inl ⟨tracker, rfl⟩
  | cons char text inductionHypothesis =>
    by_cases closed : (tracker.read stringAware char).2 = true
    · have brace : char = '}' := read_closed stringAware tracker char closed
      subst brace
      exact Or.inr ⟨[], text, rfl, closed⟩
    · rcases inductionHypothesis (tracker.read stringAware char).1 with
        ⟨next, followed⟩ | ⟨body, rest, split, closes⟩
      · exact Or.inl ⟨next, by rw [follow?, if_neg closed, followed]⟩
      · refine Or.inr ⟨char :: body, rest, by rw [split]; rfl, ?_⟩
        rw [closesAfter, follow?, if_neg closed]
        exact closes

/-- There is only one brace at which a region can close. Of two bodies the shorter
one would end inside the longer one, which could then not be followed. -/
theorem closesAfter_unique (stringAware : Bool) (tracker : Tracker)
    (body body' rest rest' : Text) (same : body ++ '}' :: rest = body' ++ '}' :: rest')
    (closes : tracker.closesAfter stringAware body = true)
    (closes' : tracker.closesAfter stringAware body' = true) : body = body' ∧ rest = rest' := by
  have notInside : ∀ {inner outer more : Text},
      tracker.closesAfter stringAware inner = true →
      tracker.closesAfter stringAware outer = true → outer ≠ inner ++ '}' :: more := by
    intro inner outer more closesInner closesOuter longer
    have stopped := follow?_eq_none_of_closesAfter stringAware tracker inner more closesInner
    simp only [closesAfter, longer, stopped, Bool.false_eq_true] at closesOuter
  rcases List.append_eq_append_iff.mp same with ⟨more, longer, tail⟩ | ⟨more, longer, tail⟩
  · cases more with
    | nil => simpa [longer] using tail
    | cons first more =>
      have brace : first = '}' := (List.cons.inj tail).1.symm
      exact absurd (brace ▸ longer) (notInside closes closes')
  · cases more with
    | nil => simpa [longer, eq_comm] using tail
    | cons first more =>
      have brace : first = '}' := (List.cons.inj tail).1.symm
      exact absurd (brace ▸ longer) (notInside closes' closes)

end Tracker

end RegionBuild.Region
