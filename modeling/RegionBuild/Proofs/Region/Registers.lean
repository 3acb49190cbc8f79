import RegionBuild.Proofs.Region.Invariant

/-!
# Following a region on registers

A context carries the details of a literal only where there is a literal, and the depth
is a natural number. Registers have none of these guarantees: a flag stays set unless a
step clears it, and the depth is an integer that may be counted below zero.

Registers that hold what a tracker does go on to hold it. So a flag is set in its own
modes only, and as long as the depth is positive it is counted down as in the natural
numbers.
-/

namespace RegionBuild.Region

/-- What kind of text is read, without its details. -/
inductive Mode where
  | code
  | lineComment
  | blockComment
  | quoted (quote : Quote)
  | regex
deriving DecidableEq, Repr

/-- What was read, the kind of text with all its details, and the last code. -/
structure Registers where
  consumed : TailBuffer
  floor : Nat
  mode : Mode
  depth : Int
  escaped : Bool
  inClass : Bool
  /-- The number of characters read of a regular expression. -/
  regexLength : Nat
  /-- The last significant character of code. -/
  lastChar : Char
  /-- The last identifier, and whether the next character may still belong to it. -/
  word : Text
  inWord : Bool

namespace Registers

/-- Nothing read, outside every region. -/
def start : Registers where
  consumed := .empty
  floor := 0
  mode := .code
  depth := 0
  escaped := false
  inClass := false
  regexLength := 0
  lastChar := '{'
  word := []
  inWord := false

/-- Read one more character without looking at it. -/
def push (registers : Registers) (char : Char) : Registers :=
  { registers with consumed := registers.consumed.pushChar char }

/-- Whether the last character read completes the literal above the floor. -/
def completes (registers : Registers) (literal : Text) : Bool :=
  decide (registers.floor + literal.length ≤ registers.consumed.size) &&
    registers.consumed.endsWith literal

/-- Go over to a mode, with all details cleared. -/
def enter (registers : Registers) (mode : Mode) : Registers :=
  { registers with
    mode
    escaped := false
    inClass := false
    regexLength := 0
    floor := registers.consumed.size }

/-- Enter a region. -/
def openRegion (registers : Registers) : Registers :=
  { registers.enter .code with depth := 1, lastChar := '{', inWord := false }

/-- Leave a region. -/
def closeRegion (registers : Registers) : Registers :=
  { registers.enter .code with depth := 0 }

/-- Close a literal. -/
def closeLiteral (registers : Registers) (delimiter : Char) : Registers :=
  { registers.enter .code with lastChar := delimiter, inWord := false }

/-- Whether an operand is expected. -/
def expectsOperand (registers : Registers) : Bool :=
  operandPreceders.contains registers.lastChar ||
    (isIdentifierChar registers.lastChar && operandKeywords.contains registers.word)

/-- Take note of a character of code. -/
def note (registers : Registers) (char : Char) : Registers :=
  if Text.isBlank char then { registers with inWord := false }
  else if isIdentifierChar char then
    { registers with
      word := if registers.inWord then registers.word ++ [char] else [char]
      inWord := true
      lastChar := char }
  else { registers with inWord := false, lastChar := char }

/-- One character of a string literal. -/
def advanceQuoted (registers : Registers) (quote : Quote) (char : Char) : Registers :=
  if registers.escaped then { registers with escaped := false }
  else if char = '\\' then { registers with escaped := true }
  else if char = quote.mark then registers.closeLiteral char
  else if isLineEnd char && quote != .template then registers.enter .code
  else registers

/-- One character that belongs to a regular expression literal or ends it. -/
def advancePattern (registers : Registers) (char : Char) : Registers :=
  if registers.escaped then { registers with escaped := false }
  else if char = '\\' then { registers with escaped := true }
  else if char = '[' then { registers with inClass := true }
  else if char = ']' then { registers with inClass := false }
  else if char = '/' ∧ !registers.inClass then registers.closeLiteral char
  else if isLineEnd char then registers.enter .code
  else registers

/-- One character after the slash that looked like the start of a regular expression. -/
def advanceRegex (registers : Registers) (char : Char) : Registers :=
  if registers.regexLength = 0 ∧ char = '/' then registers.enter .lineComment
  else if registers.regexLength = 0 ∧ char = '*' then registers.enter .blockComment
  else { registers with regexLength := registers.regexLength + 1 }.advancePattern char

/-- One character of code that starts no comment and no literal. The second component
says whether the depth is used up. -/
def advancePlain (registers : Registers) (char : Char) : Registers × Bool :=
  let noted := registers.note char
  if noted.completes ['{'] then ({ noted with depth := noted.depth + 1 }, false)
  else if noted.completes ['}'] then
    ({ noted with depth := noted.depth - 1 }, decide (noted.depth - 1 ≤ 0))
  else (noted, false)

/-- One character of code. -/
def advanceCode (stringAware : Bool) (registers : Registers) (char : Char) : Registers × Bool :=
  if registers.completes ['/', '/'] then (registers.enter .lineComment, false)
  else if registers.completes ['/', '*'] then (registers.enter .blockComment, false)
  else if stringAware && char == '/' && registers.expectsOperand then
    (registers.enter .regex, false)
  else
    match if stringAware then Quote.ofChar? char else none with
    | some quote => (registers.enter (.quoted quote), false)
    | none => registers.advancePlain char

/-- Follow one character that was just read inside a region. -/
def advance (stringAware : Bool) (registers : Registers) (char : Char) : Registers × Bool :=
  match registers.mode with
  | .lineComment =>
    (if registers.consumed.endsWithAny [['\r'], ['\n']] then registers.enter .code
      else registers, false)
  | .blockComment =>
    (if registers.completes ['*', '/'] then registers.enter .code else registers, false)
  | .quoted quote => (registers.advanceQuoted quote char, false)
  | .regex => (registers.advanceRegex char, false)
  | .code => registers.advanceCode stringAware char

/-- The kind of region that the last character read opens. -/
def opened? (rules : Rules) (registers : Registers) : Option Kind :=
  if registers.completes rules.client then some .client
  else if registers.completes rules.server then some .server
  else none

end Registers

namespace Context

/-- The mode that a context belongs to. -/
def mode : Context → Mode
  | .code => .code
  | .lineComment => .lineComment
  | .blockComment => .blockComment
  | .quoted quote _ => .quoted quote
  | .regex _ _ _ => .regex

/-- Whether the next character is escaped. -/
def escaped : Context → Bool
  | .quoted _ escaped => escaped
  | .regex _ escaped _ => escaped
  | _ => false

/-- Whether a character class is open. -/
def inClass : Context → Bool
  | .regex _ _ inClass => inClass
  | _ => false

/-- The number of characters read of a regular expression. -/
def regexLength : Context → Nat
  | .regex length _ _ => length
  | _ => 0

/-- Only a literal has an escape. -/
theorem mode_of_escaped {context : Context} (escaped : context.escaped = true) :
    context.mode = .regex ∨ ∃ quote, context.mode = .quoted quote := by
  cases context with
  | quoted quote _ => exact .inr ⟨quote, rfl⟩
  | regex _ _ _ => exact .inl rfl
  | code | lineComment | blockComment => cases escaped

/-- Only a regular expression has a character class. -/
theorem mode_of_inClass {context : Context} (inClass : context.inClass = true) :
    context.mode = .regex := by
  cases context with
  | regex _ _ _ => rfl
  | code | lineComment | blockComment | quoted _ _ => cases inClass

/-- Only a regular expression has a length. -/
theorem mode_of_regexLength {context : Context} (counted : 0 < context.regexLength) :
    context.mode = .regex := by
  cases context with
  | regex _ _ _ => rfl
  | code | lineComment | blockComment | quoted _ _ => exact absurd counted (Nat.lt_irrefl 0)

/-- A context without literals is code or a comment. -/
theorem mode_of_literalFree {context : Context} (free : context.literalFree = true) :
    context.mode ∈ [Mode.code, .lineComment, .blockComment] := by
  cases context with
  | code | lineComment | blockComment => simp [mode]
  | quoted _ _ | regex _ _ _ => cases free

end Context

/-- The context in which a mode starts. -/
def Mode.entry : Mode → Context
  | .code => .code
  | .lineComment => .lineComment
  | .blockComment => .blockComment
  | .quoted quote => .quoted quote false
  | .regex => .regex 0 false false

/-- A region closes where the last of its braces is closed. -/
theorem Tracker.read_closed_depth {stringAware : Bool} {tracker : Tracker} {char : Char}
    (closed : (tracker.read stringAware char).2 = true) :
    (tracker.read stringAware char).1.depth = 0 := by
  unfold read advance advanceCode advancePlain at *
  grind

/-- What was read ends with a line terminator exactly if the last character is one. -/
theorem TailBuffer.endsWithAny_pushChar (buffer : TailBuffer) (char : Char) :
    (buffer.pushChar char).endsWithAny [['\r'], ['\n']] = isLineEnd char := by
  have tails : (buffer.pushChar char).endsWithAny [['\r'], ['\n']] =
      ('\r' == char && true || ('\n' == char && true || false)) := rfl
  have turned (mark : Char) : (mark == char) = (char == mark) := Bool.beq_comm
  rw [tails, isLineEnd, Bool.and_true, Bool.and_true, Bool.or_false, turned, turned]

/-- A token of one character is completed by that character. -/
theorem Tracker.completes_single_iff (tracker : Tracker) (grounded : tracker.Grounded)
    (char mark : Char) : (tracker.push char).completes [mark] = true ↔ char = mark := by
  rw [completes_iff _ _ (by simp), window_push tracker grounded]
  simp [eq_comm]

namespace Registers

/-- The last significant piece of code. -/
def piece (registers : Registers) : Piece :=
  if isIdentifierChar registers.lastChar then .word registers.word.reverse registers.inWord
  else .mark registers.lastChar

/-- The registers hold what a tracker does. A flag of another mode is clear, and no word
grows after a mark. -/
structure Shows (registers : Registers) (tracker : Tracker) : Prop where
  consumed : registers.consumed = tracker.consumed
  floor : registers.floor = tracker.floor
  mode : registers.mode = tracker.context.mode
  escaped : registers.escaped = tracker.context.escaped
  inClass : registers.inClass = tracker.context.inClass
  regexLength : registers.regexLength = tracker.context.regexLength
  depth : registers.depth = tracker.depth
  piece : registers.piece = tracker.piece
  inWord : isIdentifierChar registers.lastChar = false → registers.inWord = false

/-- The registers hold what a tracker does, with the same verdict on closing. -/
def ShowsAfter (left : Registers × Bool) (right : Tracker × Bool) : Prop :=
  Shows left.1 right.1 ∧ left.2 = right.2

/-- Nothing was read yet, and no mode but that of code is on. -/
theorem start_shows : Shows start .start where
  consumed := rfl
  floor := rfl
  mode := rfl
  escaped := rfl
  inClass := rfl
  regexLength := rfl
  depth := rfl
  piece := rfl
  inWord _ := rfl

namespace Shows

variable {registers : Registers} {tracker : Tracker}

/-- Reading only records the character. What it means for the flags is decided afterwards. -/
theorem push (shows : Shows registers tracker) (char : Char) :
    Shows (registers.push char) (tracker.push char) :=
  { shows with consumed := congrArg (TailBuffer.pushChar · char) shows.consumed }

/-- A token is matched against what was read above the floor, and the registers hold both. -/
theorem completes (shows : Shows registers tracker) (literal : Text) :
    registers.completes literal = tracker.completes literal := by
  rw [Registers.completes, Tracker.completes, shows.consumed, shows.floor]

/-- A prologue is matched like a token, so no flag has a say in it. -/
theorem opened? (shows : Shows registers tracker) (rules : Rules) :
    registers.opened? rules = rules.opened? tracker := by
  rw [Registers.opened?, Rules.opened?, shows.completes, shows.completes]

/-- A mode is entered with all flags clear, so flags that another mode left behind do not
matter. -/
theorem enter (shows : Shows registers tracker) (mode : Mode) :
    Shows (registers.enter mode) (tracker.enter mode.entry) where
  consumed := shows.consumed
  floor := congrArg TailBuffer.size shows.consumed
  mode := by cases mode <;> rfl
  escaped := by cases mode <;> rfl
  inClass := by cases mode <;> rfl
  regexLength := by cases mode <;> rfl
  depth := shows.depth
  piece := shows.piece
  inWord := shows.inWord

/-- A mark is noted as the last code. -/
theorem marked (shows : Shows registers tracker) {mark : Char}
    (noLetter : isIdentifierChar mark = false) :
    Shows { registers with lastChar := mark, inWord := false }
      { tracker with piece := .mark mark } :=
  { shows with
    piece := by simp [Registers.piece, noLetter]
    inWord := fun _ => rfl }

/-- The brace of the prologue counts as the last code, after which an operand is expected. -/
theorem openRegion (shows : Shows registers tracker) :
    Shows registers.openRegion tracker.openRegion := by
  have brace : isIdentifierChar '{' = false := by decide
  exact { (shows.enter .code).marked brace with depth := rfl }

/-- The last code is not forgotten with the region. It stays the same for both, and the next
region starts with a brace anyway. -/
theorem closeRegion (shows : Shows registers tracker) :
    Shows registers.closeRegion tracker.closeRegion :=
  { shows.enter .code with depth := rfl }

/-- What closes a literal is noted as a mark and never as a letter, so no word grows over it. -/
theorem closeLiteral (shows : Shows registers tracker) {delimiter : Char}
    (noLetter : isIdentifierChar delimiter = false) :
    Shows (registers.closeLiteral delimiter) (tracker.closeLiteral delimiter) :=
  (shows.enter .code).marked noLetter

/-- An operand is expected on both sides or on none. No letter is a mark that expects
one. -/
theorem expectsOperand (shows : Shows registers tracker) :
    registers.expectsOperand = tracker.piece.expectsOperand := by
  rw [← shows.piece, Registers.expectsOperand, Registers.piece]
  cases letter : isIdentifierChar registers.lastChar with
  | false => simp [Piece.expectsOperand]
  | true =>
    have noMark : operandPreceders.contains registers.lastChar = false := by
      rw [Reading.contains_preceders, Reading.contains_of_letter letter]
    simp only [noMark, Bool.false_or, Bool.true_and, if_true, Piece.expectsOperand,
      List.reverse_reverse]

/-- A blank ends the word that grows. -/
theorem note_blank (shows : Shows registers tracker) {char : Char}
    (blank : Text.isBlank char = true) :
    Shows { registers with inWord := false }
      { tracker with piece := tracker.piece.note char } := by
  refine { shows with piece := ?_, inWord := fun _ => rfl }
  rw [Piece.note_blank _ blank, ← shows.piece]
  simp only [Registers.piece]
  cases isIdentifierChar registers.lastChar with
  | true => rfl
  | false => rfl

/-- A letter joins the word that grows or starts one. -/
theorem note_letter (shows : Shows registers tracker) {char : Char}
    (visible : Text.isBlank char = false) (letter : isIdentifierChar char = true) :
    Shows
      { registers with
        word := if registers.inWord then registers.word ++ [char] else [char]
        inWord := true
        lastChar := char }
      { tracker with piece := tracker.piece.note char } := by
  refine { shows with piece := ?_, inWord := fun mark => ?_ }
  · rw [← shows.piece]
    simp only [Registers.piece, Piece.note, visible, letter]
    cases last : isIdentifierChar registers.lastChar with
    | false => simp [shows.inWord last]
    | true => cases registers.inWord <;> simp
  · rw [letter] at mark
    cases mark

/-- A character of code is noted on both sides. -/
theorem note (shows : Shows registers tracker) (char : Char) :
    Shows (registers.note char) { tracker with piece := tracker.piece.note char } := by
  rw [Registers.note]
  cases blank : Text.isBlank char with
  | true => exact shows.note_blank blank
  | false =>
    cases letter : isIdentifierChar char with
    | true => exact shows.note_letter blank letter
    | false =>
      have marked : tracker.piece.note char = .mark char := by
        simp [Piece.note, blank, letter]
      rw [marked]
      exact shows.marked letter

/-- A literal goes on with other details. -/
theorem inContext (shows : Shows registers tracker) (context : Context)
    (mode : tracker.context.mode = context.mode) :
    Shows
      { registers with
        escaped := context.escaped
        inClass := context.inClass
        regexLength := context.regexLength }
      { tracker with context } :=
  { shows with
    mode := shows.mode.trans mode
    escaped := rfl
    inClass := rfl
    regexLength := rfl }

/-- A character of a string literal. -/
theorem advanceQuoted (shows : Shows registers tracker) {quote : Quote} {escaped : Bool}
    (context : tracker.context = .quoted quote escaped) (char : Char) :
    Shows (registers.advanceQuoted quote char) (tracker.advanceQuoted quote escaped char) := by
  have flag : registers.escaped = escaped := by rw [shows.escaped, context]; rfl
  have classless : registers.inClass = false := by rw [shows.inClass, context]; rfl
  have bare : registers.regexLength = 0 := by rw [shows.regexLength, context]; rfl
  have goesOn (next : Bool) : Shows { registers with escaped := next }
      { tracker with context := .quoted quote next } := by
    have mode : tracker.context.mode = (Context.quoted quote next).mode := by rw [context]; rfl
    have details := shows.inContext (.quoted quote next) mode
    simpa only [Context.escaped, Context.inClass, Context.regexLength, ← classless, ← bare]
      using details
  have noLetter : isIdentifierChar quote.mark = false := by cases quote <;> decide
  rw [Registers.advanceQuoted, Tracker.advanceQuoted, flag]
  refine ite_related (fun _ => goesOn false) (fun _ => ?_)
  refine ite_related (fun _ => goesOn true) (fun _ => ?_)
  refine ite_related (fun mark => ?_) (fun _ => ?_)
  · rw [mark]
    exact shows.closeLiteral noLetter
  · exact ite_related (fun _ => shows.enter .code) (fun _ => shows)

/-- A character that belongs to a regular expression literal or ends it. Closing the
literal clears the length that was just counted. -/
theorem advanceRegex (shows : Shows registers tracker) {length : Nat} {escaped inClass : Bool}
    (context : tracker.context = .regex length escaped inClass) (char : Char) :
    Shows (registers.advanceRegex char)
      (tracker.advanceRegex length escaped inClass char) := by
  obtain rfl : registers.escaped = escaped := by rw [shows.escaped, context]; rfl
  obtain rfl : registers.inClass = inClass := by rw [shows.inClass, context]; rfl
  obtain rfl : registers.regexLength = length := by rw [shows.regexLength, context]; rfl
  have goesOn (next inside : Bool) :
      Shows
        { registers with
          regexLength := registers.regexLength + 1
          escaped := next
          inClass := inside }
        { tracker with context := .regex (registers.regexLength + 1) next inside } :=
    shows.inContext (.regex (registers.regexLength + 1) next inside) (by rw [context]; rfl)
  rw [Registers.advanceRegex, Tracker.advanceRegex]
  refine ite_related (fun _ => shows.enter .lineComment) (fun _ => ?_)
  refine ite_related (fun _ => shows.enter .blockComment) (fun _ => ?_)
  rw [Registers.advancePattern]
  refine ite_related (fun _ => goesOn false registers.inClass) (fun marked => ?_)
  -- From here on no escape is pending, and the flag is left as it is.
  have unescaped : registers.escaped = false := by simpa using marked
  have unescapedOn (inside : Bool) :
      Shows
        { registers with
          regexLength := registers.regexLength + 1
          inClass := inside }
        { tracker with context := .regex (registers.regexLength + 1) false inside } := by
    rw [← unescaped]
    exact goesOn registers.escaped inside
  refine ite_related (fun _ => goesOn true registers.inClass) (fun _ => ?_)
  refine ite_related (fun _ => unescapedOn true) (fun _ => ?_)
  refine ite_related (fun _ => unescapedOn false) (fun _ => ?_)
  refine ite_related (fun slash => ?_) (fun _ => ?_)
  · exact shows.closeLiteral (by rw [slash.1]; decide)
  · exact ite_related (fun _ => shows.enter .code) (fun _ => unescapedOn registers.inClass)

/-- A plain character of code. The depth is positive, so that counting down in the
integers and in the natural numbers is the same. -/
theorem advancePlain (shows : Shows registers tracker) (grounded : tracker.Grounded)
    (positive : 0 < tracker.depth) (char : Char) :
    ShowsAfter ((registers.push char).advancePlain char)
      ((tracker.push char).advancePlain char) := by
  have noted := (shows.push char).note char
  have depth := noted.depth
  have seen (mark : Char) : ((registers.push char).note char).completes [mark] = true ↔
      char = mark := by
    rw [noted.completes]
    exact tracker.completes_single_iff grounded char mark
  simp only [Registers.advancePlain, Tracker.advancePlain, seen]
  refine ite_related (fun _ => ⟨?_, rfl⟩) (fun _ => ?_)
  · exact { noted with depth := by rw [depth]; rfl }
  · refine ite_related (fun _ => ⟨?_, ?_⟩) (fun _ => ⟨noted, rfl⟩)
    · have down : ((registers.push char).note char).depth - 1 = ((tracker.depth - 1 : Nat) : Int) := by
        rw [depth, Int.ofNat_sub positive]
        rfl
      exact { noted with depth := down }
    · have spent : ((tracker.depth : Int) - 1 ≤ 0) ↔ tracker.depth ≤ 1 := by omega
      rw [depth]
      exact decide_eq_decide.mpr spent

/-- A character of code. The depth is positive, so the machine's integer goes down where the
natural number does. -/
theorem advanceCode (shows : Shows registers tracker) (grounded : tracker.Grounded)
    (positive : 0 < tracker.depth) (stringAware : Bool) (char : Char) :
    ShowsAfter ((registers.push char).advanceCode stringAware char)
      ((tracker.push char).advanceCode stringAware char) := by
  have pushed := shows.push char
  rw [Registers.advanceCode, Tracker.advanceCode, pushed.completes, pushed.completes,
    pushed.expectsOperand]
  refine ite_related (fun _ => ⟨pushed.enter .lineComment, rfl⟩) (fun _ => ?_)
  refine ite_related (fun _ => ⟨pushed.enter .blockComment, rfl⟩) (fun _ => ?_)
  refine ite_related (fun _ => ⟨pushed.enter .regex, rfl⟩) (fun _ => ?_)
  cases if stringAware then Quote.ofChar? char else none with
  | none => exact shows.advancePlain grounded positive char
  | some quote => exact ⟨pushed.enter (.quoted quote), rfl⟩

/-- A character in any mode. -/
theorem advance (shows : Shows registers tracker) (grounded : tracker.Grounded)
    (positive : 0 < tracker.depth) (stringAware : Bool) (char : Char) :
    ShowsAfter ((registers.push char).advance stringAware char)
      (tracker.read stringAware char) := by
  have pushed := shows.push char
  have mode : (registers.push char).mode = tracker.context.mode := shows.mode
  rw [Registers.advance, Tracker.read, Tracker.advance, mode]
  cases context : tracker.context with
  | code =>
    have inCode : (tracker.push char).context = .code := context
    rw [inCode]
    exact shows.advanceCode grounded positive stringAware char
  | lineComment =>
    have inLine : (tracker.push char).context = .lineComment := context
    rw [inLine]
    have ends : (registers.push char).consumed.endsWithAny [['\r'], ['\n']] = isLineEnd char :=
      registers.consumed.endsWithAny_pushChar char
    simp only [Context.mode, ends]
    exact ⟨ite_related (fun _ => pushed.enter .code) (fun _ => pushed), rfl⟩
  | blockComment =>
    have inBlock : (tracker.push char).context = .blockComment := context
    rw [inBlock, pushed.completes]
    exact ⟨ite_related (fun _ => pushed.enter .code) (fun _ => pushed), rfl⟩
  | quoted quote escaped =>
    have inQuote : (tracker.push char).context = .quoted quote escaped := context
    rw [inQuote]
    exact ⟨pushed.advanceQuoted inQuote char, rfl⟩
  | regex length escaped inClass =>
    have inRegex : (tracker.push char).context = .regex length escaped inClass := context
    rw [inRegex]
    exact ⟨pushed.advanceRegex inRegex char, rfl⟩

end Shows

end Registers

end RegionBuild.Region
