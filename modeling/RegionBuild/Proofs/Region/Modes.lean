import RegionBuild.Proofs.Region.Layout

/-!
# Following literals or not

A pruner follows string and regular expression literals or takes them for code. The two
ways differ through literals only: a source in which the first way meets none is pruned
to the same text, or fails with the same fault, in the second way.

A comment is no literal, but the two ways reach it differently. Where an operand is
expected, a tracker that follows literals takes the slash for the start of a regular
expression and corrects itself at the next character. One that does not keeps the slash
in its window and completes the comment's opener with the next character. Until then
their contexts and floors differ. Afterwards they differ at most in the piece that was
last read as code, on which only the first of them relies.
-/

namespace RegionBuild.Region

namespace Context

/-- Code or a comment. -/
def literalFree : Context → Bool
  | .code | .lineComment | .blockComment => true
  | .quoted _ _ | .regex _ _ _ => false

/-- Whether one character leads from a context to the next without touching a literal: it
opens no string, and what looked like the start of a regular expression was that of a
comment. -/
def staysClear (context next : Context) : Bool :=
  match context, next with
  | _, .quoted _ _ => false
  | .regex _ _ _, .lineComment | .regex _ _ _, .blockComment => true
  | .regex _ _ _, _ => false
  | _, _ => true

end Context

namespace Tracker

/-- Two trackers after the same text that differ at most in the piece. -/
structure EqExceptPiece (unaware aware : Tracker) : Prop where
  grounded : unaware.Grounded
  consumed : aware.consumed = unaware.consumed
  floor : aware.floor = unaware.floor
  context : aware.context = unaware.context
  depth : aware.depth = unaware.depth

namespace EqExceptPiece

variable {unaware aware : Tracker}

/-- The character goes on top of what both have read. What the pieces are is left open, since
reading does not look at them. -/
theorem push (exceptPiece : EqExceptPiece unaware aware) (char : Char) :
    EqExceptPiece (unaware.push char) (aware.push char) where
  grounded := Nat.le_succ_of_le exceptPiece.grounded
  consumed := congrArg (TailBuffer.pushChar · char) exceptPiece.consumed
  floor := exceptPiece.floor
  context := exceptPiece.context
  depth := exceptPiece.depth

/-- The floor moves up to what was read, which is the same for both. -/
theorem enter (exceptPiece : EqExceptPiece unaware aware) (context : Context) :
    EqExceptPiece (unaware.enter context) (aware.enter context) where
  grounded := Nat.le_refl _
  consumed := exceptPiece.consumed
  floor := congrArg TailBuffer.size exceptPiece.consumed
  context := rfl
  depth := exceptPiece.depth

/-- Tokens are matched above the floor, where the piece plays no part. -/
theorem completes (exceptPiece : EqExceptPiece unaware aware) (literal : Text) :
    aware.completes literal = unaware.completes literal := by
  rw [Tracker.completes, Tracker.completes, exceptPiece.consumed, exceptPiece.floor]

/-- A plain character changes the depth of both in the same way. -/
theorem advancePlain (exceptPiece : EqExceptPiece unaware aware) (char : Char) :
    After EqExceptPiece (unaware.advancePlain char) (aware.advancePlain char) := by
  have noted (depth : Nat) : EqExceptPiece
      { unaware with piece := unaware.piece.note char, depth }
      { aware with piece := aware.piece.note char, depth } :=
    ⟨exceptPiece.grounded, exceptPiece.consumed, exceptPiece.floor, exceptPiece.context, rfl⟩
  simp only [Tracker.advancePlain, exceptPiece.depth]
  apply ite_related
  · intro _
    exact ⟨noted _, rfl⟩
  · intro _
    apply ite_related
    · intro _
      exact ⟨noted _, rfl⟩
    · intro _
      exact ⟨exceptPiece.depth ▸ noted _, rfl⟩

end EqExceptPiece

/-- A tracker that does not follow literals and one that does, after the same text
without literals. -/
inductive SameWithoutLiterals (unaware aware : Tracker) : Prop where
  /-- In code or in a comment only the pieces differ. -/
  | eqExceptPiece : EqExceptPiece unaware aware → unaware.context.literalFree = true →
      SameWithoutLiterals unaware aware
  /-- After a slash that one of them keeps in its window and the other one takes for the
  start of a regular expression. -/
  | slash : unaware.Grounded → unaware.context = .code → unaware.window.head? = some '/' →
      aware.context = .regex 0 false false → aware.consumed = unaware.consumed →
      aware.depth = unaware.depth → SameWithoutLiterals unaware aware

/-- In code that is not searched for literals, a character opens a comment or is plain. -/
theorem read_unaware {tracker : Tracker} (inCode : tracker.context = .code) (char : Char) :
    tracker.read false char =
      if (tracker.push char).completes ['/', '/'] then
        ((tracker.push char).enter .lineComment, false)
      else if (tracker.push char).completes ['/', '*'] then
        ((tracker.push char).enter .blockComment, false)
      else (tracker.push char).advancePlain char := by
  have context : (tracker.push char).context = .code := inCode
  rw [read, advance, context]
  rfl

/-- A region closes in code. -/
theorem read_closed_context {stringAware : Bool} {tracker : Tracker} {char : Char}
    (closed : (tracker.read stringAware char).2 = true) :
    (tracker.read stringAware char).1.context = .code := by
  unfold read advance advanceCode advancePlain at *
  grind

/-- Any other character than a slash or a star right after the start of a regular
expression is text of it. -/
theorem advanceRegex_not_clear (tracker : Tracker) {char : Char} (noSlash : char ≠ '/')
    (noStar : char ≠ '*') :
    Context.staysClear (.regex 0 false false)
      (tracker.advanceRegex 0 false false char).context = false := by
  simp only [advanceRegex, noSlash, noStar, and_false, false_and, Bool.false_eq_true, ↓reduceIte]
  repeat' split
  all_goals rfl

namespace SameWithoutLiterals

variable {unaware aware : Tracker}

/-- A character of code. Both open the same comments, and a slash that only one of them
takes for a regular expression stays in the window of the other. -/
theorem read_code (exceptPiece : EqExceptPiece unaware aware) (inCode : unaware.context = .code)
    (char : Char) (clear : Context.staysClear .code (aware.read true char).1.context = true) :
    After SameWithoutLiterals (unaware.read false char) (aware.read true char) := by
  have pushed := exceptPiece.push char
  have inCode' : (aware.push char).context = .code := exceptPiece.context.trans inCode
  have aware_eq : aware.read true char = (aware.push char).advanceCode true char := by
    rw [Tracker.read, advance, inCode']
  rw [aware_eq] at clear ⊢
  rw [read_unaware inCode]
  simp only [advanceCode, pushed.completes, Bool.true_and, ↓reduceIte] at clear ⊢
  by_cases line : (unaware.push char).completes ['/', '/'] = true
  · simp only [line, ↓reduceIte]
    exact ⟨.eqExceptPiece (pushed.enter .lineComment) rfl, rfl⟩
  by_cases block : (unaware.push char).completes ['/', '*'] = true
  · simp only [line, block, ↓reduceIte]
    exact ⟨.eqExceptPiece (pushed.enter .blockComment) rfl, rfl⟩
  simp only [line, block, Bool.false_eq_true, ↓reduceIte] at clear ⊢
  by_cases operand : (char == '/' && (aware.push char).piece.expectsOperand) = true
  · obtain ⟨rfl, _⟩ : char = '/' ∧ _ := by simpa using operand
    have window := unaware.window_push exceptPiece.grounded '/'
    simp only [operand, ↓reduceIte]
    exact ⟨.slash pushed.grounded inCode (congrArg List.head? window) rfl pushed.consumed
      pushed.depth, rfl⟩
  simp only [operand, Bool.false_eq_true, ↓reduceIte] at clear ⊢
  cases quoted : Quote.ofChar? char with
  | some quote =>
    rw [quoted] at clear
    cases clear
  | none =>
    obtain ⟨plain, verdict⟩ := pushed.advancePlain char
    obtain ⟨depth, next⟩ := (unaware.push char).advancePlain_fst char
    refine ⟨.eqExceptPiece plain ?_, verdict⟩
    rw [next]
    exact congrArg Context.literalFree inCode

/-- A tracker that does not follow literals is never in one. -/
theorem literalFree (pair : SameWithoutLiterals unaware aware) :
    unaware.context.literalFree = true := by
  cases pair with
  | eqExceptPiece _ free => exact free
  | slash _ inCode => exact congrArg Context.literalFree inCode

/-- Both trackers have read the same, also where their contexts differ. -/
theorem consumed (pair : SameWithoutLiterals unaware aware) :
    aware.consumed = unaware.consumed := by
  cases pair with
  | eqExceptPiece exceptPiece _ => exact exceptPiece.consumed
  | slash _ _ _ _ consumed _ => exact consumed

/-- After the slash the next character opens a comment, for both the same. -/
theorem read_slash (grounded : unaware.Grounded) (inCode : unaware.context = .code)
    (slash : unaware.window.head? = some '/') (inRegex : aware.context = .regex 0 false false)
    (consumed : aware.consumed = unaware.consumed) (depth : aware.depth = unaware.depth)
    (char : Char)
    (clear : Context.staysClear (.regex 0 false false) (aware.read true char).1.context = true) :
    After SameWithoutLiterals (unaware.read false char) (aware.read true char) := by
  have completes (second : Char) :
      (unaware.push char).completes ['/', second] = true ↔ char = second := by
    rw [completes_pair_iff unaware grounded]
    exact and_iff_left slash
  have entered (context : Context) :
      EqExceptPiece ((unaware.push char).enter context) ((aware.push char).enter context) :=
    ⟨Nat.le_refl _, congrArg (TailBuffer.pushChar · char) consumed,
      congrArg (TailBuffer.size <| TailBuffer.pushChar · char) consumed, rfl, depth⟩
  have inRegex' : (aware.push char).context = .regex 0 false false := inRegex
  have aware_eq : aware.read true char =
      ((aware.push char).advanceRegex 0 false false char, false) := by
    rw [Tracker.read, advance, inRegex']
  rw [aware_eq] at clear ⊢
  rw [read_unaware inCode]
  simp only [completes]
  by_cases line : char = '/'
  · subst line
    exact ⟨.eqExceptPiece (entered .lineComment) rfl, rfl⟩
  by_cases block : char = '*'
  · subst block
    exact ⟨.eqExceptPiece (entered .blockComment) rfl, rfl⟩
  rw [advanceRegex_not_clear _ line block] at clear
  cases clear

/-- A character that touches no literal keeps the relation and gives the same verdict on
closing. -/
theorem read (pair : SameWithoutLiterals unaware aware) (char : Char)
    (clear : aware.context.staysClear (aware.read true char).1.context = true) :
    After SameWithoutLiterals (unaware.read false char) (aware.read true char) := by
  cases pair with
  | slash grounded inCode slash inRegex consumed depth =>
    rw [inRegex] at clear
    exact read_slash grounded inCode slash inRegex consumed depth char clear
  | eqExceptPiece exceptPiece free =>
    have pushed := exceptPiece.push char
    cases inContext : unaware.context with
    | code =>
      rw [exceptPiece.context, inContext] at clear
      exact read_code exceptPiece inContext char clear
    | lineComment =>
      have here : (unaware.push char).context = .lineComment := inContext
      rw [Tracker.read, Tracker.read, advance, advance, pushed.context, here]
      constructor
      · apply ite_related
        · intro _
          exact .eqExceptPiece (pushed.enter .code) rfl
        · intro _
          exact .eqExceptPiece pushed free
      · rfl
    | blockComment =>
      have here : (unaware.push char).context = .blockComment := inContext
      rw [Tracker.read, Tracker.read, advance, advance, pushed.context, here]
      constructor
      · simp only [pushed.completes]
        apply ite_related
        · intro _
          exact .eqExceptPiece (pushed.enter .code) rfl
        · intro _
          exact .eqExceptPiece pushed free
      · rfl
    | quoted quote escaped =>
      rw [inContext] at free
      cases free
    | regex length escaped inClass =>
      rw [inContext] at free
      cases free

end SameWithoutLiterals

end Tracker

namespace Scan

/-- Whether a scan reads a text without touching a literal. -/
def staysClear (rules : Rules) (kept : Kind) : Scan → Text → Bool
  | _, [] => true
  | scan, char :: rest =>
    scan.tracker.context.staysClear (scan.step rules kept char).tracker.context &&
      staysClear rules kept (scan.step rules kept char) rest

/-- Two scans of the same text that differ in their trackers only. Outside regions the
trackers wait for the same prologues. -/
structure EqExceptTracker (unaware aware : Scan) : Prop where
  draft : aware.draft = unaware.draft
  region : aware.region = unaware.region
  trackers : Tracker.SameWithoutLiterals unaware.tracker aware.tracker
  outside : unaware.region = none → Tracker.EqExceptPiece unaware.tracker aware.tracker

namespace EqExceptTracker

variable {rules : Rules} {kept : Kind} {unaware aware : Scan}

/-- One character outside regions. Both see the same prologues. -/
theorem step_outside (pair : EqExceptTracker unaware aware) (outside : unaware.region = none)
    (char : Char) :
    EqExceptTracker (unaware.step { rules with stringAware := false } kept char)
      (aware.step { rules with stringAware := true } kept char) := by
  have pushed := (pair.outside outside).push char
  have outside' : aware.region = none := pair.region.trans outside
  have draft : aware.draft.pushChar char = unaware.draft.pushChar char :=
    congrArg (Draft.pushChar · char) pair.draft
  have opened : Rules.opened? { rules with stringAware := true } (aware.tracker.push char) =
      Rules.opened? { rules with stringAware := false } (unaware.tracker.push char) := by
    simp only [Rules.opened?, pushed.completes]
  cases seen : Rules.opened? { rules with stringAware := false } (unaware.tracker.push char) with
  | none =>
    rw [Scan.step_outside _ kept unaware char outside seen,
      Scan.step_outside _ kept aware char outside' (opened.trans seen)]
    constructor
    · exact draft
    · exact pair.region
    · exact .eqExceptPiece pushed pair.trackers.literalFree
    · intro _
      exact pushed
  | some kind =>
    have entered : Tracker.EqExceptPiece (unaware.tracker.push char).openRegion
        (aware.tracker.push char).openRegion :=
      ⟨Nat.le_refl _, pushed.consumed, congrArg TailBuffer.size pushed.consumed, rfl, rfl⟩
    rw [Scan.step_opening _ kept unaware char kind outside seen,
      Scan.step_opening _ kept aware char kind outside' (opened.trans seen)]
    simp only [openRegion, draft, pushed.consumed]
    constructor
    · rfl
    · rfl
    · exact .eqExceptPiece entered rfl
    · intro _
      exact entered

/-- One character inside a region. The trackers agree on whether it closes the region, and all
else is decided by the region, which is the same. -/
theorem step_inside (pair : EqExceptTracker unaware aware) {region : OpenRegion}
    (inside : unaware.region = some region) (char : Char)
    (clear : aware.tracker.context.staysClear
      (aware.step { rules with stringAware := true } kept char).tracker.context = true) :
    EqExceptTracker (unaware.step { rules with stringAware := false } kept char)
      (aware.step { rules with stringAware := true } kept char) := by
  have inside' : aware.region = some region := pair.region.trans inside
  by_cases closed : (aware.tracker.read true char).2 = true
  · have stepped := step_closing { rules with stringAware := true } kept aware char region inside'
      closed
    rw [stepped] at clear
    have code : (aware.tracker.read true char).1.context = .code :=
      Tracker.read_closed_context closed
    obtain ⟨trackers, verdict⟩ := pair.trackers.read char (code ▸ clear)
    have stepped' := step_closing { rules with stringAware := false } kept unaware char region
      inside (verdict.trans closed)
    have left : Tracker.EqExceptPiece (unaware.tracker.read false char).1.closeRegion
        (aware.tracker.read true char).1.closeRegion :=
      ⟨Nat.le_refl _, trackers.consumed, congrArg TailBuffer.size trackers.consumed, rfl, rfl⟩
    rw [stepped, stepped']
    constructor
    · exact pair.draft
    · rfl
    · exact .eqExceptPiece left rfl
    · intro _
      exact left
  · have goesOn : (aware.tracker.read true char).2 = false := by simpa using closed
    have stepped := Scan.step_inside { rules with stringAware := true } kept aware char region
      inside' goesOn
    rw [stepped] at clear
    obtain ⟨trackers, verdict⟩ := pair.trackers.read char clear
    rw [stepped, Scan.step_inside { rules with stringAware := false } kept unaware char region
      inside (verdict.trans goesOn)]
    constructor
    · exact congrArg (Draft.push · (region.kind.shown kept [char])) pair.draft
    · exact pair.region
    · exact trackers
    · intro outside
      rw [show unaware.region = none from outside] at inside
      cases inside

/-- A text that the scan reads without touching a literal leaves the trackers as the only
difference.

Induct over the text. -/
theorem run (pair : EqExceptTracker unaware aware) (rules : Rules) (text : Text)
    (clear : aware.staysClear { rules with stringAware := true } kept text = true) :
    EqExceptTracker (unaware.run { rules with stringAware := false } kept text)
      (aware.run { rules with stringAware := true } kept text) := by
  induction text generalizing unaware aware with
  | nil => exact pair
  | cons char rest inductionHypothesis =>
    rw [staysClear, Bool.and_eq_true] at clear
    obtain ⟨here, later⟩ := clear
    apply inductionHypothesis _ later
    cases inside : unaware.region with
    | none => exact pair.step_outside inside char
    | some region => exact pair.step_inside inside char here

end EqExceptTracker

theorem start_eqExceptTracker : EqExceptTracker start start := by
  have same : Tracker.EqExceptPiece Tracker.start Tracker.start :=
    ⟨Nat.le_refl _, rfl, rfl, rfl, rfl⟩
  exact ⟨rfl, rfl, .eqExceptPiece same rfl, fun _ => same⟩

end Scan

end RegionBuild.Region

namespace RegionBuild.Pruner

open Region

/-- The same pruner with literals followed or not. -/
def withAwareness (pruner : Pruner) (stringAware : Bool) : Pruner where
  options := { pruner.options with stringAware }
  client_ne_nil := pruner.client_ne_nil
  server_ne_nil := pruner.server_ne_nil
  client_ne_server := pruner.client_ne_server

/-- A source in which a pruner that follows literals meets none is pruned to the same
text, or fails with the same fault, if literals are not followed. -/
theorem process_unaware (pruner : Pruner) (source path architecture : Text)
    (clear : Scan.start.staysClear (pruner.withAwareness true).rules
      ((pruner.withAwareness true).kept architecture) source = true) :
    (pruner.withAwareness false).process source path architecture =
      (pruner.withAwareness true).process source path architecture := by
  have pair := Scan.start_eqExceptTracker.run pruner.rules source clear
  have region : (Scan.start.run (pruner.withAwareness true).rules
      ((pruner.withAwareness true).kept architecture) source).region =
        (Scan.start.run (pruner.withAwareness false).rules
          ((pruner.withAwareness false).kept architecture) source).region := pair.region
  have draft : (Scan.start.run (pruner.withAwareness true).rules
      ((pruner.withAwareness true).kept architecture) source).draft =
        (Scan.start.run (pruner.withAwareness false).rules
          ((pruner.withAwareness false).kept architecture) source).draft := pair.draft
  have scanned : (pruner.withAwareness false).scanned source path architecture =
      (pruner.withAwareness true).scanned source path architecture := by
    simp only [Pruner.scanned, scan, region, draft]
  rw [process, process, scanned]
  rfl

/-- Comments that start where an operand is expected and where none is, right behind one
another and with a brace in each. -/
theorem process_unaware_comments :
    Scan.start.staysClear (standard.withAwareness true).rules .client
        "if (Meteor.isClient) \x7ba=/*/\x7d*//**/b///\x7d\n\x7dc".toList = true ∧
      (standard.withAwareness false).process
          "if (Meteor.isClient) \x7ba=/*/\x7d*//**/b///\x7d\n\x7dc".toList "main.ts".toList
          "web".toList =
        .ok "a=/*/\x7d*//**/b///\x7d\nc".toList := by
  have clear : Scan.start.staysClear (standard.withAwareness true).rules .client
      "if (Meteor.isClient) \x7ba=/*/\x7d*//**/b///\x7d\n\x7dc".toList = true := by
    rfl
  have same := process_unaware standard _ "main.ts".toList "web".toList clear
  exact ⟨clear, same.trans (by rfl)⟩

end RegionBuild.Pruner
