import RegionBuild.Proofs.Region.Layout

/-!
# Well-formed bodies

A body is well formed if its braces match outside comments and literals and every
comment and literal in it is finished. A region with such a body closes at its own
brace and at no other, whatever the constructs are and in whatever order they stand.

The proof gives every construct a law of one form: from trackers that satisfy one
condition it leads, without closing the region, to trackers that satisfy another.
Between constructs the condition is always the same: the tracker is in code, at
some depth, and no slash is left over that could open a comment with the next
character. Each construct returns to it at the depth it started from.
-/

namespace RegionBuild.Region

/-- A text that is a row of items, one after the other. -/
inductive Row (item : Text → Prop) : Text → Prop where
  | nil : Row item []
  | cons {first rest : Text} : item first → Row item rest → Row item (first ++ rest)

/-- One item of a string literal: an escaped character, or one that is neither a
backslash nor the closing quote. Only a template may span lines. -/
inductive QuotedItem (quote : Quote) : Text → Prop where
  | escaped (char : Char) : QuotedItem quote ['\\', char]
  | plain (char : Char) : char ≠ quote.mark → char ≠ '\\' →
      (quote ≠ .template → isLineEnd char = false) → QuotedItem quote [char]

/-- One item of a character class: an escaped character, or one that neither ends
the class nor the line. A slash may stand here. -/
inductive ClassItem : Text → Prop where
  | escaped (char : Char) : ClassItem ['\\', char]
  | plain (char : Char) : char ≠ ']' → char ≠ '\\' → isLineEnd char = false → ClassItem [char]

/-- One item of a regular expression: an escaped character, a class, or a character
that ends neither the expression nor the line. -/
inductive RegexItem : Text → Prop where
  | escaped (char : Char) : RegexItem ['\\', char]
  | choice {content : Text} : Row ClassItem content → RegexItem ('[' :: (content ++ [']']))
  | plain (char : Char) : char ≠ '/' → char ≠ '\\' → char ≠ '[' → isLineEnd char = false →
      RegexItem [char]

/-- The operators and opening punctuators after which a regular expression may
stand in a well-formed body. -/
def operators : List Char :=
  ['(', ',', '=', ':', '[', '!', '&', '|', '?', ';', '+', '-', '*', '%', '<', '>', '~', '^']

/-- The characters that open or close something, and so do not stand for themselves. -/
def delimiters : List Char := ['{', '}', '/', '\'', '"', '\x60']

/-- Well-formed bodies. -/
inductive Body : Text → Prop where
  | empty : Body []
  | append {first second : Text} : Body first → Body second → Body (first ++ second)
  | plain (char : Char) : char ∉ delimiters → Body [char]
  | braces {body : Text} : Body body → Body ('{' :: (body ++ ['}']))
  | blockComment {content : Text} : ¬ ['*', '/'] <:+: content →
      Body ('/' :: '*' :: (content ++ ['*', '/']))
  | lineComment {content : Text} {ending : Char} : (∀ char ∈ content, isLineEnd char = false) →
      isLineEnd ending = true → Body ('/' :: '/' :: (content ++ [ending]))
  | quoted (quote : Quote) {content : Text} : Row (QuotedItem quote) content →
      Body (quote.mark :: (content ++ [quote.mark]))
  | regex {operator : Char} {content : Text} : operator ∈ operators → Row RegexItem content →
      content ≠ [] → content.head? ≠ some '/' → content.head? ≠ some '*' →
      Body (operator :: '/' :: (content ++ ['/']))

/-- The text of a block comment. -/
def blockComment (content : Text) : Text := '/' :: '*' :: (content ++ ['*', '/'])

/-- The piece after a slash in code, which is not noted if it may start a literal. -/
def Piece.slashed (piece : Piece) : Piece :=
  if piece.expectsOperand then piece else .mark '/'

namespace Tracker

/-- From every tracker before, the text leads to a tracker after it, and the region
stays open on the way. -/
def Leads (before after : Tracker → Prop) (text : Text) : Prop :=
  ∀ tracker, before tracker → ∃ next, tracker.follow? true text = some next ∧ after next

namespace Leads

variable {before middle after : Tracker → Prop}

/-- The empty text leads nowhere else. -/
theorem nil : Leads before before [] := fun tracker holds => ⟨tracker, rfl, holds⟩

/-- Texts in a row lead through the condition between them. -/
theorem append {first second : Text} (leads : Leads before middle first)
    (leads' : Leads middle after second) : Leads before after (first ++ second) := by
  intro tracker holds
  obtain ⟨between, followed, held⟩ := leads tracker holds
  obtain ⟨next, followed', final⟩ := leads' between held
  exact ⟨next, by rw [follow?_append, followed, Option.bind_some, followed'], final⟩

/-- A character in front of a text. -/
theorem cons {char : Char} {text : Text} (leads : Leads before middle [char])
    (leads' : Leads middle after text) : Leads before after (char :: text) :=
  leads.append leads'

/-- One character leads on if reading it does not close the region. -/
theorem single {char : Char}
    (reads : ∀ tracker, before tracker →
      ∃ next, tracker.read true char = (next, false) ∧ after next) :
    Leads before after [char] := by
  intro tracker holds
  obtain ⟨next, goesOn, final⟩ := reads tracker holds
  exact ⟨next, by simp [follow?, goesOn], final⟩

/-- A condition with a number in it leads on if it does for each number. -/
theorem of_forall {before : Nat → Tracker → Prop} {text : Text}
    (leads : ∀ number, Leads (before number) after text) :
    Leads (fun tracker => ∃ number, before number tracker) after text := by
  rintro tracker ⟨number, holds⟩
  exact leads number tracker holds

/-- A row of items that each return to a condition returns to it as a whole. -/
theorem row {item : Text → Prop} (returns : ∀ text, item text → Leads before before text)
    {text : Text} (items : Row item text) : Leads before before text := by
  induction items with
  | nil => exact nil
  | cons here _ inductionHypothesis => exact (returns _ here).append inductionHypothesis

end Leads

/-- In a context, with a number of braces open besides the region's own. -/
structure Within (depth : Nat) (context : Context) (tracker : Tracker) : Prop where
  grounded : tracker.Grounded
  context_eq : tracker.context = context
  depth_eq : tracker.depth = depth + 1

/-- In code, with no slash before that could open a comment. -/
structure InCode (depth : Nat) (tracker : Tracker) : Prop extends
    Within depth .code tracker where
  unslashed : tracker.window.head? ≠ some '/'

/-- Which rule follows the next character depends on the context. -/
theorem read_of_context (tracker : Tracker) (context : Context) (char : Char) :
    tracker.context = context → tracker.read true char =
      match context with
      | .code => (tracker.push char).advanceCode true char
      | .lineComment =>
        (if isLineEnd char then (tracker.push char).enter .code else tracker.push char, false)
      | .blockComment =>
        (if (tracker.push char).completes ['*', '/'] then (tracker.push char).enter .code
          else tracker.push char, false)
      | .quoted quote escaped => ((tracker.push char).advanceQuoted quote escaped char, false)
      | .regex length escaped inClass =>
        ((tracker.push char).advanceRegex length escaped inClass char, false) := by
  rintro rfl
  rfl

namespace Within

variable {depth : Nat} {context : Context} {tracker : Tracker}

/-- Reading a character keeps context and depth. -/
theorem push (within : Within depth context tracker) (char : Char) :
    Within depth context (tracker.push char) :=
  ⟨Nat.le_succ_of_le within.grounded, within.context_eq, within.depth_eq⟩

/-- Going over to another context keeps the depth. -/
theorem enter (within : Within depth context tracker) (next : Context) :
    Within depth next (tracker.enter next) :=
  ⟨Nat.le_refl _, rfl, within.depth_eq⟩

/-- Changing the details of a context keeps the depth. -/
theorem inContext (within : Within depth context tracker) (next : Context) :
    Within depth next { tracker with context := next } :=
  ⟨within.grounded, rfl, within.depth_eq⟩

/-- Back in code after a token, nothing stands above the floor. -/
theorem enterCode (within : Within depth context tracker) : InCode depth (tracker.enter .code) :=
  { within.enter .code with unslashed := by simp [window_enter] }

/-- Back in code after a literal, nothing stands above the floor. -/
theorem closeLiteral (within : Within depth context tracker) (delimiter : Char) :
    InCode depth (tracker.closeLiteral delimiter) where
  grounded := Nat.le_refl _
  context_eq := rfl
  depth_eq := within.depth_eq
  unslashed := within.enterCode.unslashed

end Within

/-- Without a slash before it, a character of code opens no comment. -/
theorem InCode.read_code {depth : Nat} {tracker : Tracker} (inCode : InCode depth tracker)
    (char : Char) :
    tracker.read true char =
      if char == '/' && tracker.piece.expectsOperand then
        ((tracker.push char).enter (.regex 0 false false), false)
      else
        match Quote.ofChar? char with
        | some quote => ((tracker.push char).enter (.quoted quote false), false)
        | none => (tracker.push char).advancePlain char := by
  have noLine : (tracker.push char).completes ['/', '/'] = false := by
    rw [Bool.eq_false_iff, ne_eq, completes_pair_iff tracker inCode.grounded]
    exact fun both => inCode.unslashed both.2
  have noBlock : (tracker.push char).completes ['/', '*'] = false := by
    rw [Bool.eq_false_iff, ne_eq, completes_pair_iff tracker inCode.grounded]
    exact fun both => inCode.unslashed both.2
  have piece : (tracker.push char).piece = tracker.piece := rfl
  rw [read_of_context tracker .code char inCode.context_eq]
  cases found : Quote.ofChar? char with
  | none =>
    simp only [advanceCode, noLine, noBlock, piece, found, Bool.true_and, Bool.false_eq_true,
      ↓reduceIte]
  | some quote =>
    simp only [advanceCode, noLine, noBlock, piece, found, Bool.true_and, Bool.false_eq_true,
      ↓reduceIte]

/-- A character that delimits nothing is no slash. -/
theorem ne_slash_of_plain {char : Char} (plain : char ∉ delimiters) : char ≠ '/' := by
  rintro rfl
  exact plain (by decide)

/-- What a plain character of code leaves behind. -/
theorem InCode.noted {depth : Nat} {tracker : Tracker} (inCode : InCode depth tracker)
    {char : Char} (noSlash : char ≠ '/') (piece : Piece) :
    InCode depth { tracker.push char with piece } where
  grounded := Nat.le_succ_of_le inCode.grounded
  context_eq := inCode.context_eq
  depth_eq := inCode.depth_eq
  unslashed := by
    change (tracker.push char).window.head? ≠ some '/'
    rw [window_push tracker inCode.grounded]
    simpa using noSlash

/-- A character that delimits nothing is read as a plain one. -/
theorem InCode.read_plain {depth : Nat} {tracker : Tracker} (inCode : InCode depth tracker)
    {char : Char} (plain : char ∉ delimiters) :
    tracker.read true char =
      ({ tracker.push char with piece := tracker.piece.note char }, false) := by
  simp only [delimiters, List.mem_cons, List.not_mem_nil, or_false, not_or] at plain
  obtain ⟨noOpen, noClose, noSlash, noSingle, noDouble, noTemplate⟩ := plain
  rw [inCode.read_code]
  simp [noSlash, Quote.ofChar?, noSingle, noDouble, noTemplate, advancePlain, noOpen, noClose]
  rfl

/-- A plain character returns to code. -/
theorem leads_plain (depth : Nat) (char : Char) (plain : char ∉ delimiters) :
    Leads (InCode depth) (InCode depth) [char] := by
  refine .single fun tracker inCode => ⟨_, inCode.read_plain plain, ?_⟩
  exact inCode.noted (ne_slash_of_plain plain) _

/-- An opening brace goes one level deeper. -/
theorem leads_open (depth : Nat) : Leads (InCode depth) (InCode (depth + 1)) ['{'] := by
  refine .single fun tracker inCode => ⟨_, inCode.read_code '{', ?_⟩
  have noted := inCode.noted (show '{' ≠ '/' by decide) (tracker.piece.note '{')
  exact { noted with depth_eq := congrArg (· + 1) inCode.depth_eq }

/-- A closing brace inside another pair comes back up. -/
theorem leads_close (depth : Nat) : Leads (InCode (depth + 1)) (InCode depth) ['}'] := by
  refine .single fun tracker inCode => ?_
  have noted := inCode.noted (show '}' ≠ '/' by decide) (tracker.piece.note '}')
  have deep : ¬ tracker.depth ≤ 1 := by
    rw [inCode.depth_eq]
    omega
  refine ⟨_, (inCode.read_code '}').trans (Prod.ext rfl ?_),
    { noted with depth_eq := congrArg (· - 1) inCode.depth_eq }⟩
  exact decide_eq_false deep

/-- With no other brace open, a closing brace closes the region. -/
theorem InCode.closes {tracker : Tracker} (inCode : InCode 0 tracker) :
    (tracker.read true '}').2 = true := by
  rw [inCode.read_code]
  change decide (tracker.depth ≤ 1) = true
  simp [inCode.depth_eq]

/-- A text that leads to code with no other brace open is a body: the region closes
at the brace after it. -/
theorem Leads.closesAfter {before : Tracker → Prop} {body : Text}
    (leads : Leads before (InCode 0) body) {tracker : Tracker} (holds : before tracker) :
    tracker.closesAfter true body = true := by
  obtain ⟨next, followed, inCode⟩ := leads tracker holds
  unfold Tracker.closesAfter
  rw [followed]
  exact inCode.closes

/-- After a slash in code that may still turn out to open a comment: it was taken
for the start of a regular expression or stands above the floor. -/
def Slashed (depth : Nat) (tracker : Tracker) : Prop :=
  Within depth (.regex 0 false false) tracker ∨
    (Within depth .code tracker ∧ tracker.window.head? = some '/')

/-- A slash in code, wherever it stands, can still open a comment. -/
theorem InCode.read_slash {depth : Nat} {tracker : Tracker} (inCode : InCode depth tracker) :
    ∃ next, tracker.read true '/' = (next, false) ∧ Slashed depth next ∧
      next.piece = tracker.piece.slashed := by
  have pushed := inCode.toWithin.push '/'
  have read := inCode.read_code '/'
  by_cases operand : tracker.piece.expectsOperand = true
  · rw [operand] at read
    exact ⟨_, read, Or.inl (pushed.enter _), (if_pos operand).symm⟩
  · have window : (tracker.push '/').window = '/' :: tracker.window :=
      tracker.window_push inCode.grounded '/'
    rw [Bool.eq_false_iff.mpr operand] at read
    exact ⟨_, read, Or.inr ⟨⟨pushed.grounded, pushed.context_eq, pushed.depth_eq⟩,
      congrArg List.head? window⟩, (if_neg operand).symm⟩

/-- A slash in code leads to where a comment may open. -/
theorem leads_slash (depth : Nat) : Leads (InCode depth) (Slashed depth) ['/'] := by
  refine .single fun tracker inCode => ?_
  obtain ⟨next, read, slashed, _⟩ := inCode.read_slash
  exact ⟨next, read, slashed⟩

/-- A second slash opens a line comment in both cases. -/
theorem leads_slash_slash (depth : Nat) :
    Leads (Slashed depth) (Within depth .lineComment) ['/'] := by
  refine .single fun tracker slashed => ⟨(tracker.push '/').enter .lineComment, ?_⟩
  rcases slashed with within | ⟨within, slash⟩
  · exact ⟨read_of_context tracker _ '/' within.context_eq, (within.push '/').enter .lineComment⟩
  · have opens : (tracker.push '/').completes ['/', '/'] = true :=
      (completes_pair_iff tracker within.grounded _ _ _).mpr ⟨rfl, slash⟩
    refine ⟨?_, (within.push '/').enter .lineComment⟩
    rw [read_of_context tracker _ '/' within.context_eq]
    simp only [advanceCode, opens, ↓reduceIte]

/-- In a block comment, with its content so far above the floor. -/
structure InBlock (depth : Nat) (content : Text) (tracker : Tracker) : Prop extends
    Within depth .blockComment tracker where
  window_eq : tracker.window = content.reverse

/-- A star after the slash opens a block comment in both cases. -/
theorem Slashed.read_star {depth : Nat} {tracker : Tracker} (slashed : Slashed depth tracker) :
    tracker.read true '*' = ((tracker.push '*').enter .blockComment, false) := by
  rcases slashed with within | ⟨within, slash⟩
  · exact read_of_context tracker _ '*' within.context_eq
  · have noLine : (tracker.push '*').completes ['/', '/'] = false := by
      rw [Bool.eq_false_iff, ne_eq, completes_pair_iff tracker within.grounded]
      simp
    have opens : (tracker.push '*').completes ['/', '*'] = true :=
      (completes_pair_iff tracker within.grounded _ _ _).mpr ⟨rfl, slash⟩
    rw [read_of_context tracker _ '*' within.context_eq]
    simp only [advanceCode, noLine, opens, Bool.false_eq_true, ↓reduceIte]

/-- The opener itself is below the floor, so its star cannot be the first half of the
end. -/
theorem Slashed.inBlock {depth : Nat} {tracker : Tracker} (slashed : Slashed depth tracker) :
    InBlock depth [] ((tracker.push '*').enter .blockComment) where
  grounded := Nat.le_refl _
  context_eq := rfl
  depth_eq := by
    rcases slashed with within | ⟨within, _⟩
    · exact within.depth_eq
    · exact within.depth_eq
  window_eq := window_enter _ _

/-- The content of a line comment stays in it. -/
theorem leads_lineComment (depth : Nat) (content : Text)
    (unended : ∀ char ∈ content, isLineEnd char = false) :
    Leads (Within depth .lineComment) (Within depth .lineComment) content := by
  induction content with
  | nil => exact .nil
  | cons char rest inductionHypothesis =>
    refine .cons (.single fun tracker within => ⟨tracker.push char, ?_, within.push char⟩)
      (inductionHypothesis fun char inside => unended char (List.mem_cons_of_mem _ inside))
    rw [read_of_context tracker _ char within.context_eq]
    simp only [unended char List.mem_cons_self, Bool.false_eq_true, ↓reduceIte]

/-- A line end leads back to code. -/
theorem leads_lineEnd (depth : Nat) (ending : Char) (ends : isLineEnd ending = true) :
    Leads (Within depth .lineComment) (InCode depth) [ending] := by
  refine .single fun tracker within => ⟨_, ?_, (within.push ending).enterCode⟩
  rw [read_of_context tracker _ ending within.context_eq]
  simp only [ends, ↓reduceIte]

/-- Reading on without looking stays in a block comment and above its floor. -/
theorem InBlock.pushAll {depth : Nat} {seen : Text} {tracker : Tracker}
    (inBlock : InBlock depth seen tracker) (content : Text) :
    InBlock depth (seen ++ content) (tracker.pushAll content) where
  grounded := tracker.pushAll_grounded inBlock.grounded content
  context_eq := by
    rw [pushAll_eq]
    exact inBlock.context_eq
  depth_eq := by
    rw [pushAll_eq]
    exact inBlock.depth_eq
  window_eq := by rw [window_pushAll _ inBlock.grounded, inBlock.window_eq, List.reverse_append]

/-- The content of a block comment is only read as long as it does not contain the end.
The condition speaks of what was read and what comes together, because the end may
straddle the two. -/
theorem InBlock.follow? {depth : Nat} {seen content : Text} {tracker : Tracker}
    (inBlock : InBlock depth seen tracker) (unended : ¬ ['*', '/'] <:+: seen ++ content) :
    tracker.follow? true content = some (tracker.pushAll content) := by
  induction content generalizing seen tracker with
  | nil => rfl
  | cons char rest inductionHypothesis =>
    have goesOn : (tracker.push char).completes ['*', '/'] = false := by
      rw [Bool.eq_false_iff, ne_eq, completes_pair_iff tracker inBlock.grounded,
        inBlock.window_eq]
      rintro ⟨rfl, star⟩
      obtain ⟨before, rfl⟩ := List.getLast?_eq_some_iff.mp (List.head?_reverse ▸ star)
      exact unended ⟨before, rest, by simp⟩
    have read : tracker.read true char = (tracker.push char, false) := by
      rw [read_of_context tracker _ char inBlock.context_eq]
      simp only [goesOn, Bool.false_eq_true, ↓reduceIte]
    rw [Tracker.follow?, read]
    exact inductionHypothesis (inBlock.pushAll [char]) (by simpa using unended)

/-- A star and a slash end a block comment. -/
theorem InBlock.read_end {depth : Nat} {content : Text} {tracker : Tracker}
    (inBlock : InBlock depth (content ++ ['*']) tracker) :
    tracker.read true '/' = ((tracker.push '/').enter .code, false) := by
  have ends : (tracker.push '/').completes ['*', '/'] = true := by
    refine (completes_pair_iff tracker inBlock.grounded _ _ _).mpr ⟨rfl, ?_⟩
    rw [inBlock.window_eq]
    simp
  rw [read_of_context tracker _ '/' inBlock.context_eq]
  simp only [ends, ↓reduceIte]

/-- A star after content without the end makes no end yet. -/
theorem unended_star {content : Text} (unended : ¬ ['*', '/'] <:+: content) :
    ¬ ['*', '/'] <:+: content ++ ['*'] := by
  rw [List.infix_concat_iff]
  rintro (⟨before, ends⟩ | inside)
  · have last := congrArg List.getLast? ends
    simp at last
  · exact unended inside

/-- A block comment returns to code with nothing above the floor. Of all its characters
only the slash that opens it may be noted. -/
theorem InCode.follow?_blockComment {depth : Nat} {content : Text} {tracker : Tracker}
    (inCode : InCode depth tracker) (unended : ¬ ['*', '/'] <:+: content) :
    ∃ next, tracker.follow? true (blockComment content) = some next ∧ InCode depth next ∧
      next.window = [] ∧ next.piece = tracker.piece.slashed := by
  obtain ⟨opened, slash, slashed, piece⟩ := inCode.read_slash
  have inBlock := slashed.inBlock.pushAll (content ++ ['*'])
  have unended' : ¬ ['*', '/'] <:+: [] ++ (content ++ ['*']) := unended_star unended
  refine ⟨_, ?_, (inBlock.toWithin.push '/').enterCode, window_enter _ _, ?_⟩
  · have split : blockComment content = ['/', '*'] ++ ((content ++ ['*']) ++ ['/']) := by
      simp [blockComment]
    rw [split, follow?_append, follow?_pair slash slashed.read_star, Option.bind_some,
      follow?_append, slashed.inBlock.follow? unended', Option.bind_some, Tracker.follow?,
      inBlock.read_end]
    rfl
  · rw [pushAll_eq]
    exact piece

/-- A quote in code opens a string literal. -/
theorem leads_quote (depth : Nat) (quote : Quote) :
    Leads (InCode depth) (Within depth (.quoted quote false)) [quote.mark] := by
  refine .single fun tracker inCode => ⟨_, ?_, (inCode.toWithin.push quote.mark).enter _⟩
  rw [inCode.read_code]
  cases quote <;> rfl

/-- An item of a string literal stays in it. -/
theorem leads_quotedItem (depth : Nat) (quote : Quote) (text : Text)
    (item : QuotedItem quote text) :
    Leads (Within depth (.quoted quote false)) (Within depth (.quoted quote false)) text := by
  cases item with
  | escaped char =>
    have backslash : Leads (Within depth (.quoted quote false))
        (Within depth (.quoted quote true)) ['\\'] := by
      refine .single fun tracker within => ⟨_, ?_, (within.push '\\').inContext _⟩
      rw [read_of_context tracker _ '\\' within.context_eq]
      rfl
    refine .cons backslash (.single fun tracker within => ⟨_, ?_, (within.push char).inContext _⟩)
    rw [read_of_context tracker _ char within.context_eq]
    rfl
  | plain char noMark noEscape oneLine =>
    refine .single fun tracker within => ⟨_, ?_, within.push char⟩
    have spans : (isLineEnd char && quote != .template) = false := by
      cases quote with
      | single => simp [oneLine (by decide)]
      | double => simp [oneLine (by decide)]
      | template => simp
    rw [read_of_context tracker _ char within.context_eq]
    simp only [advanceQuoted, noMark, noEscape, spans, Bool.false_eq_true, ↓reduceIte]

/-- The same quote closes a string literal. -/
theorem leads_unquote (depth : Nat) (quote : Quote) :
    Leads (Within depth (.quoted quote false)) (InCode depth) [quote.mark] := by
  refine .single fun tracker within =>
    ⟨_, ?_, (within.push quote.mark).closeLiteral quote.mark⟩
  have noEscape : quote.mark ≠ '\\' := by cases quote <;> decide
  rw [read_of_context tracker _ quote.mark within.context_eq]
  simp only [advanceQuoted, noEscape, Bool.false_eq_true, ↓reduceIte]

/-- In code right after something that expects an operand. -/
structure BeforeOperand (depth : Nat) (tracker : Tracker) : Prop extends
    InCode depth tracker where
  expected : tracker.piece.expectsOperand = true

/-- Operators delimit nothing, are no white space and no part of an identifier, and
expect an operand. -/
theorem operators_expect (operator : Char) (listed : operator ∈ operators) :
    operator ∉ delimiters ∧ Text.isBlank operator = false ∧ isIdentifierChar operator = false ∧
      (Piece.mark operator).expectsOperand = true := by
  have each : (operators.all fun char => decide (char ∉ delimiters ∧ Text.isBlank char = false ∧
      isIdentifierChar char = false ∧ (Piece.mark char).expectsOperand = true)) = true := by
    decide
  exact of_decide_eq_true (List.all_eq_true.mp each operator listed)

/-- An operator expects an operand. -/
theorem leads_operator (depth : Nat) (operator : Char) (listed : operator ∈ operators) :
    Leads (InCode depth) (BeforeOperand depth) [operator] := by
  obtain ⟨plain, noBlank, noLetter, expected⟩ := operators_expect operator listed
  refine .single fun tracker inCode => ⟨_, inCode.read_plain plain, ?_⟩
  have noted := inCode.noted (ne_slash_of_plain plain) (tracker.piece.note operator)
  refine { noted with expected := ?_ }
  simpa [Piece.note, noBlank, noLetter] using expected

/-- Where an operand is expected, a slash opens a regular expression. -/
theorem leads_regex (depth : Nat) :
    Leads (BeforeOperand depth) (Within depth (.regex 0 false false)) ['/'] := by
  refine .single fun tracker ready => ⟨_, ?_, (ready.toWithin.push '/').enter _⟩
  rw [ready.toInCode.read_code, ready.expected]
  rfl

/-- In a regular expression, past its first character. -/
def InRegex (depth : Nat) (inClass : Bool) (tracker : Tracker) : Prop :=
  ∃ length, Within depth (.regex (length + 1) false inClass) tracker

/-- A backslash in a regular expression hides the character after it, inside and
outside classes. -/
theorem leads_regexEscape (depth length : Nat) (inClass : Bool) (char : Char) :
    Leads (Within depth (.regex length false inClass)) (InRegex depth inClass) ['\\', char] := by
  have backslash : Leads (Within depth (.regex length false inClass))
      (Within depth (.regex (length + 1) true inClass)) ['\\'] := by
    refine .single fun tracker within => ⟨_, ?_, (within.push '\\').inContext _⟩
    rw [read_of_context tracker _ '\\' within.context_eq]
    simp [advanceRegex]
  refine .cons backslash (.single fun tracker within =>
    ⟨_, ?_, length + 1, (within.push char).inContext _⟩)
  rw [read_of_context tracker _ char within.context_eq]
  simp [advanceRegex]

/-- An item of a class stays in it. -/
theorem leads_classItem (depth : Nat) (text : Text) (item : ClassItem text) :
    Leads (InRegex depth true) (InRegex depth true) text := by
  refine .of_forall fun length => ?_
  cases item with
  | escaped char => exact leads_regexEscape depth (length + 1) true char
  | plain char noEnd noEscape oneLine =>
    refine .single fun tracker within => ⟨_, ?_, length + 1, (within.push char).inContext _⟩
    rw [read_of_context tracker _ char within.context_eq]
    by_cases opens : char = '['
    · simp [advanceRegex, opens]
    · simp [advanceRegex, noEnd, noEscape, oneLine, opens]

/-- A class leads through its content and back. -/
theorem leads_class (depth length : Nat) (content : Text) (items : Row ClassItem content) :
    Leads (Within depth (.regex length false false)) (InRegex depth false)
      ('[' :: (content ++ [']'])) := by
  have opens : Leads (Within depth (.regex length false false)) (InRegex depth true) ['['] := by
    refine .single fun tracker within => ⟨_, ?_, length, (within.push '[').inContext _⟩
    rw [read_of_context tracker _ '[' within.context_eq]
    simp [advanceRegex]
  have closes : Leads (InRegex depth true) (InRegex depth false) [']'] := by
    refine .of_forall fun size => .single fun tracker within =>
      ⟨_, ?_, size + 1, (within.push ']').inContext _⟩
    rw [read_of_context tracker _ ']' within.context_eq]
    simp [advanceRegex]
  exact .cons opens (.append (.row (leads_classItem depth) items) closes)

/-- An item of a regular expression stays in it. As its first item it must not make
a comment of the slash before. -/
theorem leads_regexItem (depth length : Nat) (text : Text) (item : RegexItem text)
    (noComment : length = 0 → text.head? ≠ some '*') :
    Leads (Within depth (.regex length false false)) (InRegex depth false) text := by
  cases item with
  | escaped char => exact leads_regexEscape depth length false char
  | choice items => exact leads_class depth length _ items
  | plain char noSlash noEscape noClass oneLine =>
    refine .single fun tracker within => ⟨_, ?_, length, (within.push char).inContext _⟩
    have noStar : ¬ (length = 0 ∧ char = '*') := by
      rintro ⟨first, rfl⟩
      exact noComment first rfl
    rw [read_of_context tracker _ char within.context_eq]
    by_cases ends : char = ']'
    · simp [advanceRegex, ends]
    · simp [advanceRegex, noSlash, noEscape, noClass, oneLine, ends, noStar]

/-- A whole regular expression that does not look like a comment. -/
theorem leads_regexContent (depth : Nat) (content : Text) (items : Row RegexItem content)
    (nonempty : content ≠ []) (noStar : content.head? ≠ some '*') :
    Leads (Within depth (.regex 0 false false)) (InRegex depth false) content := by
  cases items with
  | nil => exact absurd rfl nonempty
  | @cons first rest item items =>
    have starts : first.head? = (first ++ rest).head? := by
      cases item <;> rfl
    refine .append (leads_regexItem depth 0 first item fun _ => ?_) (.row ?_ items)
    · rw [starts]
      exact noStar
    · intro text item
      exact .of_forall fun length => leads_regexItem depth (length + 1) text item (by simp)

/-- A slash outside classes ends a regular expression. -/
theorem leads_regexEnd (depth : Nat) : Leads (InRegex depth false) (InCode depth) ['/'] := by
  refine .of_forall fun length => .single fun tracker within =>
    ⟨_, ?_, (within.push '/').closeLiteral '/'⟩
  rw [read_of_context tracker _ '/' within.context_eq]
  simp [advanceRegex]

/-- A well-formed body leads from code to code at the same depth.

Induct over its construction; every construct is the row of its parts. -/
theorem leads_body {body : Text} (wellFormed : Body body) (depth : Nat) :
    Leads (InCode depth) (InCode depth) body := by
  induction wellFormed generalizing depth with
  | empty => exact .nil
  | append _ _ first second => exact (first depth).append (second depth)
  | plain char plain => exact leads_plain depth char plain
  | braces _ inner =>
    exact .cons (leads_open depth) ((inner (depth + 1)).append (leads_close depth))
  | blockComment unended =>
    intro tracker inCode
    obtain ⟨next, followed, inCode', _⟩ := inCode.follow?_blockComment unended
    exact ⟨next, followed, inCode'⟩
  | lineComment unended ends =>
    exact .cons (leads_slash depth) (.cons (leads_slash_slash depth)
      ((leads_lineComment depth _ unended).append (leads_lineEnd depth _ ends)))
  | quoted quote items =>
    exact .cons (leads_quote depth quote)
      (.append (.row (leads_quotedItem depth quote) items) (leads_unquote depth quote))
  | regex listed items nonempty _ noStar =>
    exact .cons (leads_operator depth _ listed) (.cons (leads_regex depth)
      ((leads_regexContent depth _ items nonempty noStar).append (leads_regexEnd depth)))

/-- A fresh region with a well-formed body closes at the brace after it. -/
theorem closesAfter_body {body : Text} (wellFormed : Body body) :
    fresh.closesAfter true body = true := by
  have start : InCode 0 fresh := ⟨⟨Nat.le_refl _, rfl, rfl⟩, by decide⟩
  exact (leads_body wellFormed 0).closesAfter start

end Tracker

namespace Rules

/-- A lead and the prologue after it, in which that prologue is the only occurrence
of either. -/
def Sole (rules : Rules) (lead : Text) (kind : Kind) : Prop :=
  ∀ (other : Kind) (before after : Text),
    before ++ rules.prologue other ++ after = lead ++ rules.prologue kind →
      before = lead ∧ other = kind

/-- Occurrences can be looked for place by place. -/
theorem sole_iff (rules : Rules) (lead : Text) (kind : Kind) :
    rules.Sole lead kind ↔
      ∀ other ∈ [Kind.client, Kind.server],
        ∀ place < (lead ++ rules.prologue kind).length + 1,
          rules.prologue other <+: (lead ++ rules.prologue kind).drop place →
            place = lead.length ∧ other = kind := by
  constructor
  · intro sole other _ place within ⟨after, found⟩
    have whole : (lead ++ rules.prologue kind).take place ++ rules.prologue other ++ after =
        lead ++ rules.prologue kind := by
      rw [List.append_assoc, found, List.take_append_drop]
    obtain ⟨same, kinds⟩ := sole other _ after whole
    have size := congrArg List.length same
    rw [List.length_take, Nat.min_eq_left (Nat.le_of_lt_succ within)] at size
    exact ⟨size, kinds⟩
  · intro places other before after whole
    have listed : other ∈ [Kind.client, Kind.server] := by cases other <;> decide
    have size := congrArg List.length whole
    have found : rules.prologue other <+: (lead ++ rules.prologue kind).drop before.length := by
      rw [← whole, List.append_assoc, List.drop_left]
      exact List.prefix_append _ _
    have within : before.length < (lead ++ rules.prologue kind).length + 1 := by
      simp only [List.length_append] at size ⊢
      omega
    obtain ⟨place, kinds⟩ := places other listed before.length within found
    rw [List.append_assoc] at whole
    exact ⟨(List.append_inj whole place).1, kinds⟩

instance (rules : Rules) (lead : Text) (kind : Kind) : Decidable (rules.Sole lead kind) :=
  decidable_of_iff _ (rules.sole_iff lead kind).symm

/-- A region opens at the only prologue there is. -/
theorem Sole.opens {rules : Rules} {lead : Text} {kind : Kind} (sole : rules.Sole lead kind) :
    rules.Opens lead kind where
  first := by
    rintro other before ⟨after, whole⟩ ⟨front, rfl⟩
    obtain ⟨rfl, rfl⟩ := sole other front after whole
    rfl
  clientWins := by
    rintro ⟨front, whole⟩
    exact (sole .client front [] ((List.append_nil _).trans whole)).2.symm

end Rules

end RegionBuild.Region

namespace RegionBuild.Pruner

open Region

/-- Every region with a well-formed body is cut at its own brace. Of a source with one
such region pruning keeps what stands before and after it, and the body exactly if
its kind is the one kept for the architecture. -/
theorem process_body (pruner : Pruner) (aware : pruner.options.stringAware = true)
    (path architecture : Text) (scanned : pruner.bypasses path = false)
    (lead body rest : Text) (kind : Kind) (wellFormed : Body body)
    (sole : pruner.rules.Sole lead kind)
    (quiet : ∀ other, ¬ pruner.rules.prologue other <:+: rest) :
    pruner.process (lead ++ pruner.rules.prologue kind ++ body ++ ['}'] ++ rest) path
        architecture =
      .ok (lead ++ (if kind = pruner.kept architecture then body else []) ++ rest) := by
  have closes : Tracker.fresh.closesAfter pruner.rules.stringAware body = true := by
    rw [show pruner.rules.stringAware = true from aware]
    exact Tracker.closesAfter_body wellFormed
  have divides := Layout.Divides.cons ⟨lead, kind, body⟩ ⟨sole.opens, closes⟩ (.of_quiet quiet)
  have whole := pruner.process_divides _ path architecture scanned _ divides
  simpa [Block.source, Layout.outcome, Layout.shown, Layout.cons, Block.shown, Kind.shown]
    using whole

/-- A body in which braces stand in a pair, in a string, in a comment and in a class
of a regular expression. -/
theorem process_body_hidden_braces :
    Body "\x7b'\x7d'\x7d/*\x7d*/=/[/\x7d]/".toList ∧
      standard.process "a if (Meteor.isServer) \x7b\x7b'\x7d'\x7d/*\x7d*/=/[/\x7d]/\x7d b".toList
          "main.ts".toList "os".toList =
        .ok "a \x7b'\x7d'\x7d/*\x7d*/=/[/\x7d]/ b".toList := by
  have braces : Body ['{', '\'', '}', '\'', '}'] :=
    .braces (.quoted .single (.cons (.plain '}' (by decide) (by decide) (by decide)) .nil))
  have comment : Body ['/', '*', '}', '*', '/'] :=
    Body.blockComment (show ¬ ['*', '/'] <:+: ['}'] by decide)
  have regex : Body ['=', '/', '[', '/', '}', ']', '/'] :=
    .regex (by decide) (.cons (.choice (.cons (.plain '/' (by decide) (by decide) (by decide))
      (.cons (.plain '}' (by decide) (by decide) (by decide)) .nil))) .nil) (by decide)
      (by decide) (by decide)
  have wellFormed : Body "\x7b'\x7d'\x7d/*\x7d*/=/[/\x7d]/".toList :=
    (braces.append comment).append regex
  have source : "a if (Meteor.isServer) \x7b\x7b'\x7d'\x7d/*\x7d*/=/[/\x7d]/\x7d b".toList =
      ['a', ' '] ++ standard.rules.prologue .server ++
        "\x7b'\x7d'\x7d/*\x7d*/=/[/\x7d]/".toList ++ ['}'] ++ [' ', 'b'] := by
    decide
  refine ⟨wellFormed, ?_⟩
  rw [source, process_body standard rfl "main.ts".toList "os".toList (by decide) ['a', ' '] _
    [' ', 'b'] .server wellFormed (by decide) (fun other => by cases other <;> decide)]
  exact congrArg Except.ok (by decide)

end RegionBuild.Pruner
