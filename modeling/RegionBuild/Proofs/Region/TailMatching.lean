import RegionBuild.Region.TailBuffer

/-!
# The tail of what was read

However a text is cut into the pieces that are pushed, a literal matches exactly if it is
a suffix of the whole. A buffer that reads one character at a time therefore says yes right
behind every occurrence of a literal, overlapping ones included, and nowhere else.

A buffer compares two reversed texts from their heads and has no positions to get wrong. A
tape keeps the same text in reading order and compares by position, from the last character
of the literal down to its first. Its positions are integers, and a position off the tape or
off the literal leaves it without an answer. It always has one, and it is the buffer's.
-/

namespace RegionBuild.Region

/-- A text that every step makes longer by a piece is longer by all the pieces in the end. -/
theorem foldl_grows {State Item : Type} (shown : State → Text) (step : State → Item → State)
    (piece : Item → Text)
    (grows : ∀ state item, shown (step state item) = shown state ++ piece item)
    (state : State) (items : List Item) :
    shown (items.foldl step state) = shown state ++ items.flatMap piece := by
  induction items generalizing state with
  | nil => exact (List.append_nil _).symm
  | cons item rest inductionHypothesis =>
    rw [List.foldl_cons, inductionHypothesis, grows, List.flatMap_cons, List.append_assoc]

namespace TailBuffer

/-- A text that is pushed stands at the end of what was read. -/
theorem push_toText (buffer : TailBuffer) (text : Text) :
    (buffer.push text).toText = buffer.toText ++ text := by
  have grows (buffer : TailBuffer) (char : Char) :
      (buffer.pushChar char).toText = buffer.toText ++ [char] := List.reverse_cons
  rw [push, foldl_grows toText pushChar _ grows, List.flatMap_singleton']

/-- A text that is pushed stands in front of the reversed buffer. -/
theorem push_reversed (buffer : TailBuffer) (text : Text) :
    (buffer.push text).reversed = text.reverse ++ buffer.reversed := by
  simpa [toText] using congrArg List.reverse (push_toText buffer text)

/-- A text that is pushed adds its characters to those read before. -/
theorem push_size (buffer : TailBuffer) (text : Text) :
    (buffer.push text).size = buffer.size + text.length := by
  rw [size_eq, push_reversed, List.length_append, List.length_reverse, size_eq, Nat.add_comm]

/-- Read texts, one after the other. -/
def pushAll (buffer : TailBuffer) (texts : List Text) : TailBuffer := texts.foldl push buffer

/-- How a text was cut into pieces cannot be seen afterwards. -/
theorem pushAll_toText (buffer : TailBuffer) (texts : List Text) :
    (buffer.pushAll texts).toText = buffer.toText ++ texts.flatten := by
  rw [pushAll, foldl_grows toText push id push_toText, List.flatMap_id]

/-- A literal matches exactly if it is a suffix of what was read. -/
theorem endsWith_iff (buffer : TailBuffer) (literal : Text) :
    buffer.endsWith literal = true ↔ literal <:+ buffer.toText := by
  rw [endsWith, List.isPrefixOf_iff_prefix, toText, ← List.reverse_prefix, List.reverse_reverse]

/-- One of the literals matches exactly if one of them is a suffix of what was read. -/
theorem endsWithAny_iff (buffer : TailBuffer) (literals : List Text) :
    buffer.endsWithAny literals = true ↔ ∃ literal ∈ literals, literal <:+ buffer.toText := by
  simp only [endsWithAny, List.any_eq_true, endsWith_iff]

/-- The positions at which a literal matches while a text is read, one character after the
other. A position is the number of characters read up to there. -/
def matchedAt (literal : Text) (buffer : TailBuffer) : Text → List Nat
  | [] => []
  | char :: rest =>
    let next := buffer.push [char]
    if next.endsWith literal then next.size :: next.matchedAt literal rest
    else next.matchedAt literal rest

/-- The next character is either where the literal matches, or it is passed. -/
theorem mem_matchedAt_cons (literal : Text) (buffer : TailBuffer) (char : Char) (rest : Text)
    (position : Nat) :
    position ∈ buffer.matchedAt literal (char :: rest) ↔
      (position = buffer.size + 1 ∧ literal <:+ buffer.toText ++ [char]) ∨
        position ∈ (buffer.push [char]).matchedAt literal rest := by
  rw [← push_toText, ← endsWith_iff, matchedAt]
  have size : (buffer.push [char]).size = buffer.size + 1 := push_size buffer [char]
  by_cases ends : (buffer.push [char]).endsWith literal = true
  · simp [ends, size]
  · simp [ends]

/-- A literal matches at the positions up to which it is a suffix of everything read.

Induct over the text: each character joins what the buffer has read, and the part that is
read may end with it or go on. -/
theorem mem_matchedAt (literal : Text) (buffer : TailBuffer) (text : Text) (position : Nat) :
    position ∈ buffer.matchedAt literal text ↔
      ∃ read unread, read ≠ [] ∧ text = read ++ unread ∧
        position = buffer.size + read.length ∧ literal <:+ buffer.toText ++ read := by
  induction text generalizing buffer with
  | nil =>
    refine iff_of_false List.not_mem_nil ?_
    rintro ⟨read, unread, nonempty, whole, -⟩
    exact nonempty (List.append_eq_nil_iff.mp whole.symm).1
  | cons char rest inductionHypothesis =>
    rw [mem_matchedAt_cons, inductionHypothesis, push_toText, push_size]
    constructor
    · rintro (⟨here, ends⟩ | ⟨read, unread, -, rfl, later, ends⟩)
      · exact ⟨[char], rest, List.cons_ne_nil _ _, rfl, here, ends⟩
      · refine ⟨char :: read, unread, List.cons_ne_nil _ _, rfl, ?_, ?_⟩
        · rw [later, Nat.add_assoc, ← List.length_append]
          rfl
        · rwa [List.append_assoc] at ends
    · rintro ⟨read, unread, nonempty, whole, reached, ends⟩
      cases read with
      | nil => exact absurd rfl nonempty
      | cons first read =>
        obtain ⟨rfl, rfl⟩ := List.cons.inj whole
        cases read with
        | nil => exact .inl ⟨reached, ends⟩
        | cons second read =>
          refine .inr ⟨second :: read, unread, List.cons_ne_nil _ _, rfl, ?_, ?_⟩
          · rw [reached, Nat.add_assoc, ← List.length_append]
            rfl
          · rwa [List.append_assoc]

/-- A fresh buffer matches a literal at the ends of its occurrences. They may overlap. -/
theorem mem_matchedAt_empty {literal : Text} (nonempty : literal ≠ []) (text : Text)
    (position : Nat) :
    position ∈ empty.matchedAt literal text ↔
      ∃ before after, text = before ++ literal ++ after ∧
        position = (before ++ literal).length := by
  rw [mem_matchedAt]
  constructor
  · rintro ⟨read, unread, -, rfl, reached, before, rfl⟩
    exact ⟨before, unread, rfl, reached.trans (Nat.zero_add _)⟩
  · rintro ⟨before, after, rfl, reached⟩
    refine ⟨before ++ literal, after, ?_, rfl, reached.trans (Nat.zero_add _).symm, before, rfl⟩
    exact List.append_ne_nil_of_right_ne_nil before nonempty

example : empty.matchedAt "aba".toList "ababaaba".toList = [3, 5, 8] := by decide

end TailBuffer

/-- The characters read so far in reading order. -/
structure Tape where
  chars : Text

namespace Tape

/-- Nothing read yet. -/
def empty : Tape := ⟨[]⟩

/-- Read a text. -/
def push (tape : Tape) (text : Text) : Tape := ⟨tape.chars ++ text⟩

/-- Read texts, one after the other. -/
def pushAll (tape : Tape) (texts : List Text) : Tape := texts.foldl push tape

/-- The character at a position. There is none before the first and after the last. -/
def charAt? (text : Text) : Int → Option Char
  | .ofNat position => text[position]?
  | .negSucc _ => none

/-- Compare the first characters of a literal with those on the tape from an offset on, the
last of them first, down to the first difference. There is no answer if a position is off
the tape or off the literal. -/
def agrees? (tape : Tape) (literal : Text) (offset : Int) : Nat → Option Bool
  | 0 => some true
  | index + 1 => do
    let read ← charAt? tape.chars (offset + index)
    let wanted ← charAt? literal index
    if read = wanted then tape.agrees? literal offset index else some false

/-- Whether what was read ends with the literal. -/
def endsWith? (tape : Tape) (literal : Text) : Option Bool :=
  if literal.length = 0 then some true
  else if tape.chars.length < literal.length then some false
  else tape.agrees? literal (tape.chars.length - literal.length) literal.length

/-- Whether what was read ends with one of the literals, up to the first that matches. -/
def endsWithAny? (tape : Tape) (literals : List Text) : Option Bool :=
  literals.anyM tape.endsWith?

/-- A tape holds all that was read. -/
theorem pushAll_chars (tape : Tape) (texts : List Text) :
    (tape.pushAll texts).chars = tape.chars ++ texts.flatten := by
  rw [pushAll, foldl_grows chars push id fun _ _ => rfl, List.flatMap_id]

/-- Where both positions exist, the comparison goes on below them if the characters are the
same, and else ends. -/
theorem agrees?_succ (tape : Tape) (literal : Text) {offset index : Nat}
    (onTape : offset + index < tape.chars.length) (inLiteral : index < literal.length) :
    tape.agrees? literal offset (index + 1) =
      if tape.chars[offset + index] = literal[index] then tape.agrees? literal offset index
      else some false := by
  have read : charAt? tape.chars ((offset : Int) + index) = some tape.chars[offset + index] :=
    List.getElem?_eq_getElem onTape
  have wanted : charAt? literal (index : Int) = some literal[index] :=
    List.getElem?_eq_getElem inLiteral
  rw [agrees?, read, wanted]
  rfl

/-- As long as it starts within the tape and the literal, the comparison has an answer: it
says whether the two stretches are equal. -/
theorem agrees?_eq (tape : Tape) (literal : Text) {offset count : Nat}
    (onTape : offset + count ≤ tape.chars.length) (inLiteral : count ≤ literal.length) :
    tape.agrees? literal offset count =
      some (decide (literal.take count = (tape.chars.drop offset).take count)) := by
  induction count with
  | zero => rfl
  | succ index inductionHypothesis =>
    -- The walk goes down, so both stretches are cut before their last character.
    have read : index < (tape.chars.drop offset).length := by
      rw [List.length_drop]
      omega
    rw [agrees?_succ tape literal onTape inLiteral,
      inductionHypothesis (Nat.le_of_succ_le onTape) (Nat.le_of_succ_le inLiteral),
      List.take_succ_eq_append_getElem inLiteral, List.take_succ_eq_append_getElem read,
      List.getElem_drop]
    by_cases same : tape.chars[offset + index] = literal[index]
    · simp only [same, ↓reduceIte, List.append_cancel_right_eq]
    · have different : ¬ literal[index] = tape.chars[offset + index] := fun equal => same equal.symm
      simp only [same, different, ↓reduceIte, List.append_singleton_inj, and_false, decide_false]

/-- A tape always has an answer, and it says yes exactly if the literal is a suffix. -/
theorem endsWith?_eq (tape : Tape) (literal : Text) :
    tape.endsWith? literal = some (decide (literal <:+ tape.chars)) := by
  unfold endsWith?
  split
  · next nothing =>
    rw [List.eq_nil_of_length_eq_zero nothing, decide_eq_true List.nil_suffix]
  · split
    · next short =>
      rw [decide_eq_false fun ends => Nat.not_le_of_lt short ends.length_le]
    · next _ long =>
      have room : literal.length ≤ tape.chars.length := Nat.le_of_not_lt long
      have rest : (tape.chars.drop (tape.chars.length - literal.length)).length =
          literal.length := by
        rw [List.length_drop, Nat.sub_sub_self room]
      -- The lengths were compared before, so the offset is not negative.
      rw [← Int.ofNat_sub room,
        agrees?_eq tape literal (Nat.le_of_eq (Nat.sub_add_cancel room)) (Nat.le_refl _),
        List.take_length, List.take_of_length_le (Nat.le_of_eq rest)]
      simp only [List.suffix_iff_eq_drop]

-- A tape shorter than the literal is refused at once. The comparison itself would find the
-- last characters equal and then go on before the start of the tape.
example : agrees? ⟨"a".toList⟩ "ba".toList (-1) 2 = none := by decide

variable {tape : Tape} {buffer : TailBuffer}

/-- A tape answers as a buffer does that has read the same. -/
theorem endsWith?_buffer (same : tape.chars = buffer.toText) (literal : Text) :
    tape.endsWith? literal = some (buffer.endsWith literal) := by
  simp only [endsWith?_eq, same, ← buffer.endsWith_iff, Bool.decide_eq_true]

/-- With several literals too, since each of them has an answer. -/
theorem endsWithAny?_buffer (same : tape.chars = buffer.toText) (literals : List Text) :
    tape.endsWithAny? literals = some (buffer.endsWithAny literals) := by
  have each : tape.endsWith? = fun literal => pure (buffer.endsWith literal) :=
    funext fun literal => endsWith?_buffer same literal
  rw [endsWithAny?, each, List.anyM_pure]
  rfl

end Tape

/-- After any pushes a literal matches exactly if it is a suffix of all that was pushed, and
one of several if one of them is. The comparison by position gives the same answers without
leaving the tape or the literal. While a text is read one character after the other, the
positions at which a literal matches are the ends of its occurrences. -/
theorem TailBuffer.matches_suffixes (pushed : List Text) (literal : Text) (literals : List Text)
    (text : Text) :
    ((empty.pushAll pushed).endsWith literal = true ↔ literal <:+ pushed.flatten) ∧
      (Tape.empty.pushAll pushed).endsWith? literal =
        some ((empty.pushAll pushed).endsWith literal) ∧
      ((empty.pushAll pushed).endsWithAny literals = true ↔
        ∃ one ∈ literals, one <:+ pushed.flatten) ∧
      (Tape.empty.pushAll pushed).endsWithAny? literals =
        some ((empty.pushAll pushed).endsWithAny literals) ∧
      (literal ≠ [] → ∀ position, position ∈ empty.matchedAt literal text ↔
        ∃ before after, text = before ++ literal ++ after ∧
          position = (before ++ literal).length) := by
  have read : (empty.pushAll pushed).toText = pushed.flatten := pushAll_toText empty pushed
  have same : (Tape.empty.pushAll pushed).chars = (empty.pushAll pushed).toText :=
    (Tape.pushAll_chars .empty pushed).trans read.symm
  refine ⟨?_, Tape.endsWith?_buffer same literal, ?_, Tape.endsWithAny?_buffer same literals,
    fun nonempty => mem_matchedAt_empty nonempty text⟩
  · rw [endsWith_iff, read]
  · rw [endsWithAny_iff, read]

/-- A literal that two pushes make up, and one whose occurrences overlap. -/
theorem TailBuffer.matches_suffixes_overlapping :
    "aba".toList ≠ [] ∧ "aba".toList <:+ ["aab".toList, "a".toList].flatten ∧
      (Tape.empty.pushAll ["aab".toList, "a".toList]).endsWith? "aba".toList = some true ∧
      (∃ before after, "ababa".toList = before ++ "aba".toList ++ after ∧
        5 = (before ++ "aba".toList).length) ∧
      ¬ ∃ before after, "ababa".toList = before ++ "aba".toList ++ after ∧
        4 = (before ++ "aba".toList).length := by
  obtain ⟨suffix, answered, -, -, ends⟩ :=
    matches_suffixes ["aab".toList, "a".toList] "aba".toList [] "ababa".toList
  have nonempty : "aba".toList ≠ [] := by decide
  refine ⟨nonempty, suffix.mp (by decide), answered, (ends nonempty 5).mp (by decide), ?_⟩
  exact fun occurs => absurd ((ends nonempty 4).mpr occurs) (by decide)

end RegionBuild.Region
