import RegionBuild.Text.Blank
import RegionBuild.Text.Lines

/-!
# Lines and the white space around them

A text without line boundaries that is ended by a line feed is one line, and texts ended by
line feeds are cut into lines one after the other. Text is stripped if it has no white
space at its ends; such text comes back when white space in front of it is stripped, and in
a longer text it protects what is in front of it.
-/

namespace RegionBuild.Text

/-- No character of the text ends a line. -/
def Unbroken (text : Text) : Prop := text.any isLineBoundary = false

/-- No white space at either end. -/
def Stripped (text : Text) : Prop := strip text = text

/-- A text is unbroken if its characters are. -/
theorem unbroken_iff {text : Text} :
    text.Unbroken ↔ ∀ char ∈ text, isLineBoundary char = false := by
  simp [Unbroken, List.any_eq_false]

/-- Texts without line boundaries have none together. -/
theorem Unbroken.append {text other : Text} (unbroken : text.Unbroken)
    (unbroken' : other.Unbroken) : (text ++ other).Unbroken := by
  simp only [Unbroken, List.any_append, Bool.or_eq_false_iff] at *
  exact ⟨unbroken, unbroken'⟩

/-- A digit ends no line. -/
theorem isLineBoundary_of_isDigit {char : Char} (digit : char.isDigit = true) :
    isLineBoundary char = false := by
  simp only [Char.isDigit, Bool.and_eq_true, decide_eq_true_eq] at digit
  have low : 48 ≤ char.toNat := digit.1
  have high : char.toNat ≤ 57 := digit.2
  simp only [isLineBoundary, Bool.or_eq_false_iff, decide_eq_false_iff_not, beq_eq_false_iff_ne]
  omega

/-- The lines after a text that is ended by a line feed. -/
theorem lines_append_newline {line : Text} (unbroken : line.Unbroken) (rest : Text) :
    lines (line ++ '\n' :: rest) = line :: lines rest := by
  induction line with
  | nil =>
    rw [List.nil_append, lines, if_pos (by decide)]
    simp
  | cons first more inductionHypothesis =>
    simp only [Unbroken, List.any_cons, Bool.or_eq_false_iff] at unbroken
    obtain ⟨plain, unbroken⟩ := unbroken
    rw [List.cons_append, lines]
    · simp [plain, inductionHypothesis unbroken]
    · intro _ returned _
      rw [returned] at plain
      exact absurd plain (by decide)

/-- A text that is not empty has a line. -/
theorem lines_ne_nil {text : Text} (nonempty : text ≠ []) : lines text ≠ [] := by
  fun_cases lines text with
  | case1 => exact absurd rfl nonempty
  | case2 rest => exact List.cons_ne_nil _ _
  | case3 char rest _ _ => exact List.cons_ne_nil _ _
  | case4 char rest _ _ _ => exact List.cons_ne_nil _ _
  | case5 char rest _ _ line more _ => exact List.cons_ne_nil _ _

/-- A carriage return before a line feed is no end of its own. -/
theorem lines_return {rest : Text} (fed : rest.head? = some '\n') :
    lines ('\r' :: rest) = lines rest := by
  cases rest with
  | nil => cases fed
  | cons next rest =>
    have newline : next = '\n' := Option.some.inj fed
    have alone : lines ('\n' :: rest) = [] :: lines rest := @lines_append_newline [] rfl rest
    rw [newline, alone, lines]

/-- A line feed ends the lines before it, and those after it are cut as if nothing were before.

Induct over the text. A carriage return is taken together with a line feed that follows, in
the text or right after it, and so it makes no difference. -/
theorem lines_newline (text rest : Text) :
    lines (text ++ '\n' :: rest) = lines (text ++ ['\n']) ++ lines rest := by
  induction text with
  | nil =>
    have alone : ∀ rest, lines ('\n' :: rest) = [] :: lines rest := @lines_append_newline [] rfl
    rw [List.nil_append, List.nil_append, alone, alone]
    rfl
  | cons char more inductionHypothesis =>
    have sameHead : ∀ text : Text, (more ++ '\n' :: text).head? = (more ++ ['\n']).head? := by
      intro text
      cases more <;> rfl
    rw [List.cons_append, List.cons_append]
    by_cases joined : char = '\r' ∧ (more ++ ['\n']).head? = some '\n'
    · rw [joined.1, lines_return joined.2, lines_return ((sameHead rest).trans joined.2),
        inductionHypothesis]
    · have parted : ∀ text tail, char = '\r' → more ++ '\n' :: text = '\n' :: tail → False := by
        intro text tail returned fed
        refine joined ⟨returned, ?_⟩
        rw [← sameHead text, fed]
        rfl
      rw [lines.eq_3 _ _ (parted rest), lines.eq_3 _ _ (parted [])]
      split
      · rw [inductionHypothesis, List.cons_append]
      · obtain ⟨line, others, cut⟩ := List.exists_cons_of_ne_nil
          (lines_ne_nil (List.append_ne_nil_of_right_ne_nil more (List.cons_ne_nil '\n' [])))
        rw [inductionHypothesis, cut]
        rfl

/-- White space in front of a text is stripped with the text's own. -/
theorem strip_append {indent : Text} (blank : ∀ char ∈ indent, isBlank char = true)
    (text : Text) : strip (indent ++ text) = strip text := by
  rw [strip, stripStart, List.dropWhile_append_of_pos blank]
  rfl

/-- No white space comes off the start of stripped text. What comes off the start is missing
in the end. -/
theorem Stripped.stripStart_eq {text : Text} (stripped : text.Stripped) :
    stripStart text = text := by
  have shorter : (strip text).length ≤ (stripStart text).length := by
    simpa [strip, stripEnd] using
      (List.dropWhile_suffix (l := (stripStart text).reverse) isBlank).length_le
  rw [stripped] at shorter
  exact (List.dropWhile_suffix isBlank).eq_of_length_le shorter

/-- No white space comes off the end of stripped text. -/
theorem Stripped.stripEnd_eq {text : Text} (stripped : text.Stripped) : stripEnd text = text := by
  have whole : strip text = text := stripped
  rwa [strip, stripped.stripStart_eq] at whole

/-- White space comes off the end of a text as it does with more in front, unless the text is
nothing but white space. -/
theorem stripEnd_append (front : Text) {text : Text} (left : stripEnd text ≠ []) :
    stripEnd (front ++ text) = front ++ stripEnd text := by
  have kept : text.reverse.dropWhile isBlank ≠ [] := by
    simpa [stripEnd] using left
  simp only [stripEnd, List.reverse_append, List.dropWhile_append]
  simp [kept]

end RegionBuild.Text
