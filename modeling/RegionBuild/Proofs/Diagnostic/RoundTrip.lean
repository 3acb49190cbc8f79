import Mathlib.Data.List.TakeDrop
import RegionBuild.Diagnostic.Parser
import RegionBuild.Proofs.Text.Lines
import RegionBuild.Proofs.Text.Numerals

/-!
# Printed diagnostics are read back

A report is what the compiler has to say: a severity, a code and a message, perhaps a
place in a file, and further lines. It is printed as a heading and indented lines after
it. Reading what a list of reports prints gives their diagnostics, each with its own
lines.

A path may hold parentheses, commas, digits and colons. A place that was read too early
would begin in the path, and since a place has only one opening parenthesis, it would
end there as well. So a path must not hold a closing parenthesis with a colon after it.
The same goes for the message of a report without a place, in which one could be read.
-/

namespace RegionBuild.Diagnostic

/-- What ends a place on a line. -/
def placeEnd : Text := [')', ':']

/-- A place in a file. Its path could not be taken for a place of its own or for an
indented line. -/
structure Place where
  path : Text
  line : Nat
  column : Nat
  named : path ≠ []
  unbroken : path.Unbroken
  flush : path.head? ≠ some ' ' ∧ path.head? ≠ some '\t'
  endless : ¬ placeEnd <:+: path
  line_short : (Text.ofNat line).length ≤ Numeral.digitLimit
  column_short : (Text.ofNat column).length ≤ Numeral.digitLimit

/-- A further line of a message, with the white space before it. -/
structure Continuation where
  indent : Text
  text : Text
  indented : indent ≠ []
  margin : indent.all (fun char => char == ' ' || char == '\t') = true
  nonempty : text ≠ []
  unbroken : text.Unbroken
  stripped : text.Stripped

/-- A message of the compiler as it is printed. -/
structure Report where
  place : Option Place
  severity : Severity
  code : Nat
  message : Text
  continuation : List Continuation
  code_short : (Text.ofNat code).length ≤ Numeral.digitLimit
  unbroken : message.Unbroken
  stripped : message.Stripped
  placeless : place = none → ¬ placeEnd <:+: message

/-- The place as it stands after its path. -/
def Place.suffix (place : Place) : Text :=
  '(' :: Text.ofNat place.line ++ ',' :: Text.ofNat place.column ++ placeEnd ++ [' ']

namespace Report

/-- Severity and code, up to the message. -/
def label (report : Report) : Text :=
  report.severity.name ++ " TS".toList ++ Text.ofNat report.code ++ [':', ' ']

/-- The first line of a report. -/
def heading (report : Report) : Text :=
  match report.place with
  | none => report.label ++ report.message
  | some place => place.path ++ place.suffix ++ report.label ++ report.message

/-- The lines of a report. -/
def lines (report : Report) : List Text :=
  report.heading :: report.continuation.map fun further => further.indent ++ further.text

/-- A report as it is printed: every line is ended by a line feed. -/
def print (report : Report) : Text := report.lines.flatMap (· ++ ['\n'])

/-- The diagnostic that a report stands for. -/
def diagnostic (report : Report) : Diagnostic where
  message := report.severity.capitalized ++ " TS".toList ++ Text.ofNat report.code ++
    [':', ' '] ++ Text.join ['\n'] (report.message :: report.continuation.map (·.text))
  path := (report.place.map (·.path)).getD []
  line := ((report.place.map (·.line)).getD 0 : Nat)
  column := ((report.place.map (·.column)).getD 0 : Nat)
  severity := report.severity.name
  code := some report.code

end Report

/-- A literal is read off the start of a text. -/
@[simp]
theorem after?_append (literal rest : Text) : after? literal (literal ++ rest) = some rest := by
  simp [after?]

/-- What a literal was read off starts with it. -/
theorem after?_eq_some {literal text rest : Text} (found : after? literal text = some rest) :
    text = literal ++ rest := by
  rw [after?] at found
  split at found
  · next starts =>
    obtain ⟨more, rfl⟩ := List.isPrefixOf_iff_prefix.mp starts
    rw [← Option.some.inj found, List.drop_left]
  · cases found

/-- A numeral is read up to a character that is no digit. -/
theorem digits?_ofNat (number : Nat) {next : Char} (rest : Text)
    (ends : Text.isDecimalDigit next = false) :
    digits? (Text.ofNat number ++ next :: rest) = some (Text.ofNat number, next :: rest) := by
  have digits : ∀ char ∈ Text.ofNat number, Text.isDecimalDigit char = true :=
    fun char occurs => Text.isDecimalDigit_of_mem_ofNat occurs
  rw [digits?, List.span_eq_takeWhile_dropWhile, List.takeWhile_append_of_pos digits,
    List.dropWhile_append_of_pos digits]
  simp only [List.takeWhile_cons, ends, List.dropWhile_cons, Bool.false_eq_true, ↓reduceIte,
    List.append_nil]
  cases first : Text.ofNat number with
  | nil => exact absurd first (Text.ofNat_ne_nil number)
  | cons _ _ => rfl

/-- Digits that are read stand at the start, and nothing but digits is read. -/
theorem digits?_eq_some {text digits rest : Text} (found : digits? text = some (digits, rest)) :
    text = digits ++ rest ∧ ∀ char ∈ digits, Text.isDecimalDigit char = true := by
  rw [digits?, List.span_eq_takeWhile_dropWhile] at found
  split at found
  · cases found
  · cases found
    exact ⟨List.takeWhile_append_dropWhile.symm, List.all_eq_true.mp List.all_takeWhile⟩

/-- Every severity is read off the start of a text that it starts. -/
theorem severity?_name (severity : Severity) (rest : Text) :
    severity? (severity.name ++ rest) = some (severity, rest) := by
  cases severity <;> rfl

/-- No white space comes off a severity. -/
theorem stripStart_name (severity : Severity) (rest : Text) :
    Text.stripStart (severity.name ++ rest) = severity.name ++ rest := by
  cases severity <;> rfl

/-- Severity, code and message are read back. -/
theorem body?_of_parts (severity : Severity) (code : Nat) {message tail : Text}
    (stripped : Text.stripStart tail = message) :
    body? (severity.name ++ (" TS".toList ++ (Text.ofNat code ++ ':' :: tail))) =
      some ⟨severity, Text.ofNat code, message⟩ := by
  have blank : ∀ rest, afterBlanks? (" TS".toList ++ rest) = some (['T', 'S'] ++ rest) :=
    fun rest => rfl
  have colon : after? [':'] (':' :: tail) = some tail := after?_append [':'] tail
  simp only [body?, Option.bind_eq_bind, severity?_name, Option.bind_some, blank, after?_append,
    digits?_ofNat code tail (by decide : Text.isDecimalDigit ':' = false), colon, stripped]
  rfl

/-- A place is read back, whatever path was passed before it. -/
theorem located?_suffix (passed : Text) (place : Place) (severity : Severity) {rest : Text}
    {body : Body} (read : body? (severity.name ++ rest) = some body) :
    located? passed (place.suffix ++ (severity.name ++ rest)) =
      some ⟨passed.reverse, Text.ofNat place.line, Text.ofNat place.column, body⟩ := by
  have parts : place.suffix ++ (severity.name ++ rest) = ['('] ++ (Text.ofNat place.line ++
      ',' :: (Text.ofNat place.column ++ ')' :: ':' :: ' ' :: (severity.name ++ rest))) := by
    simp [Place.suffix, placeEnd]
  have comma : ∀ text, after? [','] (',' :: text) = some text := after?_append [',']
  have ending : ∀ text, after? [')', ':'] (')' :: ':' :: text) = some text :=
    after?_append [')', ':']
  have blank : afterBlanks? (' ' :: (severity.name ++ rest)) = some (severity.name ++ rest) := by
    rw [afterBlanks?, if_pos (by decide), stripStart_name]
  simp only [parts, located?, Option.bind_eq_bind, after?_append, Option.bind_some,
    digits?_ofNat place.line _ (by decide : Text.isDecimalDigit ',' = false), comma,
    digits?_ofNat place.column _ (by decide : Text.isDecimalDigit ')' = false), ending, blank, read]
  rfl

/-- Where a place is read there is one: an opening parenthesis, something without another one,
and the end of a place. -/
theorem located?_eq_some {passed text : Text} {heading : Heading}
    (found : located? passed text = some heading) :
    ∃ inner rest, text = '(' :: (inner ++ placeEnd ++ rest) ∧ '(' ∉ inner := by
  simp only [located?, Option.bind_eq_bind, Option.bind_eq_some_iff] at found
  obtain ⟨opened, parenthesis, ⟨line, afterLine⟩, lines, columned, comma, ⟨column, afterColumn⟩,
    columns, ended, ending, _⟩ := found
  obtain rfl := after?_eq_some parenthesis
  obtain ⟨rfl, lineDigits⟩ := digits?_eq_some lines
  obtain rfl := after?_eq_some comma
  obtain ⟨rfl, columnDigits⟩ := digits?_eq_some columns
  obtain rfl := after?_eq_some ending
  refine ⟨line ++ ',' :: column, ended, by simp [placeEnd], ?_⟩
  intro occurs
  rcases List.mem_append.mp occurs with digit | rest
  · exact absurd (lineDigits _ digit) (by decide)
  · rcases List.mem_cons.mp rest with comma | digit
    · cases comma
    · exact absurd (columnDigits _ digit) (by decide)

/-- Where a place is found on a line, the end of one stands on it. -/
theorem findLocated?_eq_some {passed line : Text} {heading : Heading}
    (found : findLocated? passed line = some heading) : placeEnd <:+: line := by
  induction line generalizing passed with
  | nil => cases found
  | cons first rest inductionHypothesis =>
    rw [findLocated?] at found
    split at found
    · next here =>
      split at here
      · cases here
      · obtain ⟨inner, more, whole, _⟩ := located?_eq_some here
        exact ⟨'(' :: inner, more, by simp [whole]⟩
    · exact (inductionHypothesis found).trans (List.suffix_cons first rest).isInfix

/-- Something without an opening parenthesis ends before one, and so does the end of a place
right after it. -/
theorem placeEnd_infix {path text inner more : Text} (single : '(' ∉ inner)
    (whole : path ++ '(' :: text = inner ++ placeEnd ++ more) : placeEnd <:+: path := by
  rcases List.append_eq_append_iff.mp whole with ⟨beyond, longer, after⟩ | ⟨left, within, _⟩
  · cases beyond with
    | nil =>
      rw [List.append_nil] at longer
      exact ⟨inner, [], by rw [List.append_nil, longer]⟩
    | cons next _ =>
      obtain ⟨rfl, _⟩ := List.cons.inj after
      have second : '(' ∈ inner ++ placeEnd := by
        rw [longer]
        exact List.mem_append_right path List.mem_cons_self
      rcases List.mem_append.mp second with inInner | inEnd
      · exact absurd inInner single
      · exact absurd inEnd (by decide)
  · exact ⟨inner, left, within.symm⟩

/-- No place starts in a path and ends after it, so the place after the path is the first
that is found. -/
theorem findLocated?_path (passed : Text) {path text : Text} {heading : Heading}
    (named : passed ++ path ≠ []) (plain : ¬ placeEnd <:+: path)
    (read : located? (path.reverse ++ passed) ('(' :: text) = some heading) :
    findLocated? passed (path ++ '(' :: text) = some heading := by
  induction path generalizing passed with
  | nil =>
    have passedSome : passed ≠ [] := by simpa using named
    simp only [List.reverse_nil, List.nil_append] at read ⊢
    simp [findLocated?, passedSome, read]
  | cons first rest inductionHypothesis =>
    have sooner : located? passed (first :: (rest ++ '(' :: text)) = none := by
      apply Option.eq_none_iff_forall_ne_some.mpr
      intro other found
      obtain ⟨inner, more, whole, single⟩ := located?_eq_some found
      have ends := placeEnd_infix single (List.cons.inj whole).2
      exact plain (ends.trans (List.suffix_cons first rest).isInfix)
    rw [List.cons_append, findLocated?]
    simp only [sooner, ite_self]
    apply inductionHypothesis
    · simp
    · intro occurs
      exact plain (occurs.trans (List.suffix_cons first rest).isInfix)
    · simpa using read

/-- Behind a text without a closing parenthesis the end of a place can only stand whole. -/
theorem placeEnd_infix_append {front text : Text} (plain : ')' ∉ front)
    (occurs : placeEnd <:+: front ++ text) : placeEnd <:+: text := by
  rcases List.infix_append_iff.mp occurs with inside | behind | ⟨first, second, split, ends, starts⟩
  · exact absurd (inside.subset (by simp [placeEnd])) plain
  · exact behind
  · cases first with
    | nil =>
      rw [split]
      exact starts.isInfix
    | cons next _ =>
      obtain ⟨rfl, _⟩ := List.cons.inj split
      exact absurd (ends.subset List.mem_cons_self) plain

namespace Report

/-- What is read on the first line of a report. -/
def parts (report : Report) : Heading where
  path := (report.place.map (·.path)).getD []
  line := (report.place.map fun place => Text.ofNat place.line).getD []
  column := (report.place.map fun place => Text.ofNat place.column).getD []
  body := ⟨report.severity, Text.ofNat report.code, report.message⟩

/-- The first line of a report from its severity on. -/
theorem label_append (report : Report) (text : Text) :
    report.label ++ text = report.severity.name ++
      (" TS".toList ++ (Text.ofNat report.code ++ ':' :: ' ' :: text)) := by
  simp [label]

/-- A label has no characters but those of a severity and a code. -/
theorem forall_mem_label (report : Report) (test : Char → Bool)
    (names : ∀ severity : Severity, severity.name.all test = true)
    (signs : " TS: ".toList.all test = true)
    (digits : ∀ char, char.isDigit = true → test char = true) :
    ∀ char ∈ report.label, test char = true := by
  intro char occurs
  rw [← List.append_nil report.label, label_append] at occurs
  rcases List.mem_append.mp occurs with inName | rest
  · exact List.all_eq_true.mp (names _) char inName
  · rcases List.mem_append.mp rest with inMark | rest
    · exact List.all_eq_true.mp signs char (List.mem_append_left [':', ' '] inMark)
    · rcases List.mem_append.mp rest with inCode | inEnd
      · exact digits char (Text.isDigit_of_mem_ofNat inCode)
      · exact List.all_eq_true.mp signs char (List.mem_append_right " TS".toList inEnd)

/-- The label and the message are read back, also if the line is stripped before. Without a
message the blank after the colon comes off then. -/
theorem body?_label_append (report : Report) :
    body? (report.label ++ report.message) = some report.parts.body ∧
      body? (Text.strip (report.label ++ report.message)) = some report.parts.body := by
  have blank : Text.stripStart (' ' :: report.message) = report.message :=
    report.stripped.stripStart_eq
  have ended : ∃ tail, Text.stripEnd (':' :: ' ' :: report.message) = ':' :: tail ∧
      Text.stripStart tail = report.message := by
    by_cases empty : report.message = []
    · rw [empty]
      exact ⟨[], by decide, rfl⟩
    · have whole := report.stripped.stripEnd_eq
      refine ⟨' ' :: report.message, ?_, blank⟩
      have kept := Text.stripEnd_append [':', ' '] (whole ▸ empty)
      rwa [whole] at kept
  obtain ⟨tail, ending, message⟩ := ended
  rw [label_append]
  refine ⟨body?_of_parts _ _ blank, ?_⟩
  rw [Text.strip, stripStart_name, ← List.append_assoc, ← List.append_assoc,
    Text.stripEnd_append _ (by rw [ending]; exact List.cons_ne_nil _ _), ending, List.append_assoc,
    List.append_assoc]
  exact body?_of_parts _ _ message

/-- The first line of a report is read back. -/
theorem heading?_heading (report : Report) : heading? report.heading = some report.parts := by
  obtain ⟨whole, stripped⟩ := report.body?_label_append
  cases placed : report.place with
  | none =>
    have label_plain : ')' ∉ report.label := by
      have others := report.forall_mem_label (· != ')') (by rintro ⟨⟩ <;> rfl) rfl (by
        intro char digit
        apply bne_iff_ne.mpr
        rintro rfl
        cases digit)
      intro occurs
      exact absurd (others ')' occurs) (by decide)
    have nowhere : findLocated? [] (report.label ++ report.message) = none := by
      apply Option.eq_none_iff_forall_ne_some.mpr
      intro other found
      exact report.placeless placed (placeEnd_infix_append label_plain (findLocated?_eq_some found))
    simp only [heading?, heading, placed, nowhere, stripped]
    simp [parts, placed]
  | some place =>
    have read : located? (place.path.reverse ++ [])
        (place.suffix ++ (report.label ++ report.message)) = some report.parts := by
      rw [label_append] at whole ⊢
      rw [located?_suffix _ place report.severity whole]
      simp [parts, placed]
    have found : findLocated? [] (place.path ++ (place.suffix ++ (report.label ++ report.message))) =
        some report.parts := findLocated?_path [] place.named place.endless read
    simp only [heading?, heading, placed, List.append_assoc, found]

/-- The diagnostic that is being read after the first line of a report. -/
def pending (report : Report) : Pending where
  heading := report.parts
  code := report.code
  line := (report.place.map (·.line)).getD 0
  column := (report.place.map (·.column)).getD 0
  continuation := []

/-- The numbers of a report are read back. Without a place there are no digits, which is
read as zero. -/
theorem pendingOf_parts (report : Report) : pendingOf report.parts = .ok report.pending := by
  have code := Numeral.ofDigits_ofNat report.code_short
  have read : Numeral.ofDigits report.parts.line = .ok report.pending.line ∧
      Numeral.ofDigits report.parts.column = .ok report.pending.column := by
    cases placed : report.place with
    | none =>
      have zero : Numeral.ofDigits [] = .ok 0 := rfl
      simp [parts, pending, placed, zero]
    | some place =>
      simp [parts, pending, placed, Numeral.ofDigits_ofNat place.line_short,
        Numeral.ofDigits_ofNat place.column_short]
  rw [pendingOf, read.1, read.2, show report.parts.body.code = Text.ofNat report.code from rfl, code]
  rfl

/-- With all further lines the diagnostic of the report has been read. -/
theorem finish_pending (report : Report) :
    Pending.finish { report.pending with
      continuation := (report.continuation.map (·.text)).reverse } = report.diagnostic := by
  simp [Pending.finish, pending, parts, diagnostic]

/-- The first line of a report continues nothing. -/
theorem continues_heading (report : Report) : continues report.heading = false := by
  cases placed : report.place with
  | none =>
    simp only [heading, placed, label_append]
    cases report.severity <;> rfl
  | some place =>
    obtain ⟨unspaced, untabbed⟩ := place.flush
    cases path : place.path with
    | nil => exact absurd path place.named
    | cons first rest =>
      simp only [path, List.head?_cons, ne_eq, Option.some.injEq] at unspaced untabbed
      simp [heading, placed, path, continues, unspaced, untabbed]

/-- The first line of a report is one line. -/
theorem unbroken_heading (report : Report) : report.heading.Unbroken := by
  have digit : ∀ char : Char, char.isDigit = true → Text.isLineBoundary char = false :=
    fun _ => Text.isLineBoundary_of_isDigit
  have label : report.label.Unbroken := by
    have others := report.forall_mem_label (fun char => !Text.isLineBoundary char)
      (by rintro ⟨⟩ <;> rfl) rfl (fun char isDigit => by rw [digit char isDigit]; rfl)
    apply Text.unbroken_iff.mpr
    intro char occurs
    exact Bool.not_eq_true' _ |>.mp (others char occurs)
  cases placed : report.place with
  | none =>
    simp only [heading, placed]
    exact label.append report.unbroken
  | some place =>
    have number : ∀ number, (Text.ofNat number).Unbroken := by
      intro number
      exact Text.unbroken_iff.mpr fun char occurs => digit char (Text.isDigit_of_mem_ofNat occurs)
    have suffix : place.suffix = ['('] ++ Text.ofNat place.line ++ [','] ++
        Text.ofNat place.column ++ [')', ':', ' '] := by
      simp [Place.suffix, placeEnd]
    have closed : place.suffix.Unbroken := by
      have opening : Text.Unbroken ['('] := rfl
      have comma : Text.Unbroken [','] := rfl
      have ending : Text.Unbroken [')', ':', ' '] := rfl
      rw [suffix]
      exact (((opening.append (number _)).append comma).append (number _)).append ending
    simp only [heading, placed]
    exact ((place.unbroken.append closed).append label).append report.unbroken

end Report

/-- A further line is indented by spaces and tabs. -/
theorem Continuation.eq_of_mem_indent (further : Continuation) {char : Char}
    (occurs : char ∈ further.indent) : char = ' ' ∨ char = '\t' := by
  simpa using List.all_eq_true.mp further.margin char occurs

/-- A further line is taken for one, and its text is what is left without white space. -/
theorem Continuation.continues (further : Continuation) :
    Diagnostic.continues (further.indent ++ further.text) = true ∧
      Text.strip (further.indent ++ further.text) = further.text := by
  have blank : ∀ char ∈ further.indent, Text.isBlank char = true := by
    intro char occurs
    rcases further.eq_of_mem_indent occurs with rfl | rfl <;> decide
  have stripped : Text.strip (further.indent ++ further.text) = further.text := by
    rw [Text.strip_append blank]
    exact further.stripped
  refine ⟨?_, stripped⟩
  cases indent : further.indent with
  | nil => exact absurd indent further.indented
  | cons first rest =>
    have margin := further.eq_of_mem_indent (indent ▸ List.mem_cons_self)
    rw [indent, List.cons_append] at stripped
    rw [List.cons_append]
    simp [Diagnostic.continues, margin, stripped, further.nonempty]

/-- Further lines are gathered, the last one first. -/
theorem collect_continuations (current : Pending) (further : List Continuation)
    (rest : List Text) :
    collect (some current) (further.map (fun line => line.indent ++ line.text) ++ rest) =
      collect (some { current with
        continuation := (further.map (·.text)).reverse ++ current.continuation }) rest := by
  induction further generalizing current with
  | nil => rfl
  | cons line more inductionHypothesis =>
    obtain ⟨continued, stripped⟩ := line.continues
    simp only [List.map_cons, List.cons_append, collect, continued, stripped, inductionHypothesis]
    simp

/-- A heading ends the diagnostic before it and starts its own. -/
theorem collect_heading {line : Text} {heading : Heading} {next : Pending} {rest : List Text}
    {more : List Diagnostic} (current : Option Pending) (flush : continues line = false)
    (read : heading? line = some heading) (numbers : pendingOf heading = .ok next)
    (followed : collect (some next) rest = .ok more) :
    collect current (line :: rest) = .ok (current.toList.map Pending.finish ++ more) := by
  rw [collect]
  · rw [read]
    simp only [numbers, bind, Except.bind, followed]
    rfl
  · intro _ _ continued
    rw [flush] at continued
    cases continued

/-- The lines of reports are read as their diagnostics, after the one that is being read. -/
theorem collect_lines (reports : List Report) (current : Option Pending) :
    collect current (reports.flatMap Report.lines) =
      .ok (current.toList.map Pending.finish ++ reports.map Report.diagnostic) := by
  induction reports generalizing current with
  | nil => simp [collect]
  | cons report more inductionHypothesis =>
    rw [List.flatMap_cons, Report.lines, List.cons_append]
    apply collect_heading current report.continues_heading report.heading?_heading
      report.pendingOf_parts
    rw [collect_continuations, inductionHypothesis, List.map_cons, ← report.finish_pending]
    simp [Report.pending]

/-- Printed lines without boundaries are the lines of the text. -/
theorem lines_flatMap {list : List Text} (unbroken : ∀ line ∈ list, line.Unbroken) :
    Text.lines (list.flatMap (· ++ ['\n'])) = list := by
  induction list with
  | nil => rfl
  | cons line rest inductionHypothesis =>
    rw [List.flatMap_cons, List.append_assoc, List.singleton_append,
      Text.lines_append_newline (unbroken line List.mem_cons_self),
      inductionHypothesis fun other listed => unbroken other (List.mem_cons_of_mem line listed)]

/-- Each line of a report is one line. -/
theorem Report.unbroken_lines (report : Report) : ∀ line ∈ report.lines, line.Unbroken := by
  intro line listed
  rcases List.mem_cons.mp listed with rfl | listed
  · exact report.unbroken_heading
  · obtain ⟨further, _, rfl⟩ := List.mem_map.mp listed
    refine Text.Unbroken.append (Text.unbroken_iff.mpr ?_) further.unbroken
    intro char occurs
    rcases further.eq_of_mem_indent occurs with rfl | rfl <;> decide

/-- What reports print is read as their diagnostics, in order. -/
theorem parse_print (reports : List Report) :
    parse (reports.flatMap Report.print) = .ok (reports.map Report.diagnostic) := by
  have printed : reports.flatMap Report.print =
      (reports.flatMap Report.lines).flatMap (· ++ ['\n']) := by
    rw [List.flatMap_assoc]
    rfl
  have unbroken : ∀ line ∈ reports.flatMap Report.lines, line.Unbroken := by
    intro line listed
    obtain ⟨report, _, inside⟩ := List.mem_flatMap.mp listed
    exact report.unbroken_lines line inside
  rw [parse, printed, lines_flatMap unbroken, collect_lines]
  rfl

/-- Two reports: one whose path looks like a place and that has a further line, and one
without a place and without a message. -/
theorem parse_print_mixed :
    ∃ reports : List Report,
      reports.flatMap Report.print =
        "a(1,2)(3,14): error TS2322: Bad (1,2): error TS1: x\n \t y\nwarning TS6: \n".toList ∧
      parse (reports.flatMap Report.print) = .ok
        [⟨"Error TS2322: Bad (1,2): error TS1: x\ny".toList, "a(1,2)".toList, 3, 14,
            "error".toList, some 2322⟩,
          ⟨"Warning TS6: ".toList, [], 0, 0, "warning".toList, some 6⟩] := by
  let place : Place :=
    ⟨"a(1,2)".toList, 3, 14, by decide, rfl, by decide, by decide, by decide, by decide⟩
  let further : Continuation := ⟨" \t ".toList, "y".toList, by decide, rfl, by decide, rfl, rfl⟩
  let located : Report := ⟨some place, .error, 2322, "Bad (1,2): error TS1: x".toList, [further],
    by decide, rfl, rfl, nofun⟩
  let bare : Report := ⟨none, .warning, 6, [], [], by decide, rfl, rfl, by decide⟩
  have shown : [located, bare].map Report.diagnostic =
      [⟨"Error TS2322: Bad (1,2): error TS1: x\ny".toList, "a(1,2)".toList, 3, 14,
          "error".toList, some 2322⟩,
        ⟨"Warning TS6: ".toList, [], 0, 0, "warning".toList, some 6⟩] := by decide
  exact ⟨[located, bare], by decide, shown ▸ parse_print [located, bare]⟩

end RegionBuild.Diagnostic
