import RegionBuild.Proofs.Diagnostic.RoundTrip

/-!
# Outputs read one after the other

Reading keeps one diagnostic open, since a later line may still go on with it. A heading
closes it, and what is open then comes from the heading alone. So where an output starts with
a heading, nothing of what was read before reaches into it: put after another output, it adds
its own diagnostics, and a number that cannot be read is refused as it would be alone.

Both outputs may hold anything else: noise, blank lines, indented lines at the very start,
and every kind of line boundary. The first has to end its last line with a line feed.
-/

namespace RegionBuild.Diagnostic

/-- A line that does not go on with what is being read: nothing is, or the line is not
indented. -/
def Apart (pending : Option Pending) (line : Text) : Prop :=
  ∀ current, pending = some current → continues line = true → False

/-- A line apart that starts no diagnostic is passed over. -/
theorem Apart.collect_noise {pending : Option Pending} {line : Text} (apart : Apart pending line)
    (noise : heading? line = none) (rest : List Text) :
    collect pending (line :: rest) = collect pending rest := by
  rw [collect]
  · rw [noise]
  · exact apart

/-- A line apart that starts a diagnostic ends the one before. -/
theorem Apart.collect_start {pending : Option Pending} {line : Text} {heading : Heading}
    (apart : Apart pending line) (read : heading? line = some heading) (rest : List Text) :
    collect pending (line :: rest) = do
      let next ← pendingOf heading
      let more ← collect (some next) rest
      return pending.toList.map Pending.finish ++ more := by
  rw [collect]
  · rw [read]
  · exact apart

/-- What one line does: it goes on with what is being read, it is noise, or it starts a
diagnostic and ends the one before. -/
theorem collect_line (pending : Option Pending) (line : Text) :
    (∃ next, ∀ rest, collect pending (line :: rest) = collect (some next) rest) ∨
      (∀ rest, collect pending (line :: rest) = collect pending rest) ∨
      ∃ heading, ∀ rest, collect pending (line :: rest) = do
        let next ← pendingOf heading
        let more ← collect (some next) rest
        return pending.toList.map Pending.finish ++ more := by
  by_cases apart : Apart pending line
  · cases read : heading? line with
    | none => exact Or.inr (Or.inl (apart.collect_noise read))
    | some heading => exact Or.inr (Or.inr ⟨heading, apart.collect_start read⟩)
  · simp only [Apart, not_forall] at apart
    obtain ⟨current, rfl, continued, _⟩ := apart
    refine Or.inl ⟨{ current with continuation := Text.strip line :: current.continuation }, ?_⟩
    intro rest
    simp only [collect, continued]

/-- A line that starts a diagnostic wherever it stands: it is not indented, and it is a
heading with a location or, without white space around it, one without. -/
structure StartsDiagnostic (line : Text) : Prop where
  unspaced : line.head? ≠ some ' '
  untabbed : line.head? ≠ some '\t'
  reads : (findLocated? [] line).isSome = true ∨ (body? (Text.strip line)).isSome = true

/-- Such a line goes on with nothing. -/
theorem StartsDiagnostic.apart {line : Text} (starts : StartsDiagnostic line)
    (pending : Option Pending) :
    Apart pending line := by
  intro current _ continued
  cases line with
  | nil => cases continued
  | cons first rest =>
    have unspaced : first ≠ ' ' := fun space => starts.unspaced (congrArg some space)
    have untabbed : first ≠ '\t' := fun tab => starts.untabbed (congrArg some tab)
    simp [continues, unspaced, untabbed] at continued

/-- Such a line has a heading. -/
theorem StartsDiagnostic.exists_heading {line : Text} (starts : StartsDiagnostic line) :
    ∃ heading, heading? line = some heading := by
  rw [← Option.isSome_iff_exists, heading?]
  cases located : findLocated? [] line with
  | some heading => rfl
  | none =>
    rcases starts.reads with found | bare
    · rw [located] at found
      cases found
    · rw [Option.isSome_map]
      exact bare

/-- From a line that starts a diagnostic on, lines are read as if nothing were before.

Induct over the lines before, for every diagnostic that may be open. At the end the heading
closes what is open, which is all that a rest of nothing would have done. -/
theorem collect_append (pending : Option Pending) (front : List Text) {line : Text}
    (starts : StartsDiagnostic line) (rest : List Text) :
    collect pending (front ++ line :: rest) = do
      let before ← collect pending front
      let after ← collect none (line :: rest)
      return before ++ after := by
  induction front generalizing pending with
  | nil =>
    obtain ⟨heading, read⟩ := starts.exists_heading
    have ended : collect pending [] = pure (pending.toList.map Pending.finish) := rfl
    simp only [List.nil_append, (starts.apart pending).collect_start read,
      (starts.apart none).collect_start read, ended, Option.toList_none, List.map_nil, bind_assoc,
      pure_bind]
  | cons first more inductionHypothesis =>
    rw [List.cons_append]
    rcases collect_line pending first with ⟨next, continued⟩ | noise | ⟨heading, started⟩
    · rw [continued, continued]
      exact inductionHypothesis (some next)
    · rw [noise, noise]
      exact inductionHypothesis pending
    · simp only [started, inductionHypothesis, bind_assoc, pure_bind, List.append_assoc]

/-- An output that is empty or ends with a line feed is cut into lines before anything that
follows it. -/
theorem lines_append {output : Text} (ended : output = [] ∨ output.getLast? = some '\n')
    (other : Text) : Text.lines (output ++ other) = Text.lines output ++ Text.lines other := by
  rcases ended with rfl | last
  · rfl
  · obtain ⟨front, rfl⟩ := List.getLast?_eq_some_iff.mp last
    rw [List.append_assoc]
    exact Text.lines_newline front other

/-- Joined outputs have the diagnostics of the first and then those of the second, if the
first is empty or ends with a line feed and the second starts with a heading. If a number in
one of them cannot be read, it is refused, the first such number first. -/
theorem parse_append (output other line : Text) (rest : List Text)
    (ended : output = [] ∨ output.getLast? = some '\n')
    (first : Text.lines other = line :: rest) (starts : StartsDiagnostic line) :
    (∀ before after, parse output = .ok before → parse other = .ok after →
        parse (output ++ other) = .ok (before ++ after)) ∧
      (∀ fault, parse output = .error fault → parse (output ++ other) = .error fault) ∧
      ∀ before fault, parse output = .ok before → parse other = .error fault →
        parse (output ++ other) = .error fault := by
  have joined : parse (output ++ other) = do
      let before ← parse output
      let after ← parse other
      return before ++ after := by
    rw [parse, lines_append ended, first, collect_append none (Text.lines output) starts rest,
      ← first]
    rfl
  refine ⟨?_, ?_, ?_⟩
  · intro before after own others
    rw [joined, own, others]
    rfl
  · intro fault refused
    rw [joined, refused]
    rfl
  · intro before fault own refused
    rw [joined, own, refused]
    rfl

/-- An indented line and a blank one before the diagnostics of the first output, noise after
them, and a second output whose lines are parted by other boundaries. -/
theorem parse_append_noisy :
    parse ("  lost\n\na(1,2): error TS3: x\r\n\ty\nnoise\n".toList ++
        "warning TS4: z\x0b  w\x0cerror TS5:".toList) =
      .ok [⟨"Error TS3: x\ny".toList, "a".toList, 1, 2, "error".toList, some 3⟩,
        ⟨"Warning TS4: z\nw".toList, [], 0, 0, "warning".toList, some 4⟩,
        ⟨"Error TS5: ".toList, [], 0, 0, "error".toList, some 5⟩] := by
  have starts : StartsDiagnostic "warning TS4: z".toList :=
    ⟨by decide, by decide, Or.inr (by decide)⟩
  have joined := parse_append "  lost\n\na(1,2): error TS3: x\r\n\ty\nnoise\n".toList
    "warning TS4: z\x0b  w\x0cerror TS5:".toList "warning TS4: z".toList
    ["  w".toList, "error TS5:".toList] (Or.inr (by decide)) (by decide) starts
  exact joined.1 [⟨"Error TS3: x\ny".toList, "a".toList, 1, 2, "error".toList, some 3⟩]
    [⟨"Warning TS4: z\nw".toList, [], 0, 0, "warning".toList, some 4⟩,
      ⟨"Error TS5: ".toList, [], 0, 0, "error".toList, some 5⟩] (by decide) (by decide)

end RegionBuild.Diagnostic
