import RegionBuild.Proofs.Region.Modes
import RegionBuild.Proofs.Region.Operands

/-!
# What holds between two characters of a scan

Outside every region the draft ends with all that was read above the floor, so the
characters of a prologue that is just completed are the last ones of the draft. Taking
the prologue back therefore restores the draft to what it was before the prologue, and
it stays so for the whole of a region that is not kept.

The floor is what makes this true. A closing brace that was read inside a region is not
in the draft, and a prologue may start with a brace. Tokens above the floor hold no
such character.
-/

namespace RegionBuild.Region

/-- Taking back the end of a draft leaves what stands before it. -/
theorem Draft.drop_toText {draft : Draft} {first second : Text}
    (drafted : draft.toText = first ++ second) :
    (draft.drop second.length).toText = first := by
  have reversed : draft.reversed = second.reverse ++ first.reverse := by
    rw [← List.reverse_append, ← drafted, toText, List.reverse_reverse]
  rw [toText, drop, reversed, List.drop_left' List.length_reverse, List.reverse_reverse]

namespace Tracker

/-- Following a character leaves the floor at or below what was read. -/
theorem read_grounded {tracker : Tracker} (grounded : tracker.Grounded) (stringAware : Bool)
    (char : Char) : (tracker.read stringAware char).1.Grounded :=
  ((SameHalfToken.refl grounded).read stringAware char).1.leftGrounded

/-- A tracker that does not follow literals is never in one. -/
theorem read_literalFree {tracker : Tracker} (free : tracker.context.literalFree = true)
    (char : Char) : (tracker.read false char).1.context.literalFree = true := by
  have pushed : (tracker.push char).context = tracker.context := rfl
  cases context : tracker.context with
  | code =>
    obtain ⟨depth, plain⟩ := (tracker.push char).advancePlain_fst char
    rw [read_unaware context]
    split
    · rfl
    · split
      · rfl
      · rw [plain, pushed, context]
        rfl
  | lineComment =>
    rw [read, advance, pushed, context]
    dsimp only
    split
    · rfl
    · rw [pushed, context]
      rfl
  | blockComment =>
    rw [read, advance, pushed, context]
    dsimp only
    split
    · rfl
    · rw [pushed, context]
      rfl
  | quoted quote escaped => rw [context] at free; cases free
  | regex length escaped inClass => rw [context] at free; cases free

/-- The window is what was read from the floor on. -/
theorem window_reverse {tracker : Tracker} (grounded : tracker.Grounded) :
    tracker.window.reverse = tracker.consumed.toText.drop tracker.floor := by
  rw [window, TailBuffer.toText, List.reverse_take, ← TailBuffer.size_eq,
    Nat.sub_sub_self grounded]

end Tracker

namespace Scan

/-- What a scan has put out after a text. -/
def shownAfter (rules : Rules) (kept : Kind) (text : Text) : Text :=
  (start.run rules kept text).draft.toText

/-- What holds after every text. The draft is described by what was put out at an earlier
position: outside it may be any position from the floor on, inside it is the start of the
region's prologue. -/
structure Sound (rules : Rules) (kept : Kind) (text : Text) (scan : Scan) : Prop where
  reached : start.run rules kept text = scan
  grounded : scan.tracker.Grounded
  outside : scan.region = none → scan.tracker.context = .code ∧ scan.tracker.depth = 0
  inside : scan.region ≠ none → scan.tracker.Ongoing
  unaware : rules.stringAware = false → scan.tracker.context.literalFree = true
  copied : scan.region = none → ∀ position, scan.tracker.floor ≤ position →
    position ≤ text.length →
    scan.draft.toText = shownAfter rules kept (text.take position) ++ text.drop position
  opened : ∀ region, scan.region = some region →
    rules.prologue region.kind <+: text.drop region.start ∧
      scan.draft.toText = shownAfter rules kept (text.take region.start) ++
        region.kind.shown kept (text.drop (region.start + (rules.prologue region.kind).length))

/-- Nothing read. -/
theorem start_sound (rules : Rules) (kept : Kind) : Sound rules kept [] start where
  reached := rfl
  grounded := Nat.le_refl 0
  outside _ := ⟨rfl, rfl⟩
  inside opened := absurd rfl opened
  unaware _ := rfl
  copied _ position _ _ := by simp [shownAfter, run]
  opened _ opened := by cases opened

namespace Sound

variable {rules : Rules} {kept : Kind} {text : Text} {scan : Scan}

/-- The tracker's record is the text that was read. -/
theorem consumed (sound : Sound rules kept text scan) : scan.tracker.consumed.toText = text := by
  rw [← sound.reached, run_consumed, TailBuffer.push_toText]
  rfl

/-- The tracker counts the characters that were read. -/
theorem size (sound : Sound rules kept text scan) : scan.tracker.consumed.size = text.length := by
  rw [← sound.consumed, TailBuffer.size_eq, TailBuffer.toText, List.length_reverse]

/-- The next character leads to the state after the longer text. -/
theorem reached_step (sound : Sound rules kept text scan) (char : Char) :
    start.run rules kept (text ++ [char]) = scan.step rules kept char := by
  rw [run_concat, sound.reached]

/-- The draft after a text is what was put out at its end, with nothing behind it. -/
theorem shown_end (reached : start.run rules kept text = scan) {position : Nat}
    (atEnd : text.length ≤ position) :
    scan.draft.toText = shownAfter rules kept (text.take position) ++ text.drop position := by
  rw [List.take_of_length_le atEnd, List.drop_eq_nil_of_le atEnd, List.append_nil, shownAfter,
    reached]

/-- A character that completes no prologue is copied. -/
theorem step_outside (sound : Sound rules kept text scan) (char : Char)
    (outside : scan.region = none) (quiet : rules.opened? (scan.tracker.push char) = none) :
    Sound rules kept (text ++ [char]) (scan.step rules kept char) := by
  have reached := sound.reached_step char
  rw [Scan.step_outside rules kept scan char outside quiet] at reached ⊢
  refine ⟨reached, Nat.le_succ_of_le sound.grounded, fun _ => sound.outside outside,
    fun opened => absurd outside opened, sound.unaware, ?_, fun region opened => ?_⟩
  · intro _ position above _
    rcases Nat.lt_or_ge text.length position with last | earlier
    · exact shown_end reached (by rw [List.length_append]; exact last)
    · have before := sound.copied outside position above earlier
      rw [List.take_append_of_le_length earlier, List.drop_append_of_le_length earlier,
        ← List.append_assoc, ← before]
      exact Draft.push_toText scan.draft [char]
  · rw [outside] at opened
    cases opened

/-- A completed prologue ends the text, and it ends the draft as well. What stands before
it reaches up to the floor at least, and the draft is known from there on. -/
theorem prologue_drafted (sound : Sound rules kept text scan) (proper : rules.Proper)
    {char : Char} {kind : Kind} (outside : scan.region = none)
    (opened : rules.opened? (scan.tracker.push char) = some kind) :
    ∃ lead, text ++ [char] = lead ++ rules.prologue kind ∧
      (scan.draft.pushChar char).toText = shownAfter rules kept lead ++ rules.prologue kind := by
  have floor : scan.tracker.floor ≤ text.length := sound.size ▸ sound.grounded
  have window : (scan.tracker.push char).window.reverse =
      text.drop scan.tracker.floor ++ [char] := by
    rw [Tracker.window_push _ sound.grounded, List.reverse_cons,
      Tracker.window_reverse sound.grounded, sound.consumed]
  rw [Rules.opened?_eq proper, window] at opened
  obtain ⟨between, above⟩ := (Rules.endedBy?_eq_some opened).1
  have whole : text ++ [char] =
      (text.take scan.tracker.floor ++ between) ++ rules.prologue kind := by
    rw [List.append_assoc, above, ← List.append_assoc, List.take_append_drop]
  have lengths := congrArg List.length whole
  have positive := List.length_pos_iff.mpr (proper.prologue_ne_nil kind)
  obtain ⟨lead, reaches⟩ : ∃ lead, text.take scan.tracker.floor ++ between = lead := ⟨_, rfl⟩
  have above : scan.tracker.floor ≤ lead.length := by
    rw [← reaches, List.length_append, List.length_take_of_le floor]
    exact Nat.le_add_right _ _
  rw [reaches] at whole lengths
  simp only [List.length_append, List.length_singleton] at lengths
  have short : lead.length ≤ text.length := by omega
  have start : text.take lead.length = lead := by
    rw [← List.take_append_of_le_length short, whole, List.take_left]
  have tail : text.drop lead.length ++ [char] = rules.prologue kind := by
    rw [← List.drop_append_of_le_length short, whole, List.drop_left]
  have drafted := sound.copied outside lead.length above short
  refine ⟨lead, whole, ?_⟩
  calc (scan.draft.pushChar char).toText
      = scan.draft.toText ++ [char] := Draft.push_toText scan.draft [char]
    _ = shownAfter rules kept lead ++ (text.drop lead.length ++ [char]) := by
      rw [drafted, start, List.append_assoc]
    _ = shownAfter rules kept lead ++ rules.prologue kind := by rw [tail]

/-- A completed prologue is taken back, and nothing else. -/
theorem step_opening (sound : Sound rules kept text scan) (proper : rules.Proper) (char : Char)
    (kind : Kind) (outside : scan.region = none)
    (opened : rules.opened? (scan.tracker.push char) = some kind) :
    Sound rules kept (text ++ [char]) (scan.step rules kept char) := by
  obtain ⟨lead, whole, drafted⟩ := sound.prologue_drafted proper outside opened
  have reached := sound.reached_step char
  rw [Scan.step_opening rules kept scan char kind outside opened] at reached ⊢
  have position : scan.tracker.consumed.size + 1 - (rules.prologue kind).length = lead.length := by
    have lengths := congrArg List.length whole
    simp only [List.length_append, List.length_singleton] at lengths
    rw [sound.size]
    omega
  refine ⟨reached, Nat.le_refl _, fun closed => absurd closed (Option.some_ne_none _),
    fun _ => ⟨Nat.zero_lt_one, Tracker.fresh_ongoing.worded⟩, fun _ => rfl,
    fun closed => absurd closed (Option.some_ne_none _), fun region entered => ?_⟩
  obtain rfl : ⟨kind, scan.tracker.consumed.size + 1 - (rules.prologue kind).length⟩ = region :=
    Option.some.inj entered
  dsimp only
  rw [position, whole, List.drop_left, List.take_left, ← List.length_append, List.drop_length,
    Kind.shown, ite_self, List.append_nil]
  exact ⟨List.prefix_rfl, Draft.drop_toText drafted⟩

/-- A character inside a region is put out only if the region is kept. -/
theorem step_inside (sound : Sound rules kept text scan) (proper : rules.Proper) (char : Char)
    (region : OpenRegion) (inside : scan.region = some region)
    (goesOn : (scan.tracker.read rules.stringAware char).2 = false) :
    Sound rules kept (text ++ [char]) (scan.step rules kept char) := by
  have reached := sound.reached_step char
  obtain ⟨stands, drafted⟩ := sound.opened region inside
  have stillOpen : scan.region ≠ none := by simp [inside]
  have short : region.start + (rules.prologue region.kind).length ≤ text.length := by
    have positive := List.length_pos_iff.mpr (proper.prologue_ne_nil region.kind)
    have room := stands.length_le
    rw [List.length_drop] at room
    omega
  rw [Scan.step_inside rules kept scan char region inside goesOn] at reached ⊢
  refine ⟨reached, Tracker.read_grounded sound.grounded _ char,
    fun outside => absurd outside stillOpen,
    fun _ => (sound.inside stillOpen).read _ char goesOn, fun unaware => ?_,
    fun outside => absurd outside stillOpen, fun other same => ?_⟩
  · rw [unaware]
    exact Tracker.read_literalFree (sound.unaware unaware) char
  · obtain rfl : region = other := Option.some.inj (inside.symm.trans same)
    rw [List.drop_append_of_le_length short, Kind.shown_append, ← List.append_assoc,
      List.take_append_of_le_length (by omega), ← drafted,
      List.drop_append_of_le_length (by omega)]
    exact ⟨stands.trans (List.prefix_append _ _), Draft.push_toText _ _⟩

/-- The closing brace is not put out, and tokens are matched behind it only. -/
theorem step_closing (sound : Sound rules kept text scan) (char : Char) (region : OpenRegion)
    (inside : scan.region = some region)
    (closed : (scan.tracker.read rules.stringAware char).2 = true) :
    Sound rules kept (text ++ [char]) (scan.step rules kept char) := by
  have reached := sound.reached_step char
  have behind : (scan.tracker.read rules.stringAware char).1.consumed.size =
      (text ++ [char]).length := by
    rw [Tracker.read_consumed, List.length_append, ← sound.size]
    rfl
  rw [Scan.step_closing rules kept scan char region inside closed] at reached ⊢
  refine ⟨reached, Nat.le_refl _, fun _ => ⟨rfl, rfl⟩, fun opened => absurd rfl opened,
    fun _ => rfl, fun _ position above _ => ?_,
    fun _ opened => absurd opened.symm (Option.some_ne_none _)⟩
  exact shown_end reached (behind ▸ above)

/-- Each of the four things that a character can do keeps the scan sound. -/
theorem step (sound : Sound rules kept text scan) (proper : rules.Proper) (char : Char) :
    Sound rules kept (text ++ [char]) (scan.step rules kept char) := by
  cases inside : scan.region with
  | none =>
    cases opened : rules.opened? (scan.tracker.push char) with
    | none => exact sound.step_outside char inside opened
    | some kind => exact sound.step_opening proper char kind inside opened
  | some region =>
    cases closed : (scan.tracker.read rules.stringAware char).2 with
    | true => exact sound.step_closing char region inside closed
    | false => exact sound.step_inside proper char region inside closed

end Sound

/-- A scan is sound after every text. -/
theorem run_sound {rules : Rules} (proper : rules.Proper) (kept : Kind) (text : Text) :
    Sound rules kept text (start.run rules kept text) := by
  induction text using List.reverseRecOn with
  | nil => exact start_sound rules kept
  | append_singleton text char inductionHypothesis =>
    rw [run_concat]
    exact inductionHypothesis.step proper char

end Scan

end RegionBuild.Region
