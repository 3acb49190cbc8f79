import RegionBuild.Proofs.Region.Registers

/-!
# The scan on registers

A draft takes back as much as it has, so that a scan which asked for more would lose
earlier output without a trace. The machine keeps its state in registers and stops where
more is asked for. It goes through every text together with the scan, and so it never
stops.

What holds of the scan between two characters is then stated of the machine, whose state
leaves room for it to fail.
-/

namespace RegionBuild.Region

/-- Take back characters, if the draft has as many. -/
def Draft.takeBack? (draft : Draft) (count : Nat) : Option Draft :=
  if count ≤ draft.size then some (draft.drop count) else none

/-- The registers, the draft and the region that is open. -/
structure Machine where
  registers : Registers
  draft : Draft
  region : Option OpenRegion

namespace Machine

/-- The machine before the first character. -/
def start : Machine where
  registers := .start
  draft := .empty
  region := none

/-- The machine with characters taken back. -/
def takeBack? (machine : Machine) (count : Nat) : Option Machine :=
  (machine.draft.takeBack? count).map fun draft => { machine with draft }

/-- Read one character. There is no next state if more has to be taken back than the
draft holds. -/
def step? (rules : Rules) (kept : Kind) (machine : Machine) (char : Char) : Option Machine :=
  let registers := machine.registers.push char
  let draft := machine.draft.pushChar char
  match machine.region with
  | none =>
    match registers.opened? rules with
    | none => some { registers, draft, region := none }
    | some kind =>
      let size := (rules.prologue kind).length
      takeBack?
        { registers := registers.openRegion, draft
          region := some ⟨kind, registers.consumed.size - size⟩ } size
  | some region =>
    let followed := registers.advance rules.stringAware char
    if followed.2 then takeBack? { registers := followed.1.closeRegion, draft, region := none } 1
    else if region.kind = kept then
      some { registers := followed.1, draft, region := some region }
    else takeBack? { registers := followed.1, draft, region := some region } 1

/-- Read a text. -/
def run? (rules : Rules) (kept : Kind) (machine : Machine) (text : Text) : Option Machine :=
  text.foldlM (step? rules kept) machine

/-- The machine holds what a scan does. -/
structure Shows (machine : Machine) (scan : Scan) : Prop where
  registers : machine.registers.Shows scan.tracker
  draft : machine.draft = scan.draft
  region : machine.region = scan.region

/-- As much as the draft holds can be taken back. -/
theorem takeBack?_eq (machine : Machine) {count : Nat} (held : count ≤ machine.draft.size) :
    machine.takeBack? count = some { machine with draft := machine.draft.drop count } := by
  rw [takeBack?, Draft.takeBack?, if_pos held]
  rfl

namespace Shows

variable {rules : Rules} {kept : Kind} {text : Text} {machine : Machine} {scan : Scan}

/-- Outside, the machine takes back a prologue that it has just put out. -/
theorem step_outside (shows : Shows machine scan) (proper : rules.Proper)
    (sound : scan.Sound rules kept text) (outside : scan.region = none) (char : Char) :
    ∃ next, machine.step? rules kept char = some next ∧
      next.Shows (scan.step rules kept char) := by
  have pushed := shows.registers.push char
  have unopened : machine.region = none := shows.region.trans outside
  have drafted : machine.draft.pushChar char = scan.draft.pushChar char := by rw [shows.draft]
  simp only [step?, unopened, pushed.opened? rules, drafted, pushed.consumed]
  cases opened : rules.opened? (scan.tracker.push char) with
  | none =>
    rw [Scan.step_outside rules kept scan char outside opened]
    exact ⟨_, rfl, pushed, rfl, outside.symm⟩
  | some kind =>
    obtain ⟨lead, -, whole⟩ := sound.prologue_drafted proper outside opened
    have held : (rules.prologue kind).length ≤ (scan.draft.pushChar char).size := by
      have lengths := congrArg List.length whole
      rw [Draft.toText, List.length_reverse, List.length_append] at lengths
      rw [Draft.size, lengths]
      exact Nat.le_add_left _ _
    rw [Scan.step_opening rules kept scan char kind outside opened]
    refine ⟨_, takeBack?_eq _ ?_, pushed.openRegion, rfl, rfl⟩
    exact held

/-- Inside, the machine takes back at most the character that it has just put out. -/
theorem step_inside (shows : Shows machine scan) (sound : scan.Sound rules kept text)
    {region : OpenRegion} (inside : scan.region = some region) (char : Char) :
    ∃ next, machine.step? rules kept char = some next ∧
      next.Shows (scan.step rules kept char) := by
  have positive := (sound.inside (by simp [inside])).positive
  have still : machine.region = some region := shows.region.trans inside
  obtain ⟨followed, verdict⟩ :=
    shows.registers.advance sound.grounded positive rules.stringAware char
  have held : 1 ≤ (machine.draft.pushChar char).size := Nat.le_add_left 1 _
  simp only [step?, still, verdict]
  cases closed : (scan.tracker.read rules.stringAware char).2 with
  | true =>
    rw [Scan.step_closing rules kept scan char region inside closed, if_pos rfl,
      takeBack?_eq _ held]
    exact ⟨_, rfl, followed.closeRegion, shows.draft, rfl⟩
  | false =>
    rw [Scan.step_inside rules kept scan char region inside closed, Kind.shown]
    by_cases same : region.kind = kept
    · rw [if_pos same, if_pos same]
      exact ⟨_, rfl, followed, congrArg (Draft.pushChar · char) shows.draft, inside.symm⟩
    · rw [if_neg same, if_neg same]
      exact ⟨_, takeBack?_eq _ held, followed, shows.draft, inside.symm⟩

/-- The machine never stops, and it goes on as the scan does. -/
theorem step (shows : Shows machine scan) (proper : rules.Proper)
    (sound : scan.Sound rules kept text) (char : Char) :
    ∃ next, machine.step? rules kept char = some next ∧
      next.Shows (scan.step rules kept char) := by
  cases inside : scan.region with
  | none => exact shows.step_outside proper sound inside char
  | some region => exact shows.step_inside sound inside char

end Shows

theorem start_shows : start.Shows .start := ⟨Registers.start_shows, rfl, rfl⟩

theorem run?_concat (rules : Rules) (kept : Kind) (machine : Machine) (text : Text)
    (char : Char) :
    machine.run? rules kept (text ++ [char]) =
      (machine.run? rules kept text).bind (step? rules kept · char) := by
  simp [run?, List.foldlM_append]

/-- The machine and the scan go through every text together. -/
theorem run?_shows {rules : Rules} (proper : rules.Proper) (kept : Kind) (text : Text) :
    ∃ machine, start.run? rules kept text = some machine ∧
      machine.Shows (Scan.start.run rules kept text) := by
  induction text using List.reverseRecOn with
  | nil => exact ⟨start, rfl, start_shows⟩
  | append_singleton text char inductionHypothesis =>
    obtain ⟨machine, reached, shows⟩ := inductionHypothesis
    obtain ⟨next, stepped, onward⟩ := shows.step proper (Scan.run_sound proper kept text) char
    rw [run?_concat, reached, Scan.run_concat]
    exact ⟨next, stepped, onward⟩

-- A brace that closes a region is below the floor, so no prologue starts with it. It is not
-- in the draft, and taking that prologue back would have stopped the machine.
example : (start.run? ⟨"a\x7b".toList, "\x7db".toList, true⟩ .client "a\x7b\x7db".toList).map
    (·.draft.toText) = some "b".toList := by
  decide

/-- What holds of the machine after a text. Of the steps from there on, entering a region
takes back the prologue and nothing else, and the depth is used up exactly where it is
zero. -/
structure Invariant (rules : Rules) (kept : Kind) (text : Text) (machine : Machine) : Prop where
  consumed : machine.registers.consumed.toText = text
  floor : machine.registers.floor ≤ machine.registers.consumed.size
  outside : machine.region = none →
    machine.registers.mode = .code ∧ machine.registers.depth = 0
  inside : machine.region ≠ none → 1 ≤ machine.registers.depth
  closing : machine.region ≠ none → ∀ char next,
    (machine.registers.push char).advance rules.stringAware char = (next, true) → next.depth = 0
  escaped : machine.registers.escaped = true →
    machine.registers.mode = .regex ∨ ∃ quote, machine.registers.mode = .quoted quote
  inClass : machine.registers.inClass = true → machine.registers.mode = .regex
  regexLength : 0 < machine.registers.regexLength → machine.registers.mode = .regex
  unaware : rules.stringAware = false →
    machine.registers.mode ∈ [.code, .lineComment, .blockComment]
  copied : machine.region = none →
    text.drop machine.registers.floor <:+ machine.draft.toText
  entering : machine.region = none → ∀ char next region,
    machine.step? rules kept char = some next → next.region = some region →
    next.draft.toText ++ rules.prologue region.kind = machine.draft.toText ++ [char]
  skipped : ∀ region, machine.region = some region → region.kind ≠ kept →
    rules.prologue region.kind <+: text.drop region.start ∧
      ∃ before, start.run? rules kept (text.take region.start) = some before ∧
        machine.draft.toText = before.draft.toText

namespace Shows

variable {rules : Rules} {kept : Kind} {text : Text} {machine : Machine} {scan : Scan}

/-- A region closes where the depth is used up. -/
theorem depth_closing (shows : Shows machine scan) (sound : scan.Sound rules kept text)
    (inside : machine.region ≠ none) {char : Char} {next : Registers}
    (closed : (machine.registers.push char).advance rules.stringAware char = (next, true)) :
    next.depth = 0 := by
  have positive := (sound.inside (shows.region ▸ inside)).positive
  have followed := shows.registers.advance sound.grounded positive rules.stringAware char
  rw [closed] at followed
  rw [followed.1.depth, Tracker.read_closed_depth followed.2.symm]
  rfl

/-- Entering a region takes back its prologue and nothing else. -/
theorem prologue_taken (shows : Shows machine scan) (proper : rules.Proper)
    (sound : scan.Sound rules kept text) (outside : machine.region = none) {char : Char}
    {next : Machine} {region : OpenRegion} (stepped : machine.step? rules kept char = some next)
    (entered : next.region = some region) :
    next.draft.toText ++ rules.prologue region.kind = machine.draft.toText ++ [char] := by
  have unopened : scan.region = none := shows.region ▸ outside
  obtain ⟨other, sameStep, onward⟩ := shows.step proper sound char
  obtain rfl : next = other := Option.some.inj (stepped.symm.trans sameStep)
  have put : (scan.draft.pushChar char).toText = machine.draft.toText ++ [char] :=
    shows.draft ▸ Draft.push_toText scan.draft [char]
  have now := onward.region.symm.trans entered
  rw [onward.draft, ← put]
  cases opened : rules.opened? (scan.tracker.push char) with
  | none =>
    rw [Scan.step_outside rules kept scan char unopened opened] at now
    exact absurd (unopened.symm.trans now) (Option.some_ne_none region).symm
  | some kind =>
    obtain ⟨lead, -, whole⟩ := sound.prologue_drafted proper unopened opened
    rw [Scan.step_opening rules kept scan char kind unopened opened] at now ⊢
    obtain rfl : kind = region.kind := congrArg OpenRegion.kind (Option.some.inj now)
    rw [whole]
    exact congrArg (· ++ _) (Draft.drop_toText whole)

/-- A region that is not kept leaves the draft as it was before the prologue. -/
theorem draft_skipped (shows : Shows machine scan) (proper : rules.Proper)
    (sound : scan.Sound rules kept text) {region : OpenRegion}
    (inside : machine.region = some region) (other : region.kind ≠ kept) :
    rules.prologue region.kind <+: text.drop region.start ∧
      ∃ before, start.run? rules kept (text.take region.start) = some before ∧
        machine.draft.toText = before.draft.toText := by
  obtain ⟨stands, drafted⟩ := sound.opened region (shows.region ▸ inside)
  obtain ⟨before, reached, earlier⟩ := run?_shows proper kept (text.take region.start)
  refine ⟨stands, before, reached, ?_⟩
  rw [shows.draft, drafted, Kind.shown, if_neg other, List.append_nil, earlier.draft]
  rfl

/-- What holds of the scan holds of the machine that shows it. -/
theorem invariant (shows : Shows machine scan) (proper : rules.Proper)
    (sound : scan.Sound rules kept text) : Invariant rules kept text machine where
  consumed := by rw [shows.registers.consumed, sound.consumed]
  floor := by
    rw [shows.registers.floor, shows.registers.consumed]
    exact sound.grounded
  outside unopened := by
    obtain ⟨inCode, closed⟩ := sound.outside (shows.region ▸ unopened)
    rw [shows.registers.mode, shows.registers.depth, inCode, closed]
    exact ⟨rfl, rfl⟩
  inside opened := by
    rw [shows.registers.depth]
    exact Int.ofNat_le.mpr (sound.inside (shows.region ▸ opened)).positive
  closing opened _ _ closed := shows.depth_closing sound opened closed
  escaped := by
    rw [shows.registers.escaped, shows.registers.mode]
    exact Context.mode_of_escaped
  inClass := by
    rw [shows.registers.inClass, shows.registers.mode]
    exact Context.mode_of_inClass
  regexLength := by
    rw [shows.registers.regexLength, shows.registers.mode]
    exact Context.mode_of_regexLength
  unaware unaware := by
    rw [shows.registers.mode]
    exact Context.mode_of_literalFree (sound.unaware unaware)
  copied unopened := by
    have floor : scan.tracker.floor ≤ text.length := sound.size ▸ sound.grounded
    rw [shows.registers.floor, shows.draft,
      sound.copied (shows.region ▸ unopened) scan.tracker.floor (Nat.le_refl _) floor]
    exact List.suffix_append _ _
  entering outside _ _ _ stepped entered :=
    shows.prologue_taken proper sound outside stepped entered
  skipped _ inside other := shows.draft_skipped proper sound inside other

end Shows

end Machine

end RegionBuild.Region

namespace RegionBuild.Pruner

open Region

/-- Every accepted pruner, with either kind kept, scans every text without ever taking
back more than it has put out, and between any two characters the invariant holds. -/
theorem scan_invariant (pruner : Pruner) (kept : Kind) (text : Text) :
    Scan.Sound pruner.rules kept text (Scan.start.run pruner.rules kept text) ∧
      ∃ machine, Machine.start.run? pruner.rules kept text = some machine ∧
        machine.Shows (Scan.start.run pruner.rules kept text) ∧
        machine.Invariant pruner.rules kept text := by
  have proper := pruner.rules_proper
  have sound := Scan.run_sound proper kept text
  obtain ⟨machine, reached, shows⟩ := Machine.run?_shows proper kept text
  exact ⟨sound, machine, reached, shows, shows.invariant proper sound⟩

end RegionBuild.Pruner
