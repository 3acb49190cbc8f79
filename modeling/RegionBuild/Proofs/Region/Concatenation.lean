import RegionBuild.Proofs.Region.Layout

/-!
# Pruning a concatenation

Two texts in a row are pruned like each of them alone, provided that the first one
closes all its regions and that no prologue reaches from the first into the second.
The scan does not start afresh between the two: it has a floor, a window and a piece
from the first text. What makes this harmless is that the layouts of the two texts
can be put together. The rest of the first layout, in which there is no prologue,
becomes part of the text before the first region of the second.
-/

namespace RegionBuild.Region

namespace Rules

/-- No prologue reaches from the first text into the second: one that starts inside
the first text ends there. -/
def Apart (rules : Rules) (first second : Text) : Prop :=
  ∀ kind, ∀ place < first.length, rules.prologue kind <+: (first ++ second).drop place →
    place + (rules.prologue kind).length ≤ first.length

/-- Texts that are apart stay apart when they are cut down to what stands next to
the boundary. -/
theorem Apart.mono {rules : Rules} (front first second back : Text)
    (apart : rules.Apart (front ++ first) (second ++ back)) : rules.Apart first second := by
  intro kind place inside occurs
  have later : (front ++ first ++ (second ++ back)).drop (front.length + place) =
      (first ++ second).drop place ++ back := by
    rw [List.append_assoc, List.drop_length_add_append, ← List.append_assoc,
      List.drop_append_of_le_length (by rw [List.length_append]; omega)]
  have ends := apart kind (front.length + place) (by rw [List.length_append]; omega)
    (later ▸ occurs.trans (List.prefix_append _ _))
  rw [List.length_append] at ends
  omega

/-- Where the first text contains no prologue, every prologue in both is one of the
second. -/
theorem Apart.later {rules : Rules} {first second : Text} (apart : rules.Apart first second)
    (quiet : ∀ kind, ¬ rules.prologue kind <:+: first) {kind : Kind} {before after : Text}
    (whole : before ++ rules.prologue kind ++ after = first ++ second) :
    ∃ inner, before = first ++ inner ∧ inner ++ rules.prologue kind ++ after = second := by
  have starts : first.length ≤ before.length := by
    refine Nat.le_of_not_lt fun inside => ?_
    have occurs : rules.prologue kind <+: (first ++ second).drop before.length := by
      rw [← whole, List.append_assoc, List.drop_left]
      exact List.prefix_append _ _
    have ends := apart kind before.length inside occurs
    have within : before ++ rules.prologue kind <+: first := by
      refine List.prefix_of_prefix_length_le ⟨after, whole⟩ (List.prefix_append first second) ?_
      rw [List.length_append]
      exact ends
    exact quiet kind ((List.suffix_append _ _).isInfix.trans within.isInfix)
  have front : first <+: before := by
    refine List.prefix_of_prefix_length_le (List.prefix_append first second) ?_ starts
    exact ⟨rules.prologue kind ++ after, by rw [← whole, List.append_assoc]⟩
  obtain ⟨inner, rfl⟩ := front
  refine ⟨inner, rfl, ?_⟩
  rw [List.append_assoc, List.append_assoc] at whole
  rw [List.append_assoc]
  exact List.append_cancel_left whole

/-- Two texts that are apart and contain no prologue contain none together. -/
theorem Apart.quiet {rules : Rules} {first second : Text} (apart : rules.Apart first second)
    (quiet : ∀ kind, ¬ rules.prologue kind <:+: first)
    (quiet' : ∀ kind, ¬ rules.prologue kind <:+: second) (kind : Kind) :
    ¬ rules.prologue kind <:+: first ++ second := by
  rintro ⟨before, after, whole⟩
  obtain ⟨inner, _, occurs⟩ := apart.later quiet whole
  exact quiet' kind ⟨inner, after, occurs⟩

/-- A region opens at the same prologue when a text without prologues stands before
its lead. -/
theorem Opens.append {rules : Rules} {first lead : Text} {kind : Kind}
    (opens : rules.Opens lead kind) (quiet : ∀ kind, ¬ rules.prologue kind <:+: first)
    (apart : rules.Apart first (lead ++ rules.prologue kind)) :
    rules.Opens (first ++ lead) kind where
  first := by
    rintro other _ ⟨after, whole⟩ ⟨before, rfl⟩
    rw [List.append_assoc first] at whole ⊢
    obtain ⟨inner, rfl, occurs⟩ := apart.later quiet whole
    rw [List.append_assoc, opens.first other _ ⟨after, occurs⟩ (List.suffix_append _ _)]
  clientWins := by
    rintro ⟨before, whole⟩
    have ends : before ++ rules.prologue .client ++ [] =
        first ++ (lead ++ rules.prologue kind) := by
      rw [List.append_nil, ← List.append_assoc]
      exact whole
    obtain ⟨inner, _, occurs⟩ := apart.later quiet ends
    rw [List.append_nil] at occurs
    exact opens.clientWins ⟨inner, occurs⟩

end Rules

namespace Layout

/-- A text in front of the first region, or of the rest if there is none. -/
def after (text : Text) (layout : Layout) : Layout :=
  match layout.blocks with
  | [] => { layout with rest := text ++ layout.rest }
  | block :: more => { layout with blocks := { block with lead := text ++ block.lead } :: more }

/-- The layouts of two texts in a row, the first of which closes all its regions. -/
def append (first second : Layout) : Layout :=
  { second.after first.rest with
    blocks := first.blocks ++ (second.after first.rest).blocks }

/-- What stands before the open region comes after the text in front. -/
theorem before_after (rules : Rules) (text : Text) (layout : Layout) :
    (layout.after text).before rules = text ++ layout.before rules := by
  unfold after
  split <;> rename_i same <;> simp [before, same, Block.source]

/-- What is kept comes after the text in front. -/
theorem shown_after (kept : Kind) (text : Text) (layout : Layout) :
    (layout.after text).shown kept = text ++ layout.shown kept := by
  unfold after
  split <;> rename_i same <;> simp [shown, same, Block.shown]

/-- A text in front leaves the open region as it is. -/
theorem unclosed_after (text : Text) (layout : Layout) :
    (layout.after text).unclosed = layout.unclosed := by
  unfold after
  split <;> rfl

/-- What stands before the open region of the second text comes after all of the
first. -/
theorem before_append (rules : Rules) (first second : Layout) :
    (first.append second).before rules = first.before rules ++ second.before rules := by
  have shifted := before_after rules first.rest second
  simp only [before] at shifted
  simp [append, before, shifted]

/-- What is kept of both is what is kept of each. -/
theorem shown_append (kept : Kind) (first second : Layout) :
    (first.append second).shown kept = first.shown kept ++ second.shown kept := by
  have shifted := shown_after kept first.rest second
  simp only [shown] at shifted
  simp [append, shown, shifted]

/-- The open region of both is that of the second. -/
theorem unclosed_append (first second : Layout) :
    (first.append second).unclosed = second.unclosed :=
  unclosed_after first.rest second

/-- A text without prologues in front of a divided text.

Whether the second text starts with a closed region, is all rest or leaves its first
region open decides where the text in front goes. In each case the first prologue is
the same as before. -/
theorem Divides.after {rules : Rules} {layout : Layout} {text source : Text}
    (divides : layout.Divides rules source) (quiet : ∀ kind, ¬ rules.prologue kind <:+: text)
    (apart : rules.Apart text source) : (layout.after text).Divides rules (text ++ source) := by
  obtain ⟨blocks, rest, unclosed⟩ := layout
  have whole := divides.source_eq
  cases blocks with
  | cons block more =>
    obtain ⟨sound, divided, split⟩ := Divides.uncons block ⟨more, rest, unclosed⟩ divides
    have near : rules.Apart text (block.lead ++ rules.prologue block.kind) := by
      refine Rules.Apart.mono [] text _
        (block.body ++ ['}'] ++ Layout.source rules ⟨more, rest, unclosed⟩) ?_
      rw [← split] at apart
      simpa [Block.source] using apart
    have longer := Divides.cons { block with lead := text ++ block.lead }
      ⟨sound.opens.append quiet near, sound.closes⟩ divided
    rw [← split]
    simpa [Block.source, Layout.cons, Layout.after] using longer
  | nil =>
    cases unclosed with
    | none =>
      obtain rfl : rest = source := by simpa [Layout.source, before] using whole
      exact .of_quiet (apart.quiet quiet (divides.quiet rfl))
    | some region =>
      obtain ⟨opens, followed⟩ := divides.opened region rfl
      have split : rest ++ rules.prologue region.kind ++ region.tail = source := by
        simpa [Layout.source, before] using whole
      have near : rules.Apart text (rest ++ rules.prologue region.kind) := by
        refine Rules.Apart.mono [] text _ region.tail ?_
        rw [← split] at apart
        exact apart
      have longer := Divides.of_unclosed (opens.append quiet near) followed
      rw [← split]
      simpa [Layout.after] using longer

/-- Blocks in front of a division, all of them sound. -/
theorem Divides.prepend {rules : Rules} {layout : Layout} {source : Text}
    (divides : layout.Divides rules source) (blocks : List Block)
    (sound : ∀ block ∈ blocks, block.Sound rules) :
    Divides rules { layout with blocks := blocks ++ layout.blocks }
      (blocks.flatMap (Block.source rules) ++ source) := by
  induction blocks with
  | nil => exact divides
  | cons block more inductionHypothesis =>
    have rested := inductionHypothesis fun other inside =>
      sound other (List.mem_cons_of_mem block inside)
    have whole := Divides.cons block (sound block List.mem_cons_self) rested
    rwa [← List.append_assoc] at whole

/-- A text that closes the open region makes a block of it, and what follows is divided on
its own. -/
theorem Divides.closed {rules : Rules} {blocks : List Block} {rest source tail more after : Text}
    {kind : Kind} (divides : Divides rules ⟨blocks, rest, some ⟨kind, tail⟩⟩ source)
    (closes : Tracker.fresh.closesAfter rules.stringAware (tail ++ more) = true)
    {layout : Layout} (divides' : layout.Divides rules after) :
    Divides rules { layout with blocks := (blocks ++ [⟨rest, kind, tail ++ more⟩]) ++ layout.blocks }
      (source ++ (more ++ '}' :: after)) := by
  have sound : ∀ block ∈ blocks ++ [⟨rest, kind, tail ++ more⟩], block.Sound rules := by
    intro block inside
    rcases List.mem_append.mp inside with earlier | last
    · exact divides.blocks block earlier
    · rw [List.mem_singleton.mp last]
      exact ⟨(divides.opened _ rfl).1, closes⟩
  have whole : (blocks ++ [Block.mk rest kind (tail ++ more)]).flatMap (Block.source rules) ++ after =
      source ++ (more ++ '}' :: after) := by
    rw [← divides.source_eq]
    simp [Layout.source, before, Block.source]
  rw [← whole]
  exact divides'.prepend _ sound

/-- The empty text has no regions. -/
theorem Divides.nil {rules : Rules} (proper : rules.Proper) :
    Divides rules ⟨[], [], none⟩ [] := by
  apply Divides.of_quiet
  intro kind occurs
  exact proper.prologue_ne_nil kind (List.infix_nil.mp occurs)

/-- The layouts of two texts that are apart divide both together. -/
theorem Divides.append {rules : Rules} {first second : Layout} {source source' : Text}
    (divides : first.Divides rules source) (closed : first.unclosed = none)
    (divides' : second.Divides rules source') (apart : rules.Apart source source') :
    (first.append second).Divides rules (source ++ source') := by
  have whole : source = first.blocks.flatMap (Block.source rules) ++ first.rest := by
    rw [← divides.source_eq]
    simp [Layout.source, before, closed]
  have near : rules.Apart first.rest source' := by
    refine Rules.Apart.mono (first.blocks.flatMap (Block.source rules)) _ source' [] ?_
    rw [whole] at apart
    simpa using apart
  have later := divides'.after (divides.quiet closed) near
  rw [whole, List.append_assoc]
  exact later.prepend first.blocks divides.blocks

end Layout

end RegionBuild.Region

namespace RegionBuild.Pruner

open Region

/-- Where the first of two texts can be pruned and no prologue reaches from it into the
second, both in a row give what each of them gives in a row. If the second one fails
both fail, with the line counted from the start of the first. -/
theorem process_append (pruner : Pruner) (path architecture : Text)
    (scanned : pruner.bypasses path = false) (first second pruned : Text)
    (done : pruner.process first path architecture = .ok pruned)
    (apart : pruner.rules.Apart first second) :
    (∀ text, pruner.process second path architecture = .ok text →
        pruner.process (first ++ second) path architecture = .ok (pruned ++ text)) ∧
      ∀ fault, pruner.process second path architecture = .error fault →
        pruner.process (first ++ second) path architecture =
          .error { fault with line := fault.line + first.count '\n' } := by
  obtain ⟨layout, divides⟩ := Layout.exists_divides pruner.rules_proper first
  obtain ⟨layout', divides'⟩ := Layout.exists_divides pruner.rules_proper second
  rw [pruner.process_divides first path architecture scanned layout divides] at done
  have closed : layout.unclosed = none := by
    cases left : layout.unclosed with
    | none => rfl
    | some region => simp [Layout.outcome, left] at done
  have shown : layout.shown (pruner.kept architecture) = pruned := by
    simpa [Layout.outcome, closed] using done
  have whole : layout.before pruner.rules = first := by
    rw [← divides.source_eq]
    simp [Layout.source, closed]
  rw [pruner.process_divides second path architecture scanned layout' divides',
    pruner.process_divides (first ++ second) path architecture scanned _
      (divides.append closed divides' apart)]
  unfold Layout.outcome
  rw [Layout.unclosed_append, Layout.shown_append, Layout.before_append, shown, whole]
  cases layout'.unclosed with
  | none => exact ⟨fun text same => by rw [← Except.ok.inj same], fun fault same => by cases same⟩
  | some region =>
    refine ⟨fun text same => (by cases same), fun fault same => ?_⟩
    rw [← Except.error.inj same, List.count_append]
    simp only [Except.error.injEq, Unterminated.mk.injEq, true_and, and_true]
    omega

/-- A text with a closed region and a line feed, before a text that leaves a region
open on its second line. -/
theorem process_append_left_open :
    standard.process "if (Meteor.isServer) \x7bx\x7d\n".toList "main.ts".toList "web".toList =
        .ok "\n".toList ∧
      standard.rules.Apart "if (Meteor.isServer) \x7bx\x7d\n".toList
        "y\nif (Meteor.isClient) \x7b".toList ∧
      standard.process "if (Meteor.isServer) \x7bx\x7d\ny\nif (Meteor.isClient) \x7b".toList
          "main.ts".toList "web".toList =
        .error ⟨"main.ts".toList, 3, .client⟩ := by
  have done : standard.process "if (Meteor.isServer) \x7bx\x7d\n".toList "main.ts".toList
      "web".toList = .ok "\n".toList := by
    rfl
  have apart : standard.rules.Apart "if (Meteor.isServer) \x7bx\x7d\n".toList
      "y\nif (Meteor.isClient) \x7b".toList := by
    intro kind
    cases kind <;> decide
  obtain ⟨_, failed⟩ := process_append standard "main.ts".toList "web".toList (by decide)
    "if (Meteor.isServer) \x7bx\x7d\n".toList "y\nif (Meteor.isClient) \x7b".toList _ done apart
  exact ⟨done, apart, failed ⟨"main.ts".toList, 2, .client⟩ (by rfl)⟩

end RegionBuild.Pruner
