import RegionBuild.Proofs.Region.Layout

/-!
# Client and server in each other's place

Exchange the two prologues and keep the other kind of region: the same text should come
out, or the same region should be found open under the other name. A scan treats the two
kinds alike except where both prologues end at one character, where the client's wins. So
what decides is whether a region can open at such a place.

It can only if one prologue ends with the other and the other does not end in it sooner.
Prologues may differ and still be like that. With such a pair the region that the longer
one opens is always taken for a client's, whichever of the two is the client's prologue,
and there is a source that tells the difference. With any other pair there is none.
-/

namespace RegionBuild.Region

/-- The kind that a kind is exchanged for. -/
def Kind.other : Kind → Kind
  | .client => .server
  | .server => .client

/-- Exchanging twice changes nothing. -/
@[simp] theorem Kind.other_other (kind : Kind) : kind.other.other = kind := by
  cases kind <;> rfl

/-- Exchanged kinds are the same only if the kinds are. -/
@[simp] theorem Kind.other_inj (kind kept : Kind) : kind.other = kept.other ↔ kind = kept := by
  cases kind <;> cases kept <;> decide

/-- What is put out of a body depends on whether the kinds are the same, not on which
they are. -/
@[simp] theorem Kind.shown_other (kind kept : Kind) (body : Text) :
    kind.other.shown kept.other body = kind.shown kept body := by
  simp [Kind.shown]

namespace Rules

/-- The rules with the prologues exchanged. -/
def exchanged (rules : Rules) : Rules where
  client := rules.server
  server := rules.client
  stringAware := rules.stringAware

/-- Each kind has the prologue of the other. -/
@[simp] theorem prologue_exchanged (rules : Rules) (kind : Kind) :
    rules.exchanged.prologue kind = rules.prologue kind.other := by
  cases kind <;> rfl

/-- The prologue of a kind ends with that of the other, which does not end in it sooner.
Where the longer one has been read, both have. -/
def Overlaid (rules : Rules) (kind : Kind) : Prop :=
  rules.prologue kind.other <:+ rules.prologue kind ∧
    ¬ rules.prologue kind.other <:+: (rules.prologue kind).dropLast

instance (rules : Rules) (kind : Kind) : Decidable (rules.Overlaid kind) :=
  inferInstanceAs (Decidable (_ ∧ _))

/-- Exchanging the prologues exchanges the kinds that are overlaid. -/
theorem overlaid_exchanged (rules : Rules) (kind : Kind) :
    rules.exchanged.Overlaid kind.other ↔ rules.Overlaid kind := by
  simp [Overlaid]

/-- At the end of a prologue only one kind of region can open. -/
def Sure (rules : Rules) (lead : Text) (kind : Kind) : Prop :=
  ¬ rules.prologue kind.other <:+ lead ++ rules.prologue kind

/-- Where a region opens, no prologue has ended before the last character, in whichever
text at that place it is looked for. -/
theorem Opens.notSooner {rules : Rules} (proper : rules.Proper) {lead text : Text} {kind : Kind}
    (opens : rules.Opens lead kind) (ending : text <:+ lead ++ rules.prologue kind)
    (other : Kind) : ¬ rules.prologue other <:+: text.dropLast := by
  intro inside
  have nonempty : text ≠ [] := by
    rintro rfl
    exact proper.prologue_ne_nil other (List.infix_nil.mp inside)
  obtain ⟨before, whole⟩ := ending
  have sizes := congrArg List.length whole
  have positive := List.length_pos_iff.mpr nonempty
  refine opens.absent ?_ ?_ other (inside.trans (List.suffix_append before _).isInfix)
  · rw [← whole]
    exact (List.prefix_append_right_inj before).mpr (List.dropLast_prefix text)
  · simp only [List.length_append, List.length_dropLast] at sizes ⊢
    omega

/-- A region opens where both prologues end only if one of them is overlaid. Both are
endings of the same text, so the shorter one is an ending of the longer. -/
theorem Opens.overlaid {rules : Rules} (proper : rules.Proper) {lead : Text} {kind : Kind}
    (opens : rules.Opens lead kind) (unsure : ¬ rules.Sure lead kind) :
    ∃ longer, rules.Overlaid longer := by
  have own : rules.prologue kind <:+ lead ++ rules.prologue kind := List.suffix_append _ _
  have ending : rules.prologue kind.other <:+ lead ++ rules.prologue kind :=
    Decidable.not_not.mp unsure
  rcases List.suffix_or_suffix_of_suffix ending own with shorter | longer
  · exact ⟨kind, shorter, opens.notSooner proper own kind.other⟩
  · refine ⟨kind.other, ?_⟩
    constructor
    · simpa using longer
    · simpa using opens.notSooner proper ending kind

/-- Where the rules are sure, the region opens under the exchanged rules as well. -/
theorem Opens.exchanged {rules : Rules} {lead : Text} {kind : Kind}
    (opens : rules.Opens lead kind) (sure : rules.Sure lead kind) :
    rules.exchanged.Opens lead kind.other where
  first := by
    intro other before inside ends
    rw [prologue_exchanged, Kind.other_other] at inside ⊢
    rw [prologue_exchanged] at ends
    exact opens.first other.other before inside ends
  clientWins := by
    intro ends
    rw [prologue_exchanged, Kind.other_other] at ends
    cases kind with
    | client => exact absurd ends sure
    | server => rfl

/-- An overlaid prologue opens a client's region, and what is in it before the client's
own prologue is the lead. -/
theorem Overlaid.opens {rules : Rules} (proper : rules.Proper) {kind : Kind}
    (overlaid : rules.Overlaid kind) {lead : Text} (whole : lead ++ rules.client = rules.prologue kind) :
    rules.Opens lead .client where
  first := by
    intro other before inside ends
    rw [show rules.prologue .client = rules.client from rfl, whole] at inside ⊢
    have shortOrOwn : other = kind.other ∨ other = kind := by
      cases other <;> cases kind <;> simp [Kind.other]
    rcases shortOrOwn with rfl | rfl
    · obtain ⟨start, last, split⟩ : ∃ start last, rules.prologue kind = start ++ [last] :=
        ⟨_, _, (List.dropLast_concat_getLast (proper.prologue_ne_nil kind)).symm⟩
      have notSooner := overlaid.2
      rw [split, List.dropLast_concat] at notSooner
      rw [split] at inside ⊢
      rcases List.prefix_concat_iff.mp inside with complete | shorter
      · exact complete
      · exact absurd (ends.isInfix.trans shorter.isInfix) notSooner
    · exact inside.eq_of_length_le ends.length_le
  clientWins _ := rfl

end Rules

namespace Layout

/-- The layout with all kinds exchanged. -/
def exchanged (layout : Layout) : Layout where
  blocks := layout.blocks.map fun block => { block with kind := block.kind.other }
  rest := layout.rest
  unclosed := layout.unclosed.map fun region => { region with kind := region.kind.other }

/-- Every region opens where only its own prologue ends. -/
structure Unambiguous (rules : Rules) (layout : Layout) : Prop where
  blocks : ∀ block ∈ layout.blocks, rules.Sure block.lead block.kind
  unclosed : ∀ region, layout.unclosed = some region → rules.Sure layout.rest region.kind

/-- With kinds and prologues exchanged the same text stands before the open region. -/
theorem before_exchanged (rules : Rules) (layout : Layout) :
    layout.exchanged.before rules.exchanged = layout.before rules := by
  have block : ∀ block : Block, Block.source rules.exchanged
      { block with kind := block.kind.other } = block.source rules := by
    intro block
    simp [Block.source]
  simp only [before, exchanged, List.flatMap_map, block]

/-- So it is the layout of the same source. -/
theorem source_exchanged (rules : Rules) (layout : Layout) :
    layout.exchanged.source rules.exchanged = layout.source rules := by
  simp only [source, before_exchanged]
  cases left : layout.unclosed with
  | none => simp [exchanged, left]
  | some region => simp [exchanged, left]

/-- The same is kept if the other kind is. -/
theorem shown_exchanged (kept : Kind) (layout : Layout) :
    layout.exchanged.shown kept.other = layout.shown kept := by
  have block : ∀ block : Block, Block.shown kept.other
      { block with kind := block.kind.other } = block.shown kept := by
    intro block
    simp [Block.shown]
  simp only [shown, exchanged, List.flatMap_map, block]

/-- A division in which all regions are sure is one under the exchanged rules as well. -/
theorem Divides.exchanged {rules : Rules} {layout : Layout} {source : Text}
    (divides : layout.Divides rules source) (sure : layout.Unambiguous rules) :
    layout.exchanged.Divides rules.exchanged source where
  source_eq := by rw [source_exchanged, divides.source_eq]
  blocks := by
    intro block listed
    obtain ⟨original, inside, rfl⟩ := List.mem_map.mp listed
    have sound := divides.blocks original inside
    exact ⟨sound.opens.exchanged (sure.blocks original inside), sound.closes⟩
  quiet := by
    intro closed kind
    rw [Rules.prologue_exchanged]
    exact divides.quiet (Option.map_eq_none_iff.mp closed) kind.other
  opened := by
    intro region left
    obtain ⟨original, unclosed, rfl⟩ := Option.map_eq_some_iff.mp left
    obtain ⟨opens, followed⟩ := divides.opened original unclosed
    exact ⟨opens.exchanged (sure.unclosed original unclosed), followed⟩

/-- Where no prologue is overlaid every division is sure. -/
theorem Divides.unambiguous {rules : Rules} (proper : rules.Proper) {layout : Layout}
    {source : Text} (divides : layout.Divides rules source)
    (plain : ∀ kind, ¬ rules.Overlaid kind) : layout.Unambiguous rules := by
  have sure : ∀ {lead kind}, rules.Opens lead kind → rules.Sure lead kind := by
    intro lead kind opens both
    obtain ⟨longer, overlaid⟩ := opens.overlaid proper fun sure => sure both
    exact plain longer overlaid
  constructor
  · intro block inside
    exact sure (divides.blocks block inside).opens
  · intro region left
    exact sure (divides.opened region left).1

end Layout

end RegionBuild.Region

namespace RegionBuild

open Region

/-- The fault under the name of the other kind. -/
def Unterminated.exchanged (fault : Unterminated) : Unterminated :=
  { fault with kind := fault.kind.other }

/-- What pruning makes of a layout with all kinds exchanged: the same text, or the same
fault under the name of the other kind. -/
theorem Region.Layout.outcome_exchanged (rules : Rules) (kept : Kind) (path : Text)
    (layout : Layout) :
    layout.exchanged.outcome rules.exchanged kept.other path =
      (layout.outcome rules kept path).mapError Unterminated.exchanged := by
  simp only [Layout.outcome, Layout.before_exchanged, Layout.shown_exchanged]
  cases left : layout.unclosed with
  | none =>
    have closed : layout.exchanged.unclosed = none := by simp [Layout.exchanged, left]
    rw [closed]
    rfl
  | some region =>
    have exchanged : layout.exchanged.unclosed = some { region with kind := region.kind.other } := by
      simp [Layout.exchanged, left]
    rw [exchanged]
    rfl

namespace Pruner

/-- The pruner with the prologues exchanged. -/
def exchanged (pruner : Pruner) : Pruner where
  options :=
    { pruner.options with
      clientPrologue := pruner.options.serverPrologue
      serverPrologue := pruner.options.clientPrologue }
  client_ne_nil := pruner.server_ne_nil
  server_ne_nil := pruner.client_ne_nil
  client_ne_server := pruner.client_ne_server.symm

/-- A source that consists of an overlaid prologue and a closing brace is pruned to what
is before the client's prologue in it, whichever kind is kept. -/
theorem process_overlaid (pruner : Pruner) {path : Text} (architecture : Text)
    (scanned : pruner.bypasses path = false) {kind : Kind}
    (overlaid : pruner.rules.Overlaid kind) (lead : Text)
    (whole : lead ++ pruner.rules.client = pruner.rules.prologue kind) :
    pruner.process (pruner.rules.prologue kind ++ ['}']) path architecture = .ok lead := by
  have closes : Tracker.fresh.closesAfter pruner.rules.stringAware [] = true := by
    cases pruner.rules.stringAware <;> rfl
  have quiet : ∀ kind, ¬ pruner.rules.prologue kind <:+: [] := by
    intro kind occurs
    exact pruner.rules_proper.prologue_ne_nil kind (List.infix_nil.mp occurs)
  have divides := Layout.Divides.cons ⟨lead, .client, []⟩
    ⟨overlaid.opens pruner.rules_proper whole, closes⟩ (.of_quiet quiet)
  have source : Block.source pruner.rules ⟨lead, .client, []⟩ ++ [] =
      pruner.rules.prologue kind ++ ['}'] := by
    rw [← whole]
    simp [Block.source, Rules.prologue]
  rw [source] at divides
  rw [pruner.process_divides _ path architecture scanned _ divides]
  simp [Layout.outcome, Layout.cons, Layout.shown, Block.shown, Kind.shown]

/-- With an overlaid prologue there is a source that tells the two orders apart. In one of
them the whole prologue is the client's and is taken back, in the other only the end of it
is. -/
theorem exists_process_ne (pruner other : Pruner)
    (exchanged : other.rules = pruner.rules.exchanged) {path : Text}
    (scanned : pruner.bypasses path = false) (scanned' : other.bypasses path = false)
    {kind : Kind} (overlaid : pruner.rules.Overlaid kind) (architecture architecture' : Text) :
    ∃ source, other.process source path architecture' ≠
      (pruner.process source path architecture).mapError Unterminated.exchanged := by
  have overlaid' : other.rules.Overlaid kind.other := by
    rw [exchanged]
    exact (pruner.rules.overlaid_exchanged kind).mpr overlaid
  have long : other.rules.prologue kind.other = pruner.rules.prologue kind := by
    simp [exchanged]
  have short : other.rules.client = pruner.rules.server := by
    rw [exchanged]
    rfl
  obtain ⟨front, ends⟩ := overlaid.1
  have nonempty : front ≠ [] := by
    rintro rfl
    cases kind with
    | client => exact pruner.rules_proper.client_ne_server ends.symm
    | server => exact pruner.rules_proper.client_ne_server ends
  refine ⟨pruner.rules.prologue kind ++ ['}'], ?_⟩
  cases kind with
  | client =>
    have first := pruner.process_overlaid architecture scanned overlaid [] rfl
    have second := other.process_overlaid architecture' scanned' overlaid' front
      (by rw [short, long]; exact ends)
    rw [long] at second
    rw [first, second]
    intro same
    exact nonempty (Except.ok.inj same)
  | server =>
    have first := pruner.process_overlaid architecture scanned overlaid front ends
    have second := other.process_overlaid architecture' scanned' overlaid' []
      (by rw [short, long]; rfl)
    rw [long] at second
    rw [first, second]
    intro same
    exact nonempty (Except.ok.inj same).symm

/-- A pruner that keeps the server's regions and one with the prologues exchanged that
keeps the client's give the same text, or find the same region open under the other name,
for every source whose regions open where only their own prologue ends. They do so for
all sources exactly if neither prologue ends with the other one without its having ended
sooner. -/
theorem process_exchanged (pruner other : Pruner)
    (exchanged : other.rules = pruner.rules.exchanged) (path server architecture : Text)
    (scanned : pruner.bypasses path = false) (scanned' : other.bypasses path = false)
    (keepsServer : pruner.kept server = .server) (keepsClient : other.kept architecture = .client) :
    (∀ source, (∀ layout : Layout, layout.Divides pruner.rules source →
          layout.Unambiguous pruner.rules) →
        other.process source path architecture =
          (pruner.process source path server).mapError Unterminated.exchanged) ∧
      ((∀ source, other.process source path architecture =
          (pruner.process source path server).mapError Unterminated.exchanged) ↔
        ∀ kind, ¬ pruner.rules.Overlaid kind) := by
  have agrees : ∀ source, (∀ layout : Layout, layout.Divides pruner.rules source →
      layout.Unambiguous pruner.rules) → other.process source path architecture =
        (pruner.process source path server).mapError Unterminated.exchanged := by
    intro source sure
    obtain ⟨layout, divides⟩ := Layout.exists_divides pruner.rules_proper source
    have divides' := divides.exchanged (sure layout divides)
    rw [← exchanged] at divides'
    rw [other.process_divides source path architecture scanned' _ divides',
      pruner.process_divides source path server scanned _ divides, keepsServer, keepsClient,
      exchanged]
    exact Layout.outcome_exchanged pruner.rules .server path layout
  refine ⟨agrees, ?_⟩
  constructor
  · intro same kind overlaid
    obtain ⟨source, differs⟩ := pruner.exists_process_ne other exchanged scanned scanned'
      overlaid server architecture
    exact differs (same source)
  · intro plain source
    apply agrees
    intro layout divides
    exact divides.unambiguous pruner.rules_proper plain

/-- The default prologues can be exchanged: neither ends with the other. -/
theorem process_exchanged_standard :
    (∀ kind, ¬ standard.rules.Overlaid kind) ∧
      ∀ source, standard.exchanged.process source "main.ts".toList "web".toList =
        (standard.process source "main.ts".toList "os".toList).mapError
          Unterminated.exchanged := by
  have plain : ∀ kind, ¬ standard.rules.Overlaid kind := by
    intro kind
    cases kind <;> decide
  obtain ⟨_, always⟩ := process_exchanged standard standard.exchanged rfl "main.ts".toList
    "os".toList "web".toList (by decide) (by decide) (by decide) (by decide)
  exact ⟨plain, always.mpr plain⟩

/-- Options that are accepted and whose prologues cannot be exchanged. The server's
prologue is the client's after an exclamation mark, and a region that it opens is a
client's in both orders. -/
theorem process_negated_prologue :
    ∃ pruner other : Pruner,
      ofOptions { clientPrologue := "isClient \x7b".toList
                  serverPrologue := "!isClient \x7b".toList } = .ok pruner ∧
      ofOptions { clientPrologue := "!isClient \x7b".toList
                  serverPrologue := "isClient \x7b".toList } = .ok other ∧
      pruner.bypasses "main.ts".toList = false ∧ other.bypasses "main.ts".toList = false ∧
      pruner.kept "os".toList = .server ∧ other.kept "web".toList = .client ∧
      pruner.process "!isClient \x7bsecret\x7d".toList "main.ts".toList "os".toList =
        .ok "!".toList ∧
      other.process "!isClient \x7bsecret\x7d".toList "main.ts".toList "web".toList =
        .ok "secret".toList := by
  refine ⟨_, _, rfl, rfl, ?_⟩
  exact ⟨by decide, by decide, by decide, by decide, by rfl, by rfl⟩

end Pruner

end RegionBuild
