import RegionBuild.Proofs.Region.Layout

/-!
# Nothing is lost by not scanning

A source that mentions no region is not scanned at all. Whether it mentions one is
decided by a search over its bytes, while the scan compares characters, from the last
one read backwards and only above the floor. Both find the same: the search fails
exactly if the scan never enters a region, and then the scan copies the source. So
whether the scan is skipped cannot be told from the result.
-/

namespace RegionBuild.Region.Scan

/-- The scan of a source never enters a region: after every character it is outside. -/
def StaysOutside (rules : Rules) (kept : Kind) (source : Text) : Prop :=
  ∀ read, read <+: source → (start.run rules kept read).region = none

/-- A source that contains no prologue is copied. -/
theorem run_of_absent {rules : Rules} (proper : rules.Proper) (kept : Kind) {source : Text}
    (absent : ∀ kind, ¬ rules.prologue kind <:+: source) :
    start.run rules kept source =
      { start with
        tracker := Tracker.start.pushAll source
        draft := Draft.empty.push source } :=
  run_quiet proper kept start [] source rfl start_atBoundary.grounded start_atBoundary.window
    (fun _ inside _ => Rules.endedBy?_of_absent absent inside)

/-- The scan stays outside exactly if the source contains no prologue. Of several
prologues that overlap, the first that ends is entered. -/
theorem staysOutside_iff {rules : Rules} (proper : rules.Proper) (kept : Kind) (source : Text) :
    StaysOutside rules kept source ↔ ∀ kind, ¬ rules.prologue kind <:+: source := by
  constructor
  · intro outside
    rcases rules.quiet_or_opens source with absent | ⟨lead, kind, rest, whole, opens⟩
    · exact absent
    · obtain ⟨entered, _⟩ := run_opening proper kept start start_atBoundary lead kind opens
      have left := outside (lead ++ rules.prologue kind) ⟨rest, whole.symm⟩
      rw [entered] at left
      cases left
  · intro absent read inside
    have still : ∀ kind, ¬ rules.prologue kind <:+: read := by
      intro kind occurs
      exact absent kind (occurs.trans inside.isInfix)
    rw [run_of_absent proper kept still]
    rfl

end RegionBuild.Region.Scan

namespace RegionBuild.Pruner

open Region

/-- The search for a mention agrees with the scan. A source mentions no region exactly
if the bytes of neither prologue occur among its bytes, and exactly if the scan never
enters a region, whichever kind is kept. The scan of such a source gives the source
back, so outside the bypass roots pruning is scanning. -/
theorem shortcut_exact (pruner : Pruner) (source : Text) :
    (pruner.mentionsRegion source = false ↔
        ∀ kind, ¬ Utf8.encode (pruner.rules.prologue kind) <:+: Utf8.encode source) ∧
      (∀ kept, pruner.mentionsRegion source = false ↔
        Scan.StaysOutside pruner.rules kept source) ∧
      (pruner.mentionsRegion source = false →
        ∀ kept, scan pruner.rules kept source = .ok source) ∧
      ∀ path architecture, pruner.bypasses path = false →
        pruner.process source path architecture = pruner.scanned source path architecture := by
  have absent : pruner.mentionsRegion source = false ↔
      ∀ kind, ¬ pruner.rules.prologue kind <:+: source := by
    rw [Bool.eq_false_iff, ne_eq, pruner.mentionsRegion_iff, not_exists]
  refine ⟨?_, ?_, ?_, ?_⟩
  · rw [Bool.eq_false_iff, ne_eq, pruner.mentionsRegion_iff_bytes, not_exists]
  · intro kept
    rw [absent, Scan.staysOutside_iff pruner.rules_proper]
  · intro unmentioned kept
    unfold scan
    rw [Scan.run_of_absent pruner.rules_proper kept (absent.mp unmentioned)]
    exact congrArg Except.ok (Draft.push_toText .empty source)
  · intro path architecture scanned
    exact pruner.process_eq_scanned source path architecture scanned

/-- A source with a character of several bytes and the start of a prologue, but no
whole one: the scan is skipped and would have given the same. -/
theorem shortcut_exact_unfinished :
    standard.mentionsRegion "é if (Meteor.isClient) ".toList = false ∧
      scan standard.rules .client "é if (Meteor.isClient) ".toList =
        .ok "é if (Meteor.isClient) ".toList ∧
      standard.bypasses "main.ts".toList = false ∧
      standard.process "é if (Meteor.isClient) ".toList "main.ts".toList "web".toList =
        standard.scanned "é if (Meteor.isClient) ".toList "main.ts".toList "web".toList := by
  obtain ⟨_, _, copied, same⟩ := shortcut_exact standard "é if (Meteor.isClient) ".toList
  have unmentioned : standard.mentionsRegion "é if (Meteor.isClient) ".toList = false := by decide
  have scanned : standard.bypasses "main.ts".toList = false := by decide
  exact ⟨unmentioned, copied unmentioned .client, scanned, same _ _ scanned⟩

end RegionBuild.Pruner
