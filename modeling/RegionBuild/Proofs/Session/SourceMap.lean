import RegionBuild.Proofs.Cache.History
import RegionBuild.Proofs.Session.Incremental

/-!
# Whose map an output has

The joining compiler writes the hint of its call into the map. The key of a unit is made
of its files only, so a unit that comes from the cache has the map of the call that
compiled it, whatever hint is given now. In a run of any length in which sources are
registered, units are finalized and files change in any way, every output has the map of
the last completed compile for its architecture. This is the one asked for if the unit
was compiled now or was compiled with the same hint.

The compiler puts down its calls beside the run. A run with such a log is the run without
it, since nothing looks at the log.
-/

namespace RegionBuild

variable {κ : Type}

/-- The last compile for an architecture that completed. -/
def lastCompleted (log : List Compilation) (architecture : Text) : Option Compilation :=
  log.reverse.find? fun compilation =>
    compilation.call.architecture == architecture && compilation.outcome.toBool

/-- One more compile takes the place of the last one if it completed and is for the same
architecture. -/
theorem lastCompleted_append (log : List Compilation) (compilation : Compilation)
    (architecture : Text) :
    lastCompleted (log ++ [compilation]) architecture =
      if compilation.call.architecture = architecture ∧ compilation.outcome.toBool = true then
        some compilation
      else lastCompleted log architecture := by
  unfold lastCompleted
  rw [List.reverse_append, List.reverse_singleton, List.singleton_append, List.find?_cons]
  by_cases replaces : compilation.call.architecture = architecture ∧
      compilation.outcome.toBool = true
  · have test : (compilation.call.architecture == architecture &&
        compilation.outcome.toBool) = true := by simpa using replaces
    rw [test, if_pos replaces]
  · have test : (compilation.call.architecture == architecture &&
        compilation.outcome.toBool) = false := by simpa using replaces
    rw [test, if_neg replaces]

/-- What can happen to a build: the files change in any way, a source is registered, or
the unit is finalized. -/
inductive Act where
  | change (files : FileStore)
  | add (source : Source)
  | finalize (architecture : Text) (hint input : Option Text)

namespace Build

/-- One thing that happens. -/
def act (compiler : Compiler κ) (build : Build κ) : Act → Build κ
  | .change files => { build with bench := { build.bench with files } }
  | .add source => (build.add source).2
  | .finalize architecture hint input => (build.finalize compiler architecture hint input).2

/-- Any number of things that happen one after the other. -/
def run (compiler : Compiler κ) (build : Build κ) (acts : List Act) : Build κ :=
  acts.foldl (act compiler) build

/-- The build with an empty log. -/
def opened (build : Build κ) : Build (κ × List Compilation) :=
  ⟨build.session, build.cache, { build.bench with tools := (build.bench.tools, []) }⟩

/-- The build without its log. -/
def plain (build : Build (κ × List Compilation)) : Build κ :=
  ⟨build.session, build.cache, build.bench.plain⟩

/-- What the compiler put down. -/
def log (build : Build (κ × List Compilation)) : List Compilation := build.bench.tools.2

end Build

/-- Printing lines does not touch the log. -/
theorem Bench.sayAll_plain (bench : Bench (κ × List Compilation)) (lines : List String) :
    (bench.sayAll lines).plain = bench.plain.sayAll lines := by
  induction lines generalizing bench with
  | nil => rfl
  | cons line rest inductionHypothesis => exact inductionHypothesis (bench.say line)

/-- Pruning does not touch the log. -/
theorem pruneSource_plain (pruner : Pruner) (source : Source)
    (bench : Bench (κ × List Compilation)) :
    pruneSource pruner source bench.plain =
      ((pruneSource pruner source bench).1, (pruneSource pruner source bench).2.plain) := by
  have files : bench.plain.files = bench.files := rfl
  unfold pruneSource
  rw [files]
  cases bench.files.readText source.path with
  | error fault => rfl
  | ok text =>
    simp only [← Bench.sayAll_plain]
    cases (pruner.prune text source.logicalPath source.architecture).outcome with
    | error fault => rfl
    | ok pruned => rfl

/-- Timing does not touch the log if what is timed does not. -/
theorem Bench.timed_plain {α : Type} (bench : Bench (κ × List Compilation)) (name : Text)
    {act : Bench κ → α × Bench κ}
    {act' : Bench (κ × List Compilation) → α × Bench (κ × List Compilation)}
    (same : ∀ bench, act bench.plain = ((act' bench).1, (act' bench).2.plain)) :
    bench.plain.timed name act =
      ((bench.timed name act').1, (bench.timed name act').2.plain) := by
  have here := same { bench with watch := bench.watch.start.2 }
  have started : { bench.plain with watch := bench.plain.watch.start.2 } =
      Bench.plain { bench with watch := bench.watch.start.2 } := rfl
  unfold timed
  simp only [started, here]
  rfl

namespace Build

/-- Registering a source goes the same way with a log as without. -/
theorem add_plain (build : Build (κ × List Compilation)) (source : Source) :
    build.plain.add source = ((build.add source).1, (build.add source).2.plain) := by
  have session : build.plain.session = build.session := rfl
  have told := build.bench.sayAll_plain (build.session.discardLine source.package)
  have bench : build.plain.bench = build.bench.plain := rfl
  unfold Build.add
  rw [session, bench]
  cases source.transpile with
  | false =>
    simp only [Bool.false_eq_true, ↓reduceIte, ← Bench.sayAt_plain]
    rfl
  | true =>
    simp only [↓reduceIte, ← told, Bench.timed_plain _ _ (pruneSource_plain _ source)]
    cases timed : (build.bench.sayAll (build.session.discardLine source.package)).timed
        (pruneTimingName source.architecture)
        (pruneSource (build.session.enter source.package).pruner source) with
    | mk outcome after =>
      cases outcome with
      | error fault => rfl
      | ok text =>
        have files : after.plain.files = after.files := rfl
        simp only [files]
        cases writeScratch after.files (build.session.enter source.package).scratchRoot
            source.architecture source.path text with
        | mk written store =>
          cases written with
          | error fault => rfl
          | ok scratch =>
            have said := Bench.sayAt_plain { after with files := store }
              (build.session.enter source.package).verbosity 3
              s!"Pruned {String.ofList source.path} -> {String.ofList scratch}"
            simp only [plain, said]
            rfl

/-- Finalizing goes the same way with a log as without. -/
theorem finalize_plain (compiler : Compiler κ) (build : Build (κ × List Compilation))
    (architecture : Text) (hint input : Option Text) :
    build.plain.finalize compiler architecture hint input =
      ((build.finalize compiler.logged architecture hint input).1,
        (build.finalize compiler.logged architecture hint input).2.plain) := by
  rw [build.plain.finalize_eq compiler architecture hint input _
      (build.cache.get_logged compiler architecture build.session.paths hint build.bench),
    build.finalize_eq compiler.logged architecture hint input _ rfl]
  rfl

/-- A run with a log is the run without it. -/
theorem run_plain (compiler : Compiler κ) (build : Build (κ × List Compilation))
    (acts : List Act) : (build.run compiler.logged acts).plain = build.plain.run compiler acts := by
  induction acts generalizing build with
  | nil => rfl
  | cons first rest inductionHypothesis =>
    have here : (build.act compiler.logged first).plain = build.plain.act compiler first := by
      cases first with
      | change files => rfl
      | add source => exact (congrArg Prod.snd (build.add_plain source)).symm
      | finalize architecture hint input =>
        exact (congrArg Prod.snd (build.finalize_plain compiler architecture hint input)).symm
    have later := inductionHypothesis (build.act compiler.logged first)
    rw [here] at later
    exact later

/-- The result of the last completed compile for an architecture, with the map for that
call. -/
def Carries (log : List Compilation) (architecture : Text) (result : Compiled) : Prop :=
  ∃ compilation, lastCompleted log architecture = some compilation ∧
    compilation.outcome = .ok result ∧ result.map = Recorder.mapFor compilation.call.hint

/-- A compile for another architecture, or one that fails, changes nothing about this. -/
theorem Carries.append {log : List Compilation} {architecture : Text} {result : Compiled}
    (carries : Carries log architecture result) (compilation : Compilation)
    (passes : ¬ (compilation.call.architecture = architecture ∧
      compilation.outcome.toBool = true)) :
    Carries (log ++ [compilation]) architecture result := by
  unfold Carries
  rw [lastCompleted_append, if_neg passes]
  exact carries

/-- The invariant of a run: the recorder has nothing to report, and every entry is the
result of the last completed compile for its architecture, with the map for that call. -/
structure Labelled (build : Build (Recorder × List Compilation)) : Prop where
  silent : build.bench.tools.1.diagnostics = []
  entry : ∀ architecture entry, build.cache.entry architecture = some entry →
    Carries build.log architecture entry.result

/-- Only the entries and the tools count. -/
theorem Labelled.of_frame {build next : Build (Recorder × List Compilation)}
    (labelled : build.Labelled) (tools : next.bench.tools = build.bench.tools)
    (entries : ∀ architecture, next.cache.entry architecture = build.cache.entry architecture) :
    next.Labelled where
  silent := by
    rw [tools]
    exact labelled.silent
  entry := by
    intro architecture entry found
    have log : next.log = build.log := congrArg Prod.snd tools
    rw [log]
    exact labelled.entry architecture entry ((entries architecture).symm.trans found)

/-- A compile by a recorder with nothing to report: the map is for the hint of the call,
and there is still nothing to report. -/
theorem compile_labels {cache : Cache} {text architecture : Text} {paths : List Text}
    {hint : Option Text} {bench after : Bench Recorder} {settled : Cache}
    {outcome : Except Fault Compiled} (silent : bench.tools.diagnostics = [])
    (compiled : cache.compile Recorder.compile text architecture paths hint bench =
      (outcome, settled, after)) :
    after.tools.diagnostics = [] ∧
      ∀ result, outcome = .ok result → result.map = Recorder.mapFor hint := by
  rw [Cache.compile_eq] at compiled
  have result_eq : bench.tools.result bench.files paths hint = outcome := congrArg Prod.fst compiled
  have tools : after.tools.diagnostics = bench.tools.diagnostics :=
    (congrArg (fun answer => answer.2.2.tools.diagnostics) compiled).symm
  refine ⟨tools.trans silent, fun result done => ?_⟩
  rw [Recorder.result_of_silent silent, done] at result_eq
  obtain ⟨source, _, same⟩ := bind_eq_ok.mp result_eq
  cases same
  rfl

/-- A request to a labelled build that is compiled. -/
theorem Labelled.compile {build : Build (Recorder × List Compilation)} (labelled : build.Labelled)
    (session : Session) (cache : Cache)
    (entries : ∀ architecture, cache.entry architecture = build.cache.entry architecture)
    (text architecture : Text) (paths : List Text) (hint : Option Text)
    (bench : Bench (Recorder × List Compilation)) (tools : bench.tools = build.bench.tools) :
    ∃ answer settled after,
      cache.compile Recorder.compile.logged text architecture paths hint bench =
        (answer, settled, after) ∧
      Labelled ⟨session, settled, after⟩ ∧
      after.tools.2 = build.log ++ [⟨⟨paths, architecture, hint⟩, answer⟩] ∧
      ∀ result, answer = .ok result → Carries after.tools.2 architecture result := by
  obtain ⟨answer, after, logged, plain, log⟩ :=
    cache.compile_logged Recorder.compile text architecture paths hint bench
  have here : bench.plain.tools.diagnostics = [] := by
    change bench.tools.1.diagnostics = []
    rw [tools]
    exact labelled.silent
  obtain ⟨silent, labels⟩ := compile_labels here plain
  have grown : after.tools.2 = build.log ++ [⟨⟨paths, architecture, hint⟩, answer⟩] := by
    rw [log, tools]
    rfl
  have carries : ∀ result, answer = .ok result → Carries after.tools.2 architecture result := by
    rintro result rfl
    refine ⟨⟨⟨paths, architecture, hint⟩, .ok result⟩, ?_, rfl, labels result rfl⟩
    rw [grown, lastCompleted_append, if_pos ⟨rfl, rfl⟩]
  refine ⟨answer, _, after, logged, ⟨silent, ?_⟩, grown, carries⟩
  intro other entry found
  change Cache.entry (cache.settle architecture text answer) other = some entry at found
  rw [Cache.entry_settle, entries] at found
  change Carries after.tools.2 other entry.result
  by_cases own : other = architecture
  · rw [if_pos own] at found
    cases answer with
    | error fault =>
      rw [grown]
      exact (labelled.entry other entry found).append _ nofun
    | ok result =>
      rw [own, ← Option.some.inj found]
      exact carries result rfl
  · rw [if_neg own] at found
    rw [grown]
    exact (labelled.entry other entry found).append _ fun both => own both.1.symm

/-- A request to a labelled build leaves it labelled. If there is an answer it is the
result of the last completed compile for the architecture: that of the request itself, or
an earlier one if nothing was compiled. -/
theorem Labelled.get {build : Build (Recorder × List Compilation)} (labelled : build.Labelled)
    (session : Session) (architecture : Text) (paths : List Text) (hint : Option Text) :
    ∃ answer cache after,
      build.cache.get Recorder.compile.logged architecture paths hint build.bench =
        (answer, cache, after) ∧
      Labelled ⟨session, cache, after⟩ ∧
      (after.tools.2 = build.log ∨
        after.tools.2 = build.log ++ [⟨⟨paths, architecture, hint⟩, answer⟩]) ∧
      ∀ result, answer = .ok result → Carries after.tools.2 architecture result := by
  cases keyed : Cache.key build.bench.files paths with
  | error fault =>
    exact ⟨_, _, _, build.cache.get_of_unkeyed _ architecture paths hint build.bench keyed,
      labelled.of_frame rfl fun _ => rfl, Or.inl rfl, nofun⟩
  | ok text =>
    by_cases matched : ∃ entry, build.cache.entry architecture = some entry ∧ entry.key = text
    · obtain ⟨entry, found, same⟩ := matched
      have tools := build.bench.sayAt_tools build.cache.verbosity 4
        (Cache.hitLine architecture paths.length)
      refine ⟨_, _, _, build.cache.get_of_match _ architecture paths hint build.bench keyed found
        same, labelled.of_frame tools fun _ => rfl, Or.inl (congrArg Prod.snd tools), ?_⟩
      rintro _ ⟨⟩
      rw [tools]
      exact labelled.entry architecture entry found
    · have missed := build.cache.get_of_mismatch Recorder.compile.logged architecture paths hint
        build.bench keyed fun entry found same => matched ⟨entry, found, same⟩
      obtain ⟨answer, cache, after, compiled, labelled', log, carries⟩ := labelled.compile session
        { build.cache with misses := build.cache.misses + 1 } (fun _ => rfl) text architecture
        paths hint _ (build.bench.sayAt_tools build.cache.verbosity 4
          (Cache.missLine architecture (build.cache.entry architecture)))
      exact ⟨answer, cache, after, missed.trans compiled, labelled', Or.inr log, carries⟩

/-- Everything that can happen leaves a build labelled. -/
theorem Labelled.act {build : Build (Recorder × List Compilation)} (labelled : build.Labelled)
    (act : Act) : (build.act Recorder.compile.logged act).Labelled := by
  cases act with
  | change files => exact labelled.of_frame rfl fun _ => rfl
  | add source =>
    cases transpiled : source.transpile with
    | true =>
      obtain ⟨bench, _, tools, added⟩ := build.add_eq source transpiled
      rw [Build.act, added]
      exact labelled.of_frame tools fun _ => rfl
    | false =>
      obtain ⟨bench, _, tools, added⟩ := build.add_skipped transpiled
      rw [Build.act, added]
      exact labelled.of_frame tools fun _ => rfl
  | finalize architecture hint input =>
    obtain ⟨answer, cache, after, got, labelled', _⟩ := labelled.get
      { build.session with paths := [] } architecture build.session.paths hint
    rw [Build.act, build.finalize_eq _ architecture hint input _ got]
    exact labelled'

/-- The acts may come in any order. One that fails is allowed too. -/
theorem Labelled.run {build : Build (Recorder × List Compilation)} (labelled : build.Labelled)
    (acts : List Act) : (build.run Recorder.compile.logged acts).Labelled := by
  induction acts generalizing build with
  | nil => exact labelled
  | cons first rest inductionHypothesis => exact inductionHypothesis (labelled.act first)

/-- A build with an empty cache and a recorder with nothing to report is labelled. -/
theorem opened_labelled {build : Build Recorder} (empty : build.cache.entries = [])
    (silent : build.bench.tools.diagnostics = []) : build.opened.Labelled where
  silent := silent
  entry := by
    intro architecture entry found
    change build.cache.entries.lookup architecture = some entry at found
    rw [empty] at found
    cases found

/-- What the compiler puts down in a run. -/
def compilations (build : Build Recorder) (acts : List Act) : List Compilation :=
  (build.opened.run Recorder.compile.logged acts).log

/-- Maps are the same exactly if the hints read the same. -/
theorem mapFor_eq_iff {hint other : Option Text} :
    Recorder.mapFor hint = Recorder.mapFor other ↔
      hint.getD "None".toList = other.getD "None".toList := by
  unfold Recorder.mapFor
  rw [List.append_left_inj, List.append_right_inj]

/-- The map of an output is not lost for being empty. -/
theorem outputOf_map (name : Text) {result : Compiled} {hint : Option Text}
    (labelled : result.map = Recorder.mapFor hint) :
    (outputOf name result).map = some (Recorder.mapFor hint) := by
  unfold outputOf nonEmpty
  rw [labelled]
  rfl

/-- Finalizing a labelled build: the output has the map for the hint of the last completed
compile, which was made now or is the last one of before. -/
theorem Labelled.finalize {build : Build (Recorder × List Compilation)}
    (labelled : build.Labelled) {architecture : Text} {hint input : Option Text} {output : Output}
    (returned : (build.plain.finalize Recorder.compile architecture hint input).1 = .ok output) :
    ∃ compilation : Compilation,
      lastCompleted (build.act Recorder.compile.logged (.finalize architecture hint input)).log
          architecture = some compilation ∧
        output.map = some (Recorder.mapFor compilation.call.hint) ∧
        ((build.act Recorder.compile.logged (.finalize architecture hint input)).log =
            build.log ++ [compilation] ∧
          compilation.call = ⟨build.session.paths, architecture, hint⟩ ∨
        (build.act Recorder.compile.logged (.finalize architecture hint input)).log =
            build.log) := by
  obtain ⟨answer, cache, after, got, _, log, carries⟩ := labelled.get
    { build.session with paths := [] } architecture build.session.paths hint
  have finalized := build.finalize_eq Recorder.compile.logged architecture hint input _ got
  have now : (build.act Recorder.compile.logged (.finalize architecture hint input)).log =
      after.tools.2 := by
    rw [Build.act, finalized]
    rfl
  rw [build.finalize_plain, finalized] at returned
  rw [now]
  cases answer with
  | error fault => cases returned
  | ok result =>
    obtain ⟨compilation, last, outcome, map⟩ := carries result rfl
    refine ⟨compilation, last, ?_, ?_⟩
    · cases named : input <|> hint with
      | none => simp [named] at returned
      | some name =>
        simp only [named, Except.ok.injEq] at returned
        rw [← returned, outputOf_map name map]
    · rcases log with same | grown
      · exact Or.inr same
      · refine Or.inl ?_
        rw [grown, lastCompleted_append, if_pos ⟨rfl, rfl⟩] at last
        obtain rfl := Option.some.inj last
        exact ⟨grown, rfl⟩

/-- However a run went, an output has the map for the hint of the last completed compile for
its architecture. Either that is the call that was made for this output, or the unit came
from the cache and nothing was compiled. So it is the map that compiling now would give
exactly if that hint reads like the one given now. -/
theorem finalize_map (start : Build Recorder) (empty : start.cache.entries = [])
    (silent : start.bench.tools.diagnostics = []) (acts : List Act) (architecture : Text)
    (hint input : Option Text) (output : Output)
    (returned : ((start.run Recorder.compile acts).finalize Recorder.compile architecture hint
      input).1 = .ok output) :
    ∃ compilation : Compilation,
      lastCompleted (start.compilations (acts ++ [.finalize architecture hint input]))
          architecture = some compilation ∧
        output.map = some (Recorder.mapFor compilation.call.hint) ∧
        (start.compilations (acts ++ [.finalize architecture hint input]) =
            start.compilations acts ++ [compilation] ∧
          compilation.call = ⟨(start.run Recorder.compile acts).session.paths, architecture, hint⟩ ∨
        start.compilations (acts ++ [.finalize architecture hint input]) =
            start.compilations acts) ∧
        ∀ compiled, (Recorder.compile (start.run Recorder.compile acts).session.paths architecture
            hint (start.run Recorder.compile acts).bench).1 = .ok compiled →
          (output.map = some compiled.map ↔
            compilation.call.hint.getD "None".toList = hint.getD "None".toList) := by
  have plain : (start.opened.run Recorder.compile.logged acts).plain =
      start.run Recorder.compile acts := start.opened.run_plain Recorder.compile acts
  have labelled := (opened_labelled empty silent).run acts
  have now : start.compilations (acts ++ [.finalize architecture hint input]) =
      ((start.opened.run Recorder.compile.logged acts).act Recorder.compile.logged
        (.finalize architecture hint input)).log := by
    unfold compilations run
    rw [List.foldl_append]
    rfl
  have before : start.compilations acts = (start.opened.run Recorder.compile.logged acts).log := rfl
  rw [← plain] at returned ⊢
  rw [now, before]
  generalize start.opened.run Recorder.compile.logged acts = build at labelled returned ⊢
  obtain ⟨compilation, last, map, made⟩ := labelled.finalize returned
  refine ⟨compilation, last, map, made, fun compiled done => ?_⟩
  have clean : (Recorder.compile build.plain.session.paths architecture hint build.plain.bench).1 =
      do
        let source ← Recorder.joined build.plain.bench.files build.plain.session.paths
        return { source, map := Recorder.mapFor hint } :=
    Recorder.result_of_silent labelled.silent _ _ _
  rw [clean] at done
  obtain ⟨source, _, same⟩ := bind_eq_ok.mp done
  cases same
  rw [map, Option.some.injEq, mapFor_eq_iff]

/-- The acts of the sample: its source is registered and finalized, and registered again. -/
def sampleActs : List Act :=
  [.add sampleSource, .finalize "web".toList (some ['m']) none, .add sampleSource]

/-- The file of the sample did not change, so that the output for another hint has the map
of the first compile. -/
theorem finalize_map_reused :
    sample.cache.entries = [] ∧ sample.bench.tools.diagnostics = [] ∧
      ∃ output compilation,
        ((sample.run Recorder.compile sampleActs).finalize Recorder.compile "web".toList
            (some ['n']) none).1 = .ok output ∧
          lastCompleted (sample.compilations (sampleActs ++
            [.finalize "web".toList (some ['n']) none])) "web".toList = some compilation ∧
          output.map = some (Recorder.mapFor compilation.call.hint) ∧
          compilation.call.hint = some ['m'] := by
  have returned : ((sample.run Recorder.compile sampleActs).finalize Recorder.compile
      "web".toList (some ['n']) none).1 =
        .ok (outputOf ['n'] ⟨['a'], Recorder.mapFor (some ['m']), []⟩) := by
    rfl
  obtain ⟨compilation, last, map, _⟩ := finalize_map sample rfl rfl sampleActs "web".toList
    (some ['n']) none _ returned
  refine ⟨rfl, rfl, _, compilation, returned, last, map, ?_⟩
  have first : lastCompleted (sample.compilations (sampleActs ++
      [.finalize "web".toList (some ['n']) none])) "web".toList =
        some ⟨⟨["/w/t/web/w/a".toList], "web".toList, some ['m']⟩,
          .ok ⟨['a'], Recorder.mapFor (some ['m']), []⟩⟩ := by
    rfl
  rw [← Option.some.inj (first.symm.trans last)]

/-- A hint that is not that of the first compile does not get into the map. -/
theorem finalize_other_hint :
    ∃ output, ((sample.run Recorder.compile sampleActs).finalize Recorder.compile "web".toList
        (some ['n']) none).1 = .ok output ∧
      output.map ≠ some (Recorder.mapFor (some ['n'])) :=
  ⟨outputOf ['n'] ⟨['a'], Recorder.mapFor (some ['m']), []⟩, rfl, by decide⟩

end Build

end RegionBuild
