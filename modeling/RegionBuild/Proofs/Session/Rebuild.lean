import Mathlib.Data.List.ReduceOption
import RegionBuild.Proofs.Cache.History
import RegionBuild.Proofs.FileStore.Writing
import RegionBuild.Proofs.Region.Layout
import RegionBuild.Proofs.Session.Registration

/-!
# Building again changes nothing

Sources are registered one after the other and the unit is finalized. If all of this
succeeds, doing it again succeeds with the same output, calls no compiler and leaves
the store exactly as it is.

The first time, every scratch copy comes to hold the pruned text of its source. No later
copy is written over it or over its source, and the compiler leaves both, so at the end
every copy is what pruning its source gives. Such a copy is not written again, and
directories that are there are not made again. So the files keep their times, the key of
the unit is the one under which its result was stored or found, and the second request
is a hit.
-/

namespace RegionBuild

open FileStore (Rewrites)

/-- Refreshing a file leaves it with the text and touches no other. -/
theorem refresh_eq_ok {files after : FileStore} {path text : Text} (plain : '\r' ∉ text)
    (done : refresh files path text = (.ok (), after)) :
    ∃ location, files.locate path = .ok location ∧ Rewrites (· = location) files after ∧
      after.readText path = .ok text := by
  rcases refresh_eq_ok_cases done with ⟨read, rfl⟩ | written
  · obtain ⟨location, _, _, located, _⟩ := FileStore.located_of_readText read
    exact ⟨location, located, .of_keeps (.refl after), read⟩
  · obtain ⟨location, located, rewritten, stored⟩ := FileStore.writeBytes_rewrites written
    have found := FileStore.node_eq_ok.mpr ⟨location, rewritten.locate located, stored⟩
    exact ⟨location, located, rewritten, FileStore.readText_of_encoded found plain⟩

/-- The text of a copy has no carriage returns, like all that was read. -/
theorem notMem_copyText {pruner : Pruner} {files : FileStore} {source : Source} {text : Text}
    (copied : copyText pruner files source = .ok text) : '\r' ∉ text := by
  unfold copyText at copied
  obtain ⟨original, read, pruned⟩ := bind_eq_ok.mp copied
  split at pruned
  · cases pruned
  · rename_i text' processed
    rw [← Except.ok.inj pruned]
    exact fun inside => FileStore.notMem_of_readText read
      ((Pruner.process_sublist processed).subset inside)

/-- A written scratch copy: its directory was made first, then the copy was refreshed. -/
theorem writeScratch_eq_ok {before after : FileStore} {root : Option Text}
    {architecture path text scratch : Text}
    (done : writeScratch before root architecture path text = (.ok scratch, after)) :
    ∃ made, scratch = scratchPath (root.getD (defaultScratchRoot before.workingDirectory))
        architecture path ∧
      Path.parent scratch ≠ [] ∧ before.Keeps made ∧
      refresh made scratch text = (.ok (), after) := by
  cases prepared : prepareScratch before root architecture path with
  | mk result made =>
    cases result with
    | error fault => simp [writeScratch, prepared] at done
    | ok scratch' =>
      rw [writeScratch_of_prepared prepared, Prod.mk.injEq] at done
      obtain ⟨⟨_, refreshed, rfl⟩, rfl⟩ := done.imp_left map_eq_ok.mp
      have place := prepareScratch_path (congrArg Prod.fst prepared)
      have kept := before.makeDirectories_keeps (Path.parent scratch')
      unfold prepareScratch at prepared
      simp only [← place] at prepared
      refine ⟨made, place, ?_, ?_, Prod.ext refreshed rfl⟩
      · intro nowhere
        rw [nowhere, FileStore.makeDirectories_nil] at prepared
        cases prepared
      · split at prepared
        · cases prepared
        · rename_i same
          rw [same] at kept
          rw [← (Prod.mk.inj prepared).2]
          exact kept

/-- A copied source: the copy holds its pruned text, and no other file was touched. -/
theorem copySource_eq_ok {pruner : Pruner} {root : Option Text} {before after : FileStore}
    {source : Source} {scratch : Text}
    (copied : copySource pruner root before source = (.ok scratch, after)) :
    scratch = scratchPath (root.getD (defaultScratchRoot before.workingDirectory))
        source.architecture source.path ∧
      Path.parent scratch ≠ [] ∧
      ∃ text location, copyText pruner before source = .ok text ∧
        after.locate scratch = .ok location ∧ Rewrites (· = location) before after ∧
        after.readText scratch = .ok text := by
  unfold copySource at copied
  cases pruned : copyText pruner before source with
  | error fault => simp [pruned] at copied
  | ok text =>
    simp only [pruned] at copied
    obtain ⟨made, place, below, kept, refreshed⟩ := writeScratch_eq_ok copied
    obtain ⟨location, located, rewritten, read⟩ :=
      refresh_eq_ok (notMem_copyText pruned) refreshed
    exact ⟨place, below, text, location, rfl, rewritten.locate located,
      (Rewrites.of_keeps kept).trans rewritten, read⟩

/-- Copying a source again whose copy is up to date changes nothing. -/
theorem copySource_of_current {pruner : Pruner} {root : Option Text} {files : FileStore}
    {source : Source} {scratch text : Text} (rooted : files.Rooted)
    (place : scratch = scratchPath (root.getD (defaultScratchRoot files.workingDirectory))
      source.architecture source.path)
    (below : Path.parent scratch ≠ []) (pruned : copyText pruner files source = .ok text)
    (current : files.readText scratch = .ok text) :
    copySource pruner root files source = (.ok scratch, files) := by
  obtain ⟨location, _, _, located, _⟩ := FileStore.located_of_readText current
  have made := rooted.makeDirectories_parent located below
  have refreshed := refresh_of_readText current
  subst place
  have prepared : prepareScratch files root source.architecture source.path =
      (.ok (scratchPath (root.getD (defaultScratchRoot files.workingDirectory))
        source.architecture source.path), files) := by
    unfold prepareScratch
    dsimp only
    rw [made]
  rw [copySource, pruned]
  dsimp only
  rw [writeScratch_of_prepared prepared, refreshed]
  rfl

/-- Whether one of the paths leads to a location. -/
def FileStore.Covers (files : FileStore) (paths : List Text) (location : Location) : Prop :=
  .ok location ∈ paths.map files.locate

/-- Copying a source adds its copy to what is written. -/
theorem copySource_rewrites {pruner : Pruner} {root : Option Text}
    {before after later : FileStore} {source : Source} {scratch : Text} {others : List Text}
    (copied : copySource pruner root before source = (.ok scratch, after))
    (rewritten : Rewrites (later.Covers others) after later) :
    Rewrites (later.Covers (scratch :: others)) before later := by
  obtain ⟨_, _, _, location, _, located, frame, _⟩ := copySource_eq_ok copied
  refine (frame.mono ?_).trans (rewritten.mono ?_)
  · rintro _ rfl
    exact List.mem_cons.mpr (Or.inl (rewritten.locate located).symm)
  · intro target covered
    exact List.mem_cons_of_mem _ covered

/-- The text of a copy is that of the file, pruned, and depends on nothing else. -/
theorem copyText_rewrites {pruner : Pruner} {before after : FileStore} {source : Source}
    {text : Text} {written : Location → Prop} (rewritten : Rewrites written before after)
    (copied : copyText pruner before source = .ok text)
    (unwritten : ∀ location, before.locate source.path = .ok location → ¬ written location) :
    copyText pruner after source = .ok text := by
  unfold copyText at copied ⊢
  obtain ⟨original, read, pruned⟩ := bind_eq_ok.mp copied
  exact bind_eq_ok.mpr ⟨original, rewritten.readText read unwritten, pruned⟩

/-- A source that was copied is copied again without a change, as long as neither its file
nor its copy was written since. -/
theorem copySource_again {pruner : Pruner} {root : Option Text} {before after later : FileStore}
    {source : Source} {scratch : Text} {others : List Text}
    (copied : copySource pruner root before source = (.ok scratch, after))
    (rewritten : Rewrites (later.Covers others) after later) (rooted : later.Rooted)
    (distinct : later.locate scratch ∉ others.map later.locate)
    (apart : later.locate source.path ∉ (scratch :: others).map later.locate) :
    copySource pruner root later source = (.ok scratch, later) := by
  obtain ⟨place, below, text, _, pruned, _, _, read⟩ := copySource_eq_ok copied
  have whole := copySource_rewrites copied rewritten
  have pruned : copyText pruner later source = .ok text := by
    refine copyText_rewrites whole pruned fun target found covered => apart ?_
    rw [whole.locate found]
    exact covered
  have current : later.readText scratch = .ok text := by
    refine rewritten.readText read fun target found covered => distinct ?_
    rw [rewritten.locate found]
    exact covered
  rw [← whole.workingDirectory] at place
  exact copySource_of_current rooted place below pruned current

/-- Sources copied one after the other, and where their copies are. A source that opted
out has none. -/
inductive Copied (pruner : Pruner) (root : Option Text) :
    FileStore → List Source → List (Option Text) → FileStore → Prop
  | nil (files : FileStore) : Copied pruner root files [] [] files
  | copy {before middle after : FileStore} {source : Source} {rest : List Source}
      {scratch : Text} {copies : List (Option Text)} : source.transpile = true →
      copySource pruner root before source = (.ok scratch, middle) →
      Copied pruner root middle rest copies after →
      Copied pruner root before (source :: rest) (some scratch :: copies) after
  | skip {before after : FileStore} {source : Source} {rest : List Source}
      {copies : List (Option Text)} : source.transpile = false →
      Copied pruner root before rest copies after →
      Copied pruner root before (source :: rest) (none :: copies) after

namespace Copied

variable {pruner : Pruner} {root : Option Text} {before after later : FileStore}
  {sources : List Source} {copies : List (Option Text)}

/-- Copying writes the copies and no other file. -/
theorem rewrites (copied : Copied pruner root before sources copies after)
    (kept : after.Keeps later) : Rewrites (later.Covers copies.reduceOption) before later := by
  induction copied with
  | nil files => exact .of_keeps kept
  | copy transpiled first rest inductionHypothesis =>
    exact copySource_rewrites first (inductionHypothesis kept)
  | skip skipped rest inductionHypothesis => exact inductionHypothesis kept

/-- Copying again changes nothing if the copies are different files and none of them is a
source.

Induct over the sources: what is copied after one of them is written elsewhere. -/
theorem again (copied : Copied pruner root before sources copies after)
    (kept : after.Keeps later) (rooted : later.Rooted)
    (distinct : (copies.reduceOption.map later.locate).Nodup)
    (apart : ∀ source ∈ sources, source.transpile = true →
      later.locate source.path ∉ copies.reduceOption.map later.locate) :
    Copied pruner root later sources copies later := by
  induction copied with
  | nil files => exact .nil later
  | @copy before middle after source rest scratch copies transpiled first others
      inductionHypothesis =>
    rw [List.reduceOption_cons_of_some, List.map_cons, List.nodup_cons] at distinct
    have own := apart source List.mem_cons_self transpiled
    refine .copy transpiled (copySource_again first (others.rewrites kept) rooted distinct.1 own)
      (inductionHypothesis kept distinct.2 ?_)
    intro other listed transpiled' covered
    exact apart other (List.mem_cons_of_mem _ listed) transpiled'
      (List.mem_cons_of_mem _ covered)
  | skip skipped others inductionHypothesis =>
    exact .skip skipped (inductionHypothesis kept distinct fun other listed =>
      apart other (List.mem_cons_of_mem _ listed))

end Copied

section Registering

variable {κ : Type}

/-- The session after sources were registered with these copies. -/
def Session.registerAll (session : Session) (added : List (Source × Option Text)) : Session :=
  added.foldl (fun session (source, copy) =>
    match copy with
    | none => session
    | some scratch => session.register source.package (.ok scratch)) session

/-- Registering leaves what is chosen about the session. -/
theorem Session.registerAll_eq (session : Session) (added : List (Source × Option Text)) :
    ∃ package paths, session.registerAll added = { session with package, paths } := by
  induction added generalizing session with
  | nil => exact ⟨session.package, session.paths, rfl⟩
  | cons first rest inductionHypothesis =>
    obtain ⟨source, copy⟩ := first
    cases copy with
    | none => exact inductionHypothesis session
    | some scratch =>
      obtain ⟨paths, entered, _⟩ := session.enter_eq source.package
      obtain ⟨package, paths', rest⟩ :=
        inductionHypothesis (session.register source.package (.ok scratch))
      refine ⟨package, paths', rest.trans ?_⟩
      simp only [Session.register, entered]

/-- While nothing is pending it does not matter what package was last. -/
theorem Session.registerAll_of_idle {session : Session} (idle : session.paths = [])
    (package : Option Text) (added : List (Source × Option Text)) :
    ({ session with package }.registerAll added).paths = (session.registerAll added).paths := by
  induction added with
  | nil => rfl
  | cons first rest inductionHypothesis =>
    obtain ⟨source, copy⟩ := first
    cases copy with
    | none => exact inductionHypothesis
    | some scratch =>
      have entered : ∀ last, { session with package := last }.enter source.package =
          { session with package := source.package, paths := [] } := by
        intro last
        unfold Session.enter
        split
        · rename_i same
          rw [← idle, same]
        · rfl
      have same : { session with package }.register source.package (.ok scratch) =
          session.register source.package (.ok scratch) := by
        simp only [Session.register, entered package, entered session.package]
      exact congrArg (fun session => (Session.registerAll session rest).paths) same

/-- Sources of one package join the unit one after the other. -/
theorem Session.registerAll_paths {session : Session} {added : List (Source × Option Text)}
    (same : ∀ addition ∈ added, addition.1.package = session.package) :
    (session.registerAll added).paths =
      session.paths ++ (added.map Prod.snd).reduceOption := by
  induction added generalizing session with
  | nil => exact (List.append_nil session.paths).symm
  | cons first rest inductionHypothesis =>
    obtain ⟨source, copy⟩ := first
    have later : ∀ addition ∈ rest, addition.1.package = session.package :=
      fun addition listed => same addition (List.mem_cons_of_mem _ listed)
    cases copy with
    | none => exact inductionHypothesis later
    | some scratch =>
      have own : source.package = session.package := same (source, some scratch) List.mem_cons_self
      have entered : session.enter source.package = session := if_pos own
      have registered : session.register source.package (.ok scratch) =
          { session with paths := session.paths ++ [scratch] } := by
        simp only [Session.register, entered]
      have onward := @inductionHypothesis { session with paths := session.paths ++ [scratch] } later
      rw [List.map_cons, List.reduceOption_cons_of_some, List.append_cons, ← onward, ← registered]
      rfl

/-- Register sources one after the other, up to the first failure, and give the paths of
their scratch copies. -/
def Build.addAll (build : Build κ) : List Source → Except Fault (List (Option Text)) × Build κ
  | [] => (.ok [], build)
  | source :: rest =>
    match build.add source with
    | (.error fault, after) => (.error fault, after)
    | (.ok copy, after) =>
      match after.addAll rest with
      | (.error fault, last) => (.error fault, last)
      | (.ok copies, last) => (.ok (copy :: copies), last)

/-- Sources that are registered: first one, then the others. -/
theorem Build.addAll_cons_eq_ok {build last : Build κ} {source : Source} {rest : List Source}
    {copies : List (Option Text)} (added : build.addAll (source :: rest) = (.ok copies, last)) :
    ∃ copy more after, build.add source = (.ok copy, after) ∧
      after.addAll rest = (.ok more, last) ∧ copies = copy :: more := by
  rw [Build.addAll] at added
  cases first : build.add source with
  | mk result after =>
    cases result with
    | error fault => simp [first] at added
    | ok copy =>
      simp only [first] at added
      cases others : after.addAll rest with
      | mk results last' =>
        cases results with
        | error fault => simp [others] at added
        | ok more =>
          simp only [others, Prod.mk.injEq, Except.ok.injEq] at added
          exact ⟨copy, more, after, rfl, by rw [others, added.2], added.1.symm⟩

/-- A source that can be copied is registered. -/
theorem Build.add_of_copySource (build : Build κ) {source : Source} {scratch : Text}
    {files : FileStore} (transpiled : source.transpile = true)
    (copied : copySource build.session.pruner build.session.scratchRoot build.bench.files source =
      (.ok scratch, files)) :
    ∃ bench : Bench κ, bench.files = files ∧ bench.tools = build.bench.tools ∧
      build.add source =
        (.ok (some scratch),
          ⟨build.session.register source.package (.ok scratch), build.cache, bench⟩) := by
  obtain ⟨bench, files, tools, added⟩ := build.add_eq source transpiled
  rw [copied] at files added
  exact ⟨bench, files, tools, added⟩

/-- Registered sources were copied, and this is all that happened besides the unit. -/
theorem Build.addAll_eq_ok {build ready : Build κ} {sources : List Source}
    {copies : List (Option Text)} (added : build.addAll sources = (.ok copies, ready)) :
    Copied build.session.pruner build.session.scratchRoot build.bench.files sources copies
        ready.bench.files ∧
      ready.session = build.session.registerAll (sources.zip copies) ∧
      ready.cache = build.cache ∧ ready.bench.tools = build.bench.tools := by
  induction sources generalizing build copies with
  | nil =>
    cases added
    exact ⟨.nil _, rfl, rfl, rfl⟩
  | cons source rest inductionHypothesis =>
    obtain ⟨copy, more, after, first, others, rfl⟩ := Build.addAll_cons_eq_ok added
    obtain ⟨copied, session, cache, tools⟩ := inductionHypothesis others
    cases transpiled : source.transpile with
    | false =>
      obtain ⟨bench, files', tools', skipped⟩ := build.add_skipped transpiled
      rw [skipped] at first
      cases first
      rw [files'] at copied
      exact ⟨.skip transpiled copied, session, cache, tools.trans tools'⟩
    | true =>
      cases written : copySource build.session.pruner build.session.scratchRoot build.bench.files
          source with
      | mk outcome files =>
        obtain ⟨bench, files', tools', done⟩ := build.add_eq source transpiled
        rw [written] at files' done
        rw [done] at first
        cases outcome with
        | error fault => cases first
        | ok scratch =>
          cases first
          obtain ⟨paths, entered, _⟩ := build.session.enter_eq source.package
          simp only [Session.register, entered, files'] at copied
          exact ⟨.copy transpiled written copied, session, cache, tools.trans tools'⟩

/-- Sources that can be copied can be registered.

Induct over the sources: registering one of them changes nothing that is chosen about the
session. -/
theorem Copied.exists_addAll {pruner : Pruner} {root : Option Text} {before after : FileStore}
    {sources : List Source} {copies : List (Option Text)}
    (copied : Copied pruner root before sources copies after) (build : Build κ)
    (samePruner : build.session.pruner = pruner) (sameRoot : build.session.scratchRoot = root)
    (sameFiles : build.bench.files = before) :
    ∃ ready, build.addAll sources = (.ok copies, ready) ∧ ready.bench.files = after := by
  induction copied generalizing build with
  | nil files => exact ⟨build, rfl, sameFiles⟩
  | @copy before middle after source rest scratch copies transpiled first others
      inductionHypothesis =>
    obtain ⟨bench, files, _, added⟩ := build.add_of_copySource transpiled
      (by rw [samePruner, sameRoot, sameFiles]; exact first)
    obtain ⟨paths, entered, _⟩ := build.session.enter_eq source.package
    obtain ⟨ready, more, last⟩ := inductionHypothesis
      ⟨build.session.register source.package (.ok scratch), build.cache, bench⟩
      (by simp only [Session.register, entered, samePruner])
      (by simp only [Session.register, entered, sameRoot]) files
    refine ⟨ready, ?_, last⟩
    rw [Build.addAll, added]
    simp only [more]
  | skip skipped others inductionHypothesis =>
    obtain ⟨bench, files, _, added⟩ := build.add_skipped skipped
    obtain ⟨ready, more, last⟩ := inductionHypothesis { build with bench } samePruner sameRoot
      (files.trans sameFiles)
    refine ⟨ready, ?_, last⟩
    rw [Build.addAll, added]
    simp only [more]

end Registering

/-- A compiler that leaves every file and directory as it is. It may add others. -/
def Compiler.LeavesFiles {κ : Type} (compiler : Compiler κ) : Prop :=
  ∀ (paths : List Text) (architecture : Text) (hint : Option Text) (bench : Bench κ),
    bench.files.Keeps (compiler paths architecture hint bench).2.files

namespace Cache

variable {κ : Type}

/-- The key of files stays while they are kept. -/
theorem key_keeps {before after : FileStore} (kept : before.Keeps after) {paths : List Text}
    {text : Text} (keyed : key before paths = .ok text) : key after paths = .ok text := by
  obtain ⟨found, stamped, rfl⟩ := key_eq_ok.mp keyed
  refine key_eq_ok.mpr ⟨found, ?_, rfl⟩
  clear keyed
  induction paths generalizing found with
  | nil => exact stamped
  | cons path rest inductionHypothesis =>
    obtain ⟨time, timed, stamped⟩ := bind_eq_ok.mp stamped
    obtain ⟨more, stampedRest, whole⟩ := bind_eq_ok.mp stamped
    have timed' : milliseconds after path = .ok time := by
      unfold milliseconds FileStore.modified at timed ⊢
      cases found : before.node path with
      | error problem => simp [found, FileStore.naming, bind, Except.bind] at timed
      | ok node =>
        rw [kept.node found fun _ _ => id, ← found]
        exact timed
    exact bind_eq_ok.mpr ⟨time, timed', bind_eq_ok.mpr ⟨more, inductionHypothesis _ stampedRest,
      whole⟩⟩

/-- A compile that completes leaves an entry with the key and the result. -/
theorem compile_eq_ok {cache after : Cache} {compiler : Compiler κ} {text architecture : Text}
    {paths : List Text} {hint : Option Text} {bench done : Bench κ} {result : Compiled}
    (gentle : compiler.LeavesFiles)
    (compiled : cache.compile compiler text architecture paths hint bench =
      (.ok result, after, done)) :
    bench.files.Keeps done.files ∧ after.entry architecture = some ⟨text, result⟩ := by
  rw [compile_eq] at compiled
  simp only [Prod.mk.injEq] at compiled
  obtain ⟨outcome, rfl, rfl⟩ := compiled
  refine ⟨gentle paths architecture hint { bench with watch := bench.watch.start.2 }, ?_⟩
  rw [outcome, entry_settle, if_pos rfl]
  rfl

/-- A request that was answered is answered again from the cache, as long as the files are
kept. -/
theorem get_again {cache after : Cache} {compiler : Compiler κ} {architecture : Text}
    {paths : List Text} {hint : Option Text} {bench done : Bench κ} {result : Compiled}
    (gentle : compiler.LeavesFiles)
    (got : cache.get compiler architecture paths hint bench = (.ok result, after, done)) :
    bench.files.Keeps done.files ∧
      ∀ again : Bench κ, done.files.Keeps again.files →
        after.get compiler architecture paths hint again =
          (.ok result, { after with hits := after.hits + 1 },
            again.sayAt after.verbosity 4 (hitLine architecture paths.length)) := by
  cases keyed : key bench.files paths with
  | error fault =>
    rw [cache.get_of_unkeyed compiler architecture paths hint bench keyed] at got
    cases got
  | ok text =>
    by_cases matched : ∃ entry, cache.entry architecture = some entry ∧ entry.key = text
    · obtain ⟨entry, found, same⟩ := matched
      rw [cache.get_of_match compiler architecture paths hint bench keyed found same] at got
      cases got
      rw [Bench.sayAt_files]
      refine ⟨.refl _, fun again kept => ?_⟩
      exact get_of_match _ compiler architecture paths hint again (key_keeps kept keyed) found same
    · rw [cache.get_of_mismatch compiler architecture paths hint bench keyed
        fun entry found same => matched ⟨entry, found, same⟩] at got
      obtain ⟨compiled, stored⟩ := compile_eq_ok gentle got
      rw [Bench.sayAt_files] at compiled
      refine ⟨compiled, fun again kept => ?_⟩
      exact get_of_match after compiler architecture paths hint again
        (key_keeps (compiled.trans kept) keyed) stored rfl

end Cache

namespace Build

variable {κ : Type}

/-- Sources are registered while nothing is pending and the unit is finalized; the copies
are different files, and none of them is a source. Registering the same sources and
finalizing again then gives the same copies and the same output. No call of the compiler
is added to the log, and the store is the same, with every text and every time. -/
theorem rebuild_unchanged (compiler : Compiler κ) (gentle : compiler.LeavesFiles)
    (build ready done : Build (κ × List Compilation)) (sources : List Source)
    (copies : List (Option Text)) (architecture : Text) (hint input : Option Text)
    (output : Output) (idle : build.session.paths = []) (rooted : build.bench.files.Rooted)
    (added : build.addAll sources = (.ok copies, ready))
    (finalized : ready.finalize compiler.logged architecture hint input = (.ok output, done))
    (distinct : (copies.reduceOption.map done.bench.files.locate).Nodup)
    (apart : ∀ source ∈ sources, source.transpile = true →
      done.bench.files.locate source.path ∉ copies.reduceOption.map done.bench.files.locate) :
    ∃ again last, done.addAll sources = (.ok copies, again) ∧
      again.finalize compiler.logged architecture hint input = (.ok output, last) ∧
      again.bench.files = done.bench.files ∧ last.bench.files = done.bench.files ∧
      last.bench.tools = done.bench.tools := by
  obtain ⟨copied, session, _, _⟩ := addAll_eq_ok added
  obtain ⟨result, name, named, rfl, got, reset⟩ := finalize_eq_ok finalized
  have leaves : compiler.logged.LeavesFiles :=
    fun paths architecture hint bench => gentle paths architecture hint bench.plain
  obtain ⟨kept, hit⟩ := Cache.get_again leaves got
  -- The session starts again as it started, but for the package.
  obtain ⟨package, paths, chosen⟩ := build.session.registerAll_eq (sources.zip copies)
  have restarted : done.session = { build.session with package } := by
    rw [reset, session, chosen, ← idle]
  have current := copied.again kept (rooted.extend (copied.rewrites kept).toExtends) distinct apart
  obtain ⟨again, readded, files⟩ := current.exists_addAll done (by rw [restarted])
    (by rw [restarted]) rfl
  obtain ⟨_, session', cache, tools⟩ := addAll_eq_ok readded
  have unit : again.session.paths = ready.session.paths := by
    rw [session', restarted, Session.registerAll_of_idle idle, session]
  have answered := hit again.bench (by rw [files]; exact .refl _)
  rw [← unit, ← cache] at answered
  have refinalized := again.finalize_eq compiler.logged architecture hint input _ answered
  rw [named] at refinalized
  refine ⟨again, _, readded, refinalized, files, ?_, ?_⟩
  · rw [Bench.sayAt_files, files]
  · rw [Bench.sayAt_tools, tools]

/-- A build with two source files. One of them has a scratch copy already, with another
line ending than the pruned text. -/
def rebuildSample : Build (Recorder × List Compilation) where
  session := { pruner := Pruner.standard, scratchRoot := some "/w/t".toList }
  bench :=
    { files :=
        ⟨[(["w".toList], .directory 0), (["w".toList, "a".toList], .file [97, 10] 0),
            (["w".toList, "b".toList], .file [98, 13, 10] 0),
            (["w".toList, "t".toList], .directory 0),
            (["w".toList, "t".toList, "web".toList], .directory 0),
            (["w".toList, "t".toList, "web".toList, "w".toList], .directory 0),
            (["w".toList, "t".toList, "web".toList, "w".toList, "a".toList],
              .file [97, 13, 10] 0)],
          "/w".toList, 10, none⟩
      printed := {}
      watch := ⟨Timer.new false, fun _ => .zero, 0⟩
      tools := ({}, []) }

/-- The sources of the sample. -/
def rebuildSources : List Source :=
  [⟨"/w/a".toList, "a".toList, "web".toList, none, true⟩,
    ⟨"/w/b".toList, "b".toList, "web".toList, none, true⟩]

/-- Where their copies are. -/
def rebuildCopies : List (Option Text) :=
  [some "/w/t/web/w/a".toList, some "/w/t/web/w/b".toList]

/-- The sample after its sources were registered. -/
def rebuildReady : Build (Recorder × List Compilation) := (rebuildSample.addAll rebuildSources).2

/-- The sample after its unit was finalized. -/
def rebuildDone : Build (Recorder × List Compilation) :=
  (rebuildReady.finalize Recorder.compile.logged "web".toList (some ['m']) none).2

/-- What the sample compiles to. -/
def rebuildOutput : Output :=
  ⟨"m.js".toList, ['m'], some "a\nb\n".toList, some (Recorder.mapFor (some ['m'])), []⟩

/-- Built twice, the sample is compiled once and written once. -/
theorem rebuild_unchanged_sample :
    rebuildSample.addAll rebuildSources = (.ok rebuildCopies, rebuildReady) ∧
      rebuildReady.finalize Recorder.compile.logged "web".toList (some ['m']) none =
        (.ok rebuildOutput, rebuildDone) ∧
      ∃ again last, rebuildDone.addAll rebuildSources = (.ok rebuildCopies, again) ∧
        again.finalize Recorder.compile.logged "web".toList (some ['m']) none =
          (.ok rebuildOutput, last) ∧
        last.bench.files = rebuildDone.bench.files ∧ last.bench.tools.2.length = 1 := by
  have gentle : Recorder.compile.LeavesFiles := fun _ _ _ bench => .refl bench.files
  have rooted : rebuildSample.bench.files.Rooted :=
    (FileStore.Standing.root rebuildSample.bench.files).append (by decide) (by rfl)
  have added : rebuildSample.addAll rebuildSources = (.ok rebuildCopies, rebuildReady) := by rfl
  have finalized : rebuildReady.finalize Recorder.compile.logged "web".toList (some ['m']) none =
      (.ok rebuildOutput, rebuildDone) := by rfl
  have places : rebuildCopies.reduceOption.map rebuildDone.bench.files.locate =
      [.ok ["w".toList, "t".toList, "web".toList, "w".toList, "a".toList],
        .ok ["w".toList, "t".toList, "web".toList, "w".toList, "b".toList]] := by rfl
  have apart : ∀ source ∈ rebuildSources, source.transpile = true →
      rebuildDone.bench.files.locate source.path ∉
        rebuildCopies.reduceOption.map rebuildDone.bench.files.locate := by
    rw [places]
    decide
  obtain ⟨again, last, readded, refinalized, _, files, tools⟩ :=
    rebuild_unchanged Recorder.compile gentle rebuildSample rebuildReady rebuildDone rebuildSources
      rebuildCopies "web".toList (some ['m']) none rebuildOutput rfl rooted added finalized
      (by rw [places]; decide) apart
  exact ⟨added, finalized, again, last, readded, refinalized, files, by rw [tools]; rfl⟩

end Build

end RegionBuild
