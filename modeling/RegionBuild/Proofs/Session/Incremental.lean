import Mathlib.Logic.Relation
import RegionBuild.Proofs.Cache.Fidelity
import RegionBuild.Proofs.Region.Layout
import RegionBuild.Proofs.Session.Registration

/-!
# Building again is building from scratch

A build goes on for any number of steps: files are written from outside, sources are
registered and units are finalized, for any architectures and packages and in any order.
Whenever finalizing returns, its data is what the files of the unit say at that moment,
as if there were no cache.

The invariant that carries this says of the cache that every entry stands for snapshots
that still hold, and of the pending unit that its paths can be told apart in a key. It
needs a clock that every completed write finds ahead of all earlier ones, and a scratch
root and architectures without colons.
-/

namespace RegionBuild

/-- Joining paths brings in no colon. -/
theorem Path.colon_notMem_join {base path : Text} (plainBase : ':' ∉ base)
    (plainPath : ':' ∉ path) : ':' ∉ Path.join base path := by
  have slash : (Path.Letter.slash : Char) ≠ ':' := by decide
  unfold Path.join
  split
  · exact plainPath
  · split
    · simp [plainBase, plainPath]
    · simp [plainBase, plainPath, slash.symm]

/-- A character that is replaced by another does not occur any more. -/
theorem Text.notMem_replaceChar (old new : Char) (different : new ≠ old) (text : Text) :
    old ∉ Text.replaceChar old new text := by
  intro occurs
  obtain ⟨char, _, becomes⟩ := List.mem_map.mp occurs
  by_cases same : char = old
  · rw [if_pos same] at becomes
    exact different becomes
  · rw [if_neg same] at becomes
    exact same becomes

/-- The path of a scratch copy has no colon if its root and architecture have none. -/
theorem colon_notMem_scratchPath {root architecture : Text} (plainRoot : ':' ∉ root)
    (plainArchitecture : ':' ∉ architecture) (path : Text) :
    ':' ∉ scratchPath root architecture path :=
  Path.colon_notMem_join (Path.colon_notMem_join plainRoot plainArchitecture)
    (Text.notMem_replaceChar ':' '_' (by decide) _)

/-- Refreshing a file only lets the store grow, also when the write breaks off. -/
theorem refresh_advances {files : FileStore} (settled : files.Settled) (path text : Text) :
    files.Advances (refresh files path text).2 := by
  rcases refresh_cases files path text with ⟨_, same, _⟩ | ⟨after, stored, same⟩
  · rw [same]
    exact settled.advances
  · rw [same]
    exact FileStore.writeBytes_advances settled stored

/-- Preparing a scratch copy only lets the store grow, also when it is refused. -/
theorem prepareScratch_advances {files : FileStore} (settled : files.Settled)
    (root : Option Text) (architecture path : Text) :
    files.Advances (prepareScratch files root architecture path).2 := by
  have made := FileStore.makeDirectoriesFrom_advances true FileStore.levelLimit files settled
    (Path.parent (scratchPath (root.getD (defaultScratchRoot files.workingDirectory)) architecture
      path))
  unfold prepareScratch FileStore.makeDirectories
  simp only
  split <;> rename_i same <;> rw [same] at made <;> exact made

/-- Writing a scratch copy only lets the store grow, and the copy has the path for its
source and architecture. -/
theorem writeScratch_advances {files : FileStore} (settled : files.Settled)
    (root : Option Text) (architecture path text : Text) :
    files.Advances (writeScratch files root architecture path text).2 ∧
      ∀ scratch, (writeScratch files root architecture path text).1 = .ok scratch →
        scratch =
          scratchPath (root.getD (defaultScratchRoot files.workingDirectory)) architecture
            path := by
  have made := prepareScratch_advances settled root architecture path
  cases prepared : prepareScratch files root architecture path with
  | mk result store =>
    rw [prepared] at made
    cases result with
    | error fault =>
      rw [writeScratch, prepared]
      exact ⟨made, fun _ failed => by cases failed⟩
    | ok scratch =>
      rw [writeScratch_of_prepared prepared]
      refine ⟨made.trans (refresh_advances made.settled scratch text), ?_⟩
      intro other same
      obtain ⟨_, _, rfl⟩ := map_eq_ok.mp same
      exact prepareScratch_path (congrArg Prod.fst prepared)

section Adding

variable {κ : Type}

/-- Where a build puts scratch copies. -/
def Build.scratchRoot (build : Build κ) : Text :=
  build.session.scratchRoot.getD (defaultScratchRoot build.bench.files.workingDirectory)

/-- What registering a source does to a build, whether it fails or not: the store grows,
and the unit holds no path but earlier ones and that of the source's scratch copy. -/
structure Build.Registers (build : Build κ) (source : Source) (after : Build κ) : Prop where
  root : after.session.scratchRoot = build.session.scratchRoot
  cache : after.cache = build.cache
  tools : after.bench.tools = build.bench.tools
  files : build.bench.files.Advances after.bench.files
  paths : ∀ path ∈ after.session.paths, path ∈ build.session.paths ∨
    path = scratchPath build.scratchRoot source.architecture source.path

/-- Copying a source only lets the store grow, and the copy has the path for its source
and architecture. -/
theorem copySource_advances {files : FileStore} (settled : files.Settled) (pruner : Pruner)
    (root : Option Text) (source : Source) :
    files.Advances (copySource pruner root files source).2 ∧
      ∀ scratch, (copySource pruner root files source).1 = .ok scratch →
        scratch =
          scratchPath (root.getD (defaultScratchRoot files.workingDirectory)) source.architecture
            source.path := by
  unfold copySource
  cases copyText pruner files source with
  | error fault => exact ⟨settled.advances, fun _ failed => by cases failed⟩
  | ok text => exact writeScratch_advances settled root source.architecture source.path text

/-- Registering a source does no more than that. -/
theorem Build.add_registers (build : Build κ) (settled : build.bench.files.Settled)
    (source : Source) : build.Registers source (build.add source).2 := by
  cases transpiled : source.transpile with
  | false =>
    unfold Build.add
    rw [transpiled]
    exact ⟨rfl, rfl, by simp, by simpa using settled.advances, fun _ listed => Or.inl listed⟩
  | true =>
    obtain ⟨bench, files, tools, added⟩ := build.add_eq source transpiled
    obtain ⟨grown, named⟩ := copySource_advances settled build.session.pruner
      build.session.scratchRoot source
    obtain ⟨paths, entered, pending⟩ := build.session.enter_eq source.package
    rw [added]
    unfold Session.register
    cases copied : (copySource build.session.pruner build.session.scratchRoot build.bench.files
        source).1 with
    | error fault =>
      simp only [entered]
      exact ⟨rfl, rfl, tools, files ▸ grown, fun path listed => Or.inl (pending path listed)⟩
    | ok scratch =>
      simp only [entered]
      refine ⟨rfl, rfl, tools, files ▸ grown, fun path listed => ?_⟩
      rcases List.mem_append.mp listed with earlier | new
      · exact Or.inl (pending path earlier)
      · exact Or.inr ((List.mem_singleton.mp new).trans (named scratch copied))

end Adding

namespace Build

/-- One step of a build. Files may be written and directories made from outside, at any
place, scratch copies included. The clock may be set to any time ahead of all files.
Sources are registered for architectures without a colon, and units are finalized for
any architecture, hint and input. -/
inductive Step : Build Recorder → Build Recorder → Prop where
  | write (build : Build Recorder) (path : Text) (content : List UInt8) (written : FileStore) :
      build.bench.files.writeBytes path content = .ok written →
      Step build { build with bench := { build.bench with files := written } }
  | makeDirectories (build : Build Recorder) (path : Text) :
      Step build { build with
        bench := { build.bench with files := (build.bench.files.makeDirectories path).2 } }
  | setClock (build : Build Recorder) (time : Int) :
      { build.bench.files with clock := time }.Settled →
      Step build { build with
        bench := { build.bench with files := { build.bench.files with clock := time } } }
  | add (build : Build Recorder) (source : Source) : ':' ∉ source.architecture →
      Step build (build.add source).2
  | finalize (build : Build Recorder) (architecture : Text) (hint input : Option Text) :
      Step build (build.finalize Recorder.compile architecture hint input).2

/-- A build that starts: nothing is pending or cached, the recorder has nothing to
report, the clock is ahead of the files and the scratch root has no colon. -/
structure Starts (build : Build Recorder) : Prop where
  paths : build.session.paths = []
  entries : build.cache.entries = []
  silent : build.bench.tools.diagnostics = []
  settled : build.bench.files.Settled
  root : ':' ∉ build.scratchRoot

/-- The invariant of a build. -/
structure Coherent (build : Build Recorder) : Prop where
  plain : ∀ path ∈ build.session.paths, ':' ∉ path
  sound : build.cache.Sound build.bench.files
  silent : build.bench.tools.diagnostics = []
  settled : build.bench.files.Settled
  root : ':' ∉ build.scratchRoot

/-- A build that starts is coherent. -/
theorem Starts.coherent {build : Build Recorder} (starts : build.Starts) : build.Coherent where
  plain := by simp [starts.paths]
  sound := by simp [Cache.Sound, starts.entries]
  silent := starts.silent
  settled := starts.settled
  root := starts.root

/-- A build stays coherent when only its store grows. -/
theorem Coherent.advance {build : Build Recorder} (coherent : build.Coherent)
    {files : FileStore} (grown : build.bench.files.Advances files) :
    Coherent { build with bench := { build.bench with files := files } } where
  plain := coherent.plain
  sound := coherent.sound.advance grown
  silent := coherent.silent
  settled := grown.settled
  root := by
    have root := coherent.root
    unfold scratchRoot at root ⊢
    rw [grown.workingDirectory]
    exact root

/-- Registering a source keeps a build coherent. -/
theorem Coherent.add {build : Build Recorder} (coherent : build.Coherent) (source : Source)
    (plain : ':' ∉ source.architecture) : (build.add source).2.Coherent := by
  have registers := build.add_registers coherent.settled source
  refine ⟨?_, ?_, ?_, registers.files.settled, ?_⟩
  · intro path listed
    rcases registers.paths path listed with earlier | rfl
    · exact coherent.plain path earlier
    · exact colon_notMem_scratchPath coherent.root plain source.path
  · rw [registers.cache]
    exact coherent.sound.advance registers.files
  · rw [registers.tools]
    exact coherent.silent
  · unfold scratchRoot
    rw [registers.root, registers.files.workingDirectory]
    exact coherent.root

/-- What finalizing asks of the cache. -/
theorem Coherent.answers {build : Build Recorder} (coherent : build.Coherent)
    (architecture : Text) (hint : Option Text) :
    Cache.Answers build.bench build.session.paths
      (build.cache.get Recorder.compile architecture build.session.paths hint build.bench) :=
  build.cache.get_answers build.bench architecture build.session.paths hint coherent.silent
    coherent.sound coherent.plain

/-- Finalizing keeps a build coherent, also when it fails. -/
theorem Coherent.finalize {build : Build Recorder} (coherent : build.Coherent)
    (architecture : Text) (hint input : Option Text) :
    (build.finalize Recorder.compile architecture hint input).2.Coherent := by
  have answers := coherent.answers architecture hint
  rw [build.finalize_eq Recorder.compile architecture hint input _ rfl]
  refine ⟨by simp, ?_, answers.silent, ?_, ?_⟩
  · rw [answers.files]
    exact answers.sound
  · rw [answers.files]
    exact coherent.settled
  · unfold scratchRoot
    rw [answers.files]
    exact coherent.root

/-- Every step keeps a build coherent. -/
theorem Coherent.step {build after : Build Recorder} (coherent : build.Coherent)
    (step : Step build after) : after.Coherent := by
  cases step with
  | write path content written done =>
    exact coherent.advance (FileStore.writeBytes_advances coherent.settled done)
  | makeDirectories path =>
    exact coherent.advance (FileStore.makeDirectoriesFrom_advances true FileStore.levelLimit _
      coherent.settled path)
  | setClock time ahead =>
    exact coherent.advance (build.bench.files.advances_setClock time ahead)
  | add source plain => exact coherent.add source plain
  | finalize architecture hint input => exact coherent.finalize architecture hint input

/-- The steps may come in any order, with changes of the files between them. -/
theorem Coherent.run {build after : Build Recorder} (coherent : build.Coherent)
    (run : Relation.ReflTransGen Step build after) : after.Coherent := by
  induction run with
  | refl => exact coherent
  | tail _ step inductionHypothesis => exact inductionHypothesis.step step

/-- The data of an output, with nothing read as the empty text, is what was compiled. -/
theorem outputOf_data (name : Text) (result : Compiled) :
    (outputOf name result).data.getD [] = result.source := by
  unfold outputOf nonEmpty
  cases result.source <;> rfl

/-- After any run from a start, an output's data is the texts of the unit's files as they
are now, one after the other, and that is the source which compiling them without a cache
gives. There is an output whenever that compile succeeds and the output has a name. -/
theorem finalize_current (start build : Build Recorder) (starts : start.Starts)
    (run : Relation.ReflTransGen Step start build) (architecture : Text)
    (hint input : Option Text) :
    (∀ output, (build.finalize Recorder.compile architecture hint input).1 = .ok output →
      ∃ texts, List.Forall₂ (fun path text => build.bench.files.readText path = .ok text)
          build.session.paths texts ∧
        output.data.getD [] = texts.flatten ∧
        ∃ compiled, (Recorder.compile build.session.paths architecture hint build.bench).1 =
            .ok compiled ∧
          compiled.source = output.data.getD []) ∧
      ∀ compiled, (Recorder.compile build.session.paths architecture hint build.bench).1 =
          .ok compiled → (input <|> hint) ≠ none →
        ∃ output, (build.finalize Recorder.compile architecture hint input).1 = .ok output := by
  have coherent := starts.coherent.run run
  have answers := coherent.answers architecture hint
  have clean : (Recorder.compile build.session.paths architecture hint build.bench).1 = do
      let source ← Recorder.joined build.bench.files build.session.paths
      return { source, map := Recorder.mapFor hint } :=
    Recorder.result_of_silent coherent.silent _ _ _
  rw [clean, build.finalize_eq Recorder.compile architecture hint input _ rfl]
  constructor
  · intro output returned
    cases got : (build.cache.get Recorder.compile architecture build.session.paths hint
        build.bench).1 with
    | error fault => simp [got] at returned
    | ok result =>
      have joined := answers.joined got
      obtain ⟨texts, reads, whole⟩ := Recorder.texts_of_joined joined
      have data : output.data.getD [] = result.source := by
        cases named : input <|> hint with
        | none => simp [got, named] at returned
        | some name =>
          simp only [got, named, Except.ok.injEq] at returned
          rw [← returned, outputOf_data]
      rw [joined, data]
      exact ⟨texts, reads, whole, _, rfl, rfl⟩
  · intro compiled done named
    obtain ⟨source, joined, _⟩ := bind_eq_ok.mp done
    obtain ⟨result, got⟩ := answers.exists_compiled joined
    obtain ⟨name, named⟩ := Option.ne_none_iff_exists'.mp named
    exact ⟨outputOf name result, by rw [got, named]⟩

/-- A build that starts with one source file. -/
def sample : Build Recorder where
  session := { pruner := Pruner.standard, scratchRoot := some "/w/t".toList }
  bench :=
    { files :=
        ⟨[(["w".toList], .directory 0), (["w".toList, "a".toList], .file [97] 0)],
          "/w".toList, 10, none⟩
      printed := {}
      watch := ⟨Timer.new false, fun _ => .zero, 0⟩
      tools := {} }

/-- The sample's file as a source. -/
def sampleSource : Source := ⟨"/w/a".toList, "a".toList, "web".toList, none, true⟩

/-- The sample after its source was registered and finalized. -/
def sampleCompiled : Build Recorder :=
  ((sample.add sampleSource).2.finalize Recorder.compile "web".toList (some ['m']) none).2

/-- The sample after the source was edited then and registered again. -/
def sampleEdited : Build Recorder :=
  let files := sampleCompiled.bench.files
  let written := (files.writeBytes "/w/a".toList [98]).toOption.getD files
  let edited := { sampleCompiled with bench := { sampleCompiled.bench with files := written } }
  (edited.add sampleSource).2

/-- With an entry for the old text in the cache, finalizing gives the new one. -/
theorem finalize_current_edited :
    sample.Starts ∧ Relation.ReflTransGen Step sample sampleEdited ∧
      sampleCompiled.cache.entries.length = 1 ∧
      ∃ output, (sampleEdited.finalize Recorder.compile "web".toList (some ['m']) none).1 =
          .ok output ∧
        output.data.getD [] = ['b'] := by
  have starts : sample.Starts :=
    ⟨rfl, rfl, rfl, FileStore.settled_of_nodes (by decide), by decide⟩
  have run : Relation.ReflTransGen Step sample sampleEdited :=
    .tail (.tail (.tail (.single (.add sample sampleSource (by decide)))
      (.finalize _ "web".toList (some ['m']) none))
      (.write sampleCompiled "/w/a".toList [98] _ (by rfl)))
      (.add _ sampleSource (by decide))
  obtain ⟨current, returns⟩ := finalize_current sample sampleEdited starts run "web".toList
    (some ['m']) none
  have clean : (Recorder.compile sampleEdited.session.paths "web".toList (some ['m'])
      sampleEdited.bench).1 = .ok ⟨['b'], Recorder.mapFor (some ['m']), []⟩ := by
    rfl
  obtain ⟨output, returned⟩ := returns _ clean (by decide)
  obtain ⟨_, _, _, compiled, again, same⟩ := current output returned
  refine ⟨starts, run, by rfl, output, returned, ?_⟩
  rw [← same, ← Except.ok.inj (clean.symm.trans again)]

end Build

end RegionBuild
