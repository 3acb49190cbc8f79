import RegionBuild.Proofs.Cache.Request
import RegionBuild.Proofs.FileStore.Growth
import RegionBuild.Session

/-!
# What registering and finalizing do

Registering a source reads and prunes its file, writes the result to the scratch copy
and adds the copy's path to the unit. Finalizing asks the cache about the unit and
resets it. Both print lines and take timings on the way. Here they are stated without
that, each as one equation, by what becomes of the files, the session and the cache.
-/

namespace RegionBuild

variable {κ : Type}

/-- A prepared scratch copy has the path for its source and architecture. -/
theorem prepareScratch_path {files : FileStore} {root : Option Text}
    {architecture path scratch : Text}
    (done : (prepareScratch files root architecture path).1 = .ok scratch) :
    scratch =
      scratchPath (root.getD (defaultScratchRoot files.workingDirectory)) architecture path := by
  unfold prepareScratch at done
  simp only at done
  split at done
  · cases done
  · exact (Except.ok.inj done).symm

/-- A file has a text exactly if it can be read. -/
theorem existingText_eq_some {files : FileStore} {path text : Text} :
    existingText files path = .ok (some text) ↔ files.readText path = .ok text := by
  unfold existingText
  by_cases isFile : files.isFile path = true
  · rw [if_pos isFile]
    cases files.readText path <;> simp [Functor.map, Except.map]
  · rw [if_neg isFile]
    refine iff_of_false (fun none => by cases none) fun read => isFile ?_
    obtain ⟨content, modified, found⟩ := FileStore.node_of_readText read
    simp [FileStore.isFile, found]

/-- Looking for a text never breaks off a write. -/
theorem existingText_ne_fileTooLarge {files : FileStore} {path : Text} :
    existingText files path ≠ .error .fileTooLarge := by
  unfold existingText
  intro failed
  split at failed
  · cases read : files.readText path with
    | ok text => simp [read, Functor.map, Except.map] at failed
    | error fault =>
      rcases FileStore.readText_eq_error read with ⟨_, rfl⟩ | ⟨_, rfl⟩ <;>
        simp [read, Functor.map, Except.map] at failed
  · cases failed

/-- What refreshing a file comes to. Either nothing is written, and then it succeeds only where
the text is there already; or the bytes that fit are written, and it fails unless these are
all. Only a write that breaks off has the fault of one. -/
theorem refresh_cases (files : FileStore) (path text : Text) :
    (∃ outcome, refresh files path text = (outcome, files) ∧ outcome ≠ .error .fileTooLarge ∧
        (outcome = .ok () → files.readText path = .ok text)) ∨
      ∃ after, files.writeBytes path (files.fitting (Utf8.encode text)) = .ok after ∧
        refresh files path text =
          (if files.fitting (Utf8.encode text) = Utf8.encode text then .ok ()
            else .error .fileTooLarge, after) := by
  unfold refresh
  cases existing : existingText files path with
  | error fault =>
    refine Or.inl ⟨.error fault, rfl, ?_, fun failed => by cases failed⟩
    rintro ⟨⟩
    exact existingText_ne_fileTooLarge existing
  | ok found =>
    simp only
    by_cases same : found = some text
    · rw [if_pos same]
      refine Or.inl ⟨.ok (), rfl, by simp, fun _ => ?_⟩
      exact existingText_eq_some.mp (existing.trans (congrArg Except.ok same))
    · rw [if_neg same]
      rcases files.writeText_cases path text with ⟨fault, refused⟩ | wrote
      · exact Or.inl ⟨_, refused, by simp, fun failed => by cases failed⟩
      · exact Or.inr wrote

/-- A file that was refreshed had the text, or all of it was written. -/
theorem refresh_eq_ok_cases {files after : FileStore} {path text : Text}
    (done : refresh files path text = (.ok (), after)) :
    (files.readText path = .ok text ∧ after = files) ∨
      files.writeBytes path (Utf8.encode text) = .ok after := by
  rcases refresh_cases files path text with ⟨outcome, same, _, current⟩ | ⟨written, wrote, same⟩
  · rw [same] at done
    cases done
    exact Or.inl ⟨current rfl, rfl⟩
  · rw [same] at done
    split at done
    · next whole =>
      cases done
      rw [whole] at wrote
      exact Or.inr wrote
    · cases done

/-- A file that holds the text already is left alone. -/
theorem refresh_of_readText {files : FileStore} {path text : Text}
    (read : files.readText path = .ok text) : refresh files path text = (.ok (), files) := by
  unfold refresh
  rw [existingText_eq_some.mpr read]
  exact if_pos rfl

/-- A scratch copy whose directory was made is refreshed, and what becomes of the files is what
becomes of them then. -/
theorem writeScratch_of_prepared {files made : FileStore} {root : Option Text}
    {architecture path scratch : Text}
    (prepared : prepareScratch files root architecture path = (.ok scratch, made)) (text : Text) :
    writeScratch files root architecture path text =
      ((fun _ => scratch) <$> (refresh made scratch text).1, (refresh made scratch text).2) := by
  unfold writeScratch
  simp only [prepared]
  cases refresh made scratch text with
  | mk outcome after => cases outcome <;> rfl

/-- Printing lines changes nothing else. -/
theorem Bench.sayAll_frame (bench : Bench κ) (lines : List String) :
    (bench.sayAll lines).files = bench.files ∧ (bench.sayAll lines).tools = bench.tools := by
  induction lines generalizing bench with
  | nil => exact ⟨rfl, rfl⟩
  | cons line rest inductionHypothesis => exact inductionHypothesis (bench.say line)

/-- The text of the scratch copy of a source: that of its file, pruned. -/
def copyText (pruner : Pruner) (files : FileStore) (source : Source) : Except Fault Text := do
  let text ← files.readText source.path
  match pruner.process text source.logicalPath source.architecture with
  | .error fault => .error (.unterminated fault)
  | .ok pruned => .ok pruned

/-- Pruning the text of a file gives the text of its copy. -/
theorem copyText_eq_ok {pruner : Pruner} {files : FileStore} {source : Source}
    {original text : Text} (read : files.readText source.path = .ok original)
    (pruned : pruner.process original source.logicalPath source.architecture = .ok text) :
    copyText pruner files source = .ok text := by
  unfold copyText
  rw [read]
  simp only [bind, Except.bind, pruned]

/-- Pruning a source gives the text of its copy and changes neither files nor tools. -/
theorem pruneSource_frame (pruner : Pruner) (source : Source) (bench : Bench κ) :
    (pruneSource pruner source bench).1 = copyText pruner bench.files source ∧
      (pruneSource pruner source bench).2.files = bench.files ∧
      (pruneSource pruner source bench).2.tools = bench.tools := by
  unfold pruneSource copyText
  cases bench.files.readText source.path with
  | error fault => exact ⟨rfl, rfl, rfl⟩
  | ok text =>
    have told := bench.sayAll_frame
      (pruner.notices text source.logicalPath source.architecture)
    simp only [Pruner.prune, bind, Except.bind]
    cases pruner.process text source.logicalPath source.architecture with
    | error fault => exact ⟨rfl, told⟩
    | ok pruned => exact ⟨rfl, told⟩

/-- Prune a source and write its scratch copy. -/
def copySource (pruner : Pruner) (root : Option Text) (files : FileStore) (source : Source) :
    Except Fault Text × FileStore :=
  match copyText pruner files source with
  | .error fault => (.error fault, files)
  | .ok text => writeScratch files root source.architecture source.path text

/-- The session after a source of a package was copied or not. -/
def Session.register (session : Session) (package : Option Text) : Except Fault Text → Session
  | .error _ => session.enter package
  | .ok scratch =>
    { session.enter package with paths := (session.enter package).paths ++ [scratch] }

/-- A source of any package leaves what is chosen about the session. -/
theorem Session.enter_eq (session : Session) (package : Option Text) :
    ∃ paths, session.enter package = { session with package, paths } ∧
      ∀ path ∈ paths, path ∈ session.paths := by
  unfold Session.enter
  split
  · rename_i same
    exact ⟨session.paths, by rw [same], fun _ => id⟩
  · exact ⟨[], rfl, by simp⟩

/-- The session after a source of a package came: the unit is kept for the same package. -/
theorem Session.enter_eq_ite (session : Session) (package : Option Text) :
    session.enter package =
      { session with
        package
        paths := if package = session.package then session.paths else [] } := by
  rw [Session.enter]
  split
  · next same => rw [same]
  · rfl

/-- A source that was copied or not sets the package. -/
theorem Session.register_package (session : Session) (package : Option Text)
    (outcome : Except Fault Text) : (session.register package outcome).package = package := by
  cases outcome <;> simp [Session.register, session.enter_eq_ite]

/-- Its copy, if there is one, joins what is kept of the unit. -/
theorem Session.register_paths (session : Session) (package : Option Text)
    (outcome : Except Fault Text) :
    (session.register package outcome).paths =
      (if package = session.package then session.paths else []) ++ outcome.toOption.toList := by
  cases outcome <;> simp [Session.register, session.enter_eq_ite, Except.toOption]

/-- Registering a source copies it. Printed lines and timings apart, this is all that
happens to the bench. -/
theorem Build.add_eq (build : Build κ) (source : Source) (transpiled : source.transpile = true) :
    ∃ bench : Bench κ,
      bench.files = (copySource build.session.pruner build.session.scratchRoot build.bench.files
        source).2 ∧
      bench.tools = build.bench.tools ∧
      build.add source =
        (some <$> (copySource build.session.pruner build.session.scratchRoot build.bench.files
            source).1,
          ⟨build.session.register source.package (copySource build.session.pruner
            build.session.scratchRoot build.bench.files source).1, build.cache, bench⟩) := by
  obtain ⟨paths, entered, _⟩ := build.session.enter_eq source.package
  have told := build.bench.sayAll_frame (build.session.discardLine source.package)
  unfold Build.add copySource Session.register
  rw [if_pos transpiled, entered]
  simp only
  cases timed : (build.bench.sayAll (build.session.discardLine source.package)).timed
      (pruneTimingName source.architecture) (pruneSource build.session.pruner source) with
  | mk outcome bench =>
    have pruned := pruneSource_frame build.session.pruner source
      { build.bench.sayAll (build.session.discardLine source.package) with
        watch := (build.bench.sayAll (build.session.discardLine source.package)).watch.start.2 }
    have files : bench.files = build.bench.files := by
      rw [show bench = _ from (congrArg Prod.snd timed).symm]
      exact pruned.2.1.trans told.1
    have tools : bench.tools = build.bench.tools := by
      rw [show bench = _ from (congrArg Prod.snd timed).symm]
      exact pruned.2.2.trans told.2
    have copied : outcome = copyText build.session.pruner build.bench.files source := by
      rw [show outcome = _ from (congrArg Prod.fst timed).symm, ← told.1]
      exact pruned.1
    rw [← copied, ← files]
    cases outcome with
    | error fault => exact ⟨bench, rfl, tools, rfl⟩
    | ok text =>
      simp only
      cases writeScratch bench.files build.session.scratchRoot source.architecture source.path
          text with
      | mk written store =>
        cases written with
        | error fault => exact ⟨{ bench with files := store }, rfl, tools, rfl⟩
        | ok scratch =>
          refine ⟨_, Bench.sayAt_files _ _ _ _, ?_, rfl⟩
          rw [Bench.sayAt_tools]
          exact tools

/-- A source that opted out leaves everything but what is printed. -/
theorem Build.add_skipped (build : Build κ) {source : Source}
    (skipped : source.transpile = false) :
    ∃ bench : Bench κ, bench.files = build.bench.files ∧ bench.tools = build.bench.tools ∧
      build.add source = (.ok none, { build with bench }) := by
  unfold Build.add
  rw [skipped]
  exact ⟨_, Bench.sayAt_files _ _ _ _, Bench.sayAt_tools _ _ _ _, rfl⟩

/-- Finalizing in terms of the answer of the cache: an answer becomes an output if there
is a name for it, and the unit is reset in any case. -/
theorem Build.finalize_eq (build : Build κ) (compiler : Compiler κ) (architecture : Text)
    (hint input : Option Text) (answer : Except Fault Compiled × Cache × Bench κ)
    (got : build.cache.get compiler architecture build.session.paths hint build.bench = answer) :
    build.finalize compiler architecture hint input =
      (match answer.1, input <|> hint with
        | .error fault, _ => .error fault
        | .ok _, none => .error .unnamedOutput
        | .ok result, some name => .ok (outputOf name result),
      ⟨{ build.session with paths := [] }, answer.2.1, answer.2.2⟩) := by
  obtain ⟨result, cache, bench⟩ := answer
  unfold Build.finalize
  rw [got]
  cases result with
  | error fault => rfl
  | ok result =>
    cases input <|> hint with
    | none => rfl
    | some name => rfl

/-- What finalizing gives when it succeeds: the answer of the cache, under a name. -/
theorem Build.finalize_eq_ok {build done : Build κ} {compiler : Compiler κ} {architecture : Text}
    {hint input : Option Text} {output : Output}
    (finalized : build.finalize compiler architecture hint input = (.ok output, done)) :
    ∃ result name, (input <|> hint) = some name ∧ output = outputOf name result ∧
      build.cache.get compiler architecture build.session.paths hint build.bench =
        (.ok result, done.cache, done.bench) ∧
      done.session = { build.session with paths := [] } := by
  cases got : build.cache.get compiler architecture build.session.paths hint build.bench with
  | mk answer rest =>
    rw [build.finalize_eq compiler architecture hint input _ got] at finalized
    cases answer with
    | error fault => cases finalized
    | ok result =>
      cases named : input <|> hint with
      | none => simp [named] at finalized
      | some name =>
        simp only [named, Prod.mk.injEq, Except.ok.injEq] at finalized
        obtain ⟨rfl, rfl⟩ := finalized
        exact ⟨result, name, rfl, rfl, rfl, rfl⟩

end RegionBuild
