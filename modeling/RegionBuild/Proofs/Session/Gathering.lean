import Mathlib.Data.List.Forall2
import RegionBuild.Proofs.Path.Nesting
import RegionBuild.Proofs.Session.Incremental
import RegionBuild.Proofs.Session.Rebuild

/-!
# What registered files become

Files are registered one after the other for one architecture and package, and the unit
is finalized over an empty cache. What comes out is what the copies hold, in the order in
which the files were registered.

The path of a file is nested below the scratch root with an underscore for every colon, so
two files whose paths are the same but for that share one copy. It holds the text that was
written last. This text comes out once for each of them, and the earlier one is lost without
a word. Where no two paths become the same, every file's own text comes out.

A copy can also stand where another needs a directory. Then the second file cannot be
registered at all, so among files that were registered no copy is below another. And no copy
is written over a file that is outside the scratch root.
-/

namespace RegionBuild

/-- What the copy of a file holds once other sources were copied too, if it held a text before:
the text of the last source whose path is nested in the same place, if there is one. -/
def textAfter (path held : Text) : List (Source × Text) → Text
  | [] => held
  | (source, text) :: rest =>
    textAfter path (if Path.mirrored source.path = Path.mirrored path then text else held) rest

/-- What the copies of sources hold once all are written, for each source in turn. -/
def survivingTexts : List (Source × Text) → List Text
  | [] => []
  | (source, text) :: rest => textAfter source.path text rest :: survivingTexts rest

section Surviving

variable {pruned : List (Source × Text)} {path : Text}

/-- A copy keeps its text while sources are copied elsewhere. -/
theorem textAfter_of_apart
    (apart : ∀ other ∈ pruned, Path.mirrored other.1.path ≠ Path.mirrored path) (held : Text) :
    textAfter path held pruned = held := by
  induction pruned with
  | nil => rfl
  | cons first rest inductionHypothesis =>
    rw [textAfter, if_neg (apart first List.mem_cons_self)]
    exact inductionHypothesis fun other listed => apart other (List.mem_cons_of_mem _ listed)

/-- The last source whose path is nested in the same place decides, whatever was held. -/
theorem textAfter_of_last {position : Nat} {last : Source × Text}
    (found : pruned[position]? = some last)
    (same : Path.mirrored last.1.path = Path.mirrored path)
    (apart : ∀ other ∈ pruned.drop (position + 1),
      Path.mirrored other.1.path ≠ Path.mirrored path) (held : Text) :
    textAfter path held pruned = last.2 := by
  induction pruned generalizing position held with
  | nil => cases found
  | cons first rest inductionHypothesis =>
    rw [textAfter]
    cases position with
    | zero =>
      obtain rfl := Option.some.inj found
      rw [if_pos same]
      exact textAfter_of_apart apart first.2
    | succ position => exact inductionHypothesis found apart _

/-- There is a text for every source. -/
theorem length_survivingTexts (pruned : List (Source × Text)) :
    (survivingTexts pruned).length = pruned.length := by
  induction pruned with
  | nil => rfl
  | cons first rest inductionHypothesis => exact congrArg (· + 1) inductionHypothesis

/-- The copy of a source holds the text of the last source whose path is nested in the same
place. That may be the source itself; it is never an earlier one. -/
theorem getElem?_survivingTexts {position later : Nat} {first last : Source × Text}
    (ordered : position ≤ later) (found : pruned[position]? = some first)
    (found' : pruned[later]? = some last)
    (same : Path.mirrored first.1.path = Path.mirrored last.1.path)
    (apart : ∀ other ∈ pruned.drop (later + 1),
      Path.mirrored other.1.path ≠ Path.mirrored last.1.path) :
    (survivingTexts pruned)[position]? = some last.2 := by
  induction pruned generalizing position later with
  | nil => cases found
  | cons source rest inductionHypothesis =>
    cases position with
    | zero =>
      obtain rfl := Option.some.inj found
      rw [survivingTexts, List.getElem?_cons_zero]
      rw [← same] at apart
      cases later with
      | zero =>
        obtain rfl := Option.some.inj found'
        exact congrArg some (textAfter_of_apart apart source.2)
      | succ later =>
        have found' : rest[later]? = some last := found'
        exact congrArg some (textAfter_of_last found' same.symm apart source.2)
    | succ position =>
      cases later with
      | zero => exact absurd ordered (Nat.not_succ_le_zero position)
      | succ later =>
        exact inductionHypothesis (Nat.le_of_succ_le_succ ordered) found found' apart

/-- Paths that stay different leave every source its own text. -/
theorem survivingTexts_of_nodup
    (distinct : (pruned.map fun entry => Path.mirrored entry.1.path).Nodup) :
    survivingTexts pruned = pruned.map Prod.snd := by
  induction pruned with
  | nil => rfl
  | cons first rest inductionHypothesis =>
    rw [List.map_cons, List.nodup_cons] at distinct
    have apart : ∀ other ∈ rest, Path.mirrored other.1.path ≠ Path.mirrored first.1.path := by
      intro other listed same
      exact distinct.1 (List.mem_map.mpr ⟨other, listed, same⟩)
    rw [survivingTexts, textAfter_of_apart apart, inductionHypothesis distinct.2, List.map_cons]

end Surviving

namespace Copied

variable {pruner : Pruner} {root : Option Text} {before after : FileStore}
  {sources : List Source} {copies : List (Option Text)}

/-- Every source has its place among the copies. -/
theorem length_eq (copied : Copied pruner root before sources copies after) :
    copies.length = sources.length := by
  induction copied with
  | nil files => rfl
  | copy _ _ _ inductionHypothesis => exact congrArg (· + 1) inductionHypothesis
  | skip _ _ inductionHypothesis => exact congrArg (· + 1) inductionHypothesis

/-- The copies are the paths for the sources. -/
theorem reduceOption_eq (copied : Copied pruner root before sources copies after)
    (transpiled : ∀ source ∈ sources, source.transpile = true) :
    copies.reduceOption = sources.map fun source =>
      scratchPath (root.getD (defaultScratchRoot before.workingDirectory)) source.architecture
        source.path := by
  induction copied with
  | nil files => rfl
  | copy _ first _ inductionHypothesis =>
    obtain ⟨place, _, _, _, _, _, frame, _⟩ := copySource_eq_ok first
    have later := inductionHypothesis fun other listed =>
      transpiled other (List.mem_cons_of_mem _ listed)
    rw [frame.workingDirectory] at later
    rw [List.reduceOption_cons_of_some, List.map_cons, later, ← place]
  | skip skipped _ _ =>
    rw [transpiled _ List.mem_cons_self] at skipped
    cases skipped

/-- Every copy is where its path says. -/
theorem locate_eq (copied : Copied pruner root before sources copies after) :
    ∀ path ∈ copies.reduceOption,
      after.locate path = .ok (Path.lexical before.workingDirectory path) := by
  induction copied with
  | nil files => exact fun _ listed => absurd listed List.not_mem_nil
  | @copy before middle after source rest scratch copies _ first others inductionHypothesis =>
    obtain ⟨_, _, _, location, _, located, frame, _⟩ := copySource_eq_ok first
    rw [frame.workingDirectory] at inductionHypothesis
    rw [List.reduceOption_cons_of_some]
    refine List.forall_mem_cons.mpr ⟨?_, inductionHypothesis⟩
    rw [(others.rewrites (.refl after)).locate located, FileStore.locate_lexical located,
      frame.workingDirectory]
  | skip _ _ inductionHypothesis => exact inductionHypothesis

/-- A copy that was just written holds what pruning its source gives in the end, if the source
is none of the copies. -/
theorem readText_copy {middle : FileStore} {source : Source} {scratch text : Text}
    (first : copySource pruner root before source = (.ok scratch, middle))
    (others : Copied pruner root middle sources copies after)
    (apart : after.locate source.path ∉ (scratch :: copies.reduceOption).map after.locate)
    (pruned : copyText pruner after source = .ok text) : middle.readText scratch = .ok text := by
  obtain ⟨_, _, written, _, copied, _, _, read⟩ := copySource_eq_ok first
  have whole := copySource_rewrites first (others.rewrites (.refl after))
  have same : copyText pruner after source = .ok written := by
    refine copyText_rewrites whole copied fun target found covered => apart ?_
    rw [whole.locate found]
    exact covered
  obtain rfl := Except.ok.inj (pruned.symm.trans same)
  exact read

/-- Sources that have copies of their own for one architecture: none of their files is a copy,
and copies are in one place only if the paths are nested in one place. -/
structure Separate (chosen home architecture : Text) (sources : List Source)
    (copies : List (Option Text)) (after : FileStore) : Prop where
  transpiled : ∀ source ∈ sources, source.transpile = true
  sameArchitecture : ∀ source ∈ sources, source.architecture = architecture
  apart : ∀ source ∈ sources, after.locate source.path ∉ copies.reduceOption.map after.locate
  mirrored : ∀ source ∈ sources, ∀ other ∈ sources,
    Path.lexical home (scratchPath chosen architecture source.path) =
      Path.lexical home (scratchPath chosen architecture other.path) →
    Path.mirrored source.path = Path.mirrored other.path

/-- Fewer sources are separate too. -/
theorem Separate.tail {chosen home architecture scratch : Text} {source : Source}
    (separate : Separate chosen home architecture (source :: sources) (some scratch :: copies)
      after) : Separate chosen home architecture sources copies after where
  transpiled other listed := separate.transpiled other (List.mem_cons_of_mem _ listed)
  sameArchitecture other listed := separate.sameArchitecture other (List.mem_cons_of_mem _ listed)
  apart other listed covered :=
    separate.apart other (List.mem_cons_of_mem _ listed) (List.mem_cons_of_mem _ covered)
  mirrored other listed another listed' :=
    separate.mirrored other (List.mem_cons_of_mem _ listed) another (List.mem_cons_of_mem _ listed')

/-- What a copy holds once more sources were copied.

Induct over these: each of them is written to the same file, and then the old text does not
matter, or elsewhere, and then it stays. -/
theorem readText_after (copied : Copied pruner root before sources copies after)
    {chosen home architecture path held : Text} {texts : List Text}
    (isChosen : root.getD (defaultScratchRoot before.workingDirectory) = chosen)
    (atHome : before.workingDirectory = home)
    (separate : Separate chosen home architecture sources copies after)
    (mirrored : ∀ source ∈ sources,
      Path.lexical home (scratchPath chosen architecture source.path) =
        Path.lexical home (scratchPath chosen architecture path) →
      Path.mirrored source.path = Path.mirrored path)
    (pruned : List.Forall₂ (fun source text => copyText pruner after source = .ok text)
      sources texts)
    (read : before.readText (scratchPath chosen architecture path) = .ok held) :
    after.readText (scratchPath chosen architecture path) =
      .ok (textAfter path held (sources.zip texts)) := by
  induction copied generalizing texts held with
  | nil files =>
    cases pruned
    exact read
  | @copy before middle after source rest scratch copies _ first others inductionHypothesis =>
    cases pruned with
    | @cons _ text _ more own pruned =>
      obtain ⟨place, _, _, location, _, located, frame, _⟩ := copySource_eq_ok first
      have written := others.readText_copy first
        (separate.apart source List.mem_cons_self) own
      rw [isChosen, separate.sameArchitecture source List.mem_cons_self] at place
      rw [List.zip_cons_cons, textAfter]
      refine inductionHypothesis (by rw [frame.workingDirectory, isChosen])
        (frame.workingDirectory.trans atHome) separate.tail
        (fun other listed => mirrored other (List.mem_cons_of_mem _ listed)) pruned ?_
      by_cases same : Path.mirrored source.path = Path.mirrored path
      · have shared : scratch = scratchPath chosen architecture path := by
          rw [place]
          exact congrArg (Path.join (Path.join chosen architecture)) same
        rw [if_pos same, ← shared]
        exact written
      · rw [if_neg same]
        refine frame.readText read fun target found here => same ?_
        apply mirrored source List.mem_cons_self
        rw [← place, ← atHome, ← FileStore.locate_lexical found, here,
          FileStore.locate_lexical located, frame.workingDirectory]
  | skip skipped others inductionHypothesis =>
    rw [separate.transpiled _ List.mem_cons_self] at skipped
    cases skipped

/-- In the end the copies hold the texts that were written last to them.

Induct over the sources: what is copied after one of them decides what its copy holds. -/
theorem texts (copied : Copied pruner root before sources copies after)
    {chosen home architecture : Text} {texts : List Text}
    (isChosen : root.getD (defaultScratchRoot before.workingDirectory) = chosen)
    (atHome : before.workingDirectory = home)
    (separate : Separate chosen home architecture sources copies after)
    (pruned : List.Forall₂ (fun source text => copyText pruner after source = .ok text)
      sources texts) :
    List.Forall₂ (fun path text => after.readText path = .ok text) copies.reduceOption
      (survivingTexts (sources.zip texts)) := by
  induction copied generalizing texts with
  | nil files =>
    cases pruned
    exact .nil
  | @copy before middle after source rest scratch copies _ first others inductionHypothesis =>
    cases pruned with
    | @cons _ text _ more own pruned =>
      obtain ⟨place, _, _, _, _, _, frame, _⟩ := copySource_eq_ok first
      have written := others.readText_copy first
        (separate.apart source List.mem_cons_self) own
      have stillChosen : root.getD (defaultScratchRoot middle.workingDirectory) = chosen := by
        rw [frame.workingDirectory, isChosen]
      have stillHome := frame.workingDirectory.trans atHome
      rw [isChosen, separate.sameArchitecture source List.mem_cons_self] at place
      rw [List.reduceOption_cons_of_some, List.zip_cons_cons, survivingTexts]
      constructor
      · rw [place] at written ⊢
        exact others.readText_after stillChosen stillHome separate.tail
          (fun other listed => separate.mirrored other (List.mem_cons_of_mem _ listed) source
            List.mem_cons_self) pruned written
      · exact inductionHypothesis stillChosen stillHome separate.tail pruned
  | skip skipped others inductionHypothesis =>
    rw [separate.transpiled _ List.mem_cons_self] at skipped
    cases skipped

end Copied

namespace Build

/-- Over an empty cache the texts of the unit's files are joined, and no file changes. -/
theorem finalize_eq_of_texts (build : Build Recorder) (empty : build.cache.entries = [])
    (silent : build.bench.tools.diagnostics = []) (architecture : Text) {hint input : Option Text}
    {name : Text} (named : (input <|> hint) = some name) {texts : List Text}
    (reads : List.Forall₂ (fun path text => build.bench.files.readText path = .ok text)
      build.session.paths texts) :
    ∃ done, build.finalize Recorder.compile architecture hint input =
        (.ok (outputOf name ⟨texts.flatten, Recorder.mapFor hint, []⟩), done) ∧
      done.bench.files = build.bench.files := by
  obtain ⟨text, keyed⟩ := Cache.exists_key reads
  have missed : ∀ entry, build.cache.entry architecture = some entry → entry.key ≠ text := by
    intro entry found
    rw [Cache.entry, empty] at found
    cases found
  have got := build.cache.get_of_mismatch Recorder.compile architecture build.session.paths hint
    build.bench keyed missed
  rw [Cache.compile_eq] at got
  have compiled : ∀ bench : Bench Recorder, bench.files = build.bench.files →
      bench.tools = build.bench.tools →
      (bench.timed (Cache.timingName architecture)
        (Recorder.compile build.session.paths architecture hint)).1 =
          .ok ⟨texts.flatten, Recorder.mapFor hint, []⟩ := by
    intro bench files tools
    change bench.tools.result bench.files build.session.paths hint = _
    rw [files, tools, Recorder.result_of_silent silent, Recorder.joined_of_texts reads]
    rfl
  have finalized := build.finalize_eq Recorder.compile architecture hint input _ got
  simp only [named, compiled _ (Bench.sayAt_files _ _ _ _) (Bench.sayAt_tools _ _ _ _)]
    at finalized
  exact ⟨_, finalized, Bench.sayAt_files _ _ _ _⟩

/-- Over an empty cache the texts of the unit's files come out, one after the other. -/
theorem finalize_of_texts (build : Build Recorder) (empty : build.cache.entries = [])
    (silent : build.bench.tools.diagnostics = []) (architecture : Text) {hint input : Option Text}
    (named : (input <|> hint) ≠ none) {texts : List Text}
    (reads : List.Forall₂ (fun path text => build.bench.files.readText path = .ok text)
      build.session.paths texts) :
    ∃ output done, build.finalize Recorder.compile architecture hint input = (.ok output, done) ∧
      output.data.getD [] = texts.flatten := by
  obtain ⟨name, named⟩ := Option.ne_none_iff_exists'.mp named
  obtain ⟨done, finalized, _⟩ := build.finalize_eq_of_texts empty silent architecture named reads
  exact ⟨_, done, finalized, outputOf_data name _⟩

/-- A source that is to be gathered for an architecture and a package: a file with a normal
path outside the scratch root. -/
structure Gathers (build : Build Recorder) (architecture : Text) (package : Option Text)
    (source : Source) : Prop where
  architecture : source.architecture = architecture
  package : source.package = package
  transpiled : source.transpile = true
  normal : Path.Normal source.path
  outside : ¬ Path.lexical build.bench.files.workingDirectory build.scratchRoot <+:
    Path.lexical build.bench.files.workingDirectory source.path

section Gathered

variable {build : Build Recorder} {after : FileStore} {sources : List Source}
  {copies : List (Option Text)} {architecture : Text} {package : Option Text}

/-- The path of the copy of a source. -/
def copyPath (build : Build Recorder) (architecture : Text) (source : Source) : Text :=
  scratchPath build.scratchRoot architecture source.path

/-- The copies of gathered sources, in order. -/
theorem copies_eq (gathers : ∀ source ∈ sources, build.Gathers architecture package source)
    (copied : Copied build.session.pruner build.session.scratchRoot build.bench.files sources
      copies after) : copies.reduceOption = sources.map (build.copyPath architecture) := by
  rw [copied.reduceOption_eq fun source listed => (gathers source listed).transpiled]
  refine List.map_congr_left fun source listed => ?_
  rw [(gathers source listed).architecture]
  rfl

/-- The copy of a gathered source is where its path says. -/
theorem locate_copyPath (gathers : ∀ source ∈ sources, build.Gathers architecture package source)
    (copied : Copied build.session.pruner build.session.scratchRoot build.bench.files sources
      copies after) {source : Source} (listed : source ∈ sources) :
    after.locate (build.copyPath architecture source) =
      .ok (Path.lexical build.bench.files.workingDirectory
        (build.copyPath architecture source)) := by
  apply copied.locate_eq
  rw [copies_eq gathers copied]
  exact List.mem_map_of_mem listed

/-- Two gathered sources share a copy exactly if their paths are the same but for colons and
underscores and the slashes at the start. -/
theorem locate_copyPath_eq_iff (single : Path.LeadsDown architecture)
    (gathers : ∀ source ∈ sources, build.Gathers architecture package source)
    (copied : Copied build.session.pruner build.session.scratchRoot build.bench.files sources
      copies after) {first second : Source} (listed : first ∈ sources) (listed' : second ∈ sources) :
    after.locate (build.copyPath architecture first) =
        after.locate (build.copyPath architecture second) ↔
      Path.mirrored first.path = Path.mirrored second.path := by
  constructor
  · intro same
    rw [locate_copyPath gathers copied listed, locate_copyPath gathers copied listed'] at same
    exact (gathers first listed).normal.mirrored_eq_of_scratchPath (gathers second listed').normal
      single (Except.ok.inj same)
  · intro same
    exact congrArg (fun nested => after.locate
      (Path.join (Path.join build.scratchRoot architecture) nested)) same

/-- No gathered source is a copy, since copies are below the scratch root. -/
theorem notMem_copies (single : Path.LeadsDown architecture)
    (gathers : ∀ source ∈ sources, build.Gathers architecture package source)
    (copied : Copied build.session.pruner build.session.scratchRoot build.bench.files sources
      copies after) :
    ∀ source ∈ sources, after.locate source.path ∉ copies.reduceOption.map after.locate := by
  intro source listed covered
  rw [copies_eq gathers copied, List.map_map] at covered
  obtain ⟨other, listed', found⟩ := List.mem_map.mp covered
  rw [Function.comp_apply, locate_copyPath gathers copied listed'] at found
  have place := FileStore.locate_lexical found.symm
  rw [(copied.rewrites (.refl after)).workingDirectory] at place
  apply (gathers source listed).outside
  rw [← place]
  exact (gathers other listed').normal.root_isPrefix_scratchPath _ _ single

/-- The copies of gathered sources hold what was written to them last, and what is written is
what pruning the sources gives at the start. -/
theorem texts_copies (single : Path.LeadsDown architecture)
    (gathers : ∀ source ∈ sources, build.Gathers architecture package source)
    (copied : Copied build.session.pruner build.session.scratchRoot build.bench.files sources
      copies after) {texts : List Text}
    (pruned : List.Forall₂ (fun source text => ∃ original,
        build.bench.files.readText source.path = .ok original ∧
        build.session.pruner.process original source.logicalPath architecture = .ok text)
      sources texts) :
    List.Forall₂ (fun path text => after.readText path = .ok text) copies.reduceOption
      (survivingTexts (sources.zip texts)) := by
  have apart := notMem_copies single gathers copied
  have frame := copied.rewrites (.refl after)
  have separate : Copied.Separate build.scratchRoot build.bench.files.workingDirectory architecture
      sources copies after :=
    { transpiled := fun source listed => (gathers source listed).transpiled
      sameArchitecture := fun source listed => (gathers source listed).architecture
      apart := apart
      mirrored := fun source listed other listed' same =>
        (gathers source listed).normal.mirrored_eq_of_scratchPath (gathers other listed').normal
          single same }
  have current : ∀ source text, source ∈ sources ∧ (∃ original,
        build.bench.files.readText source.path = .ok original ∧
        build.session.pruner.process original source.logicalPath architecture = .ok text) →
      copyText build.session.pruner after source = .ok text := by
    rintro source text ⟨listed, original, read, processed⟩
    rw [← (gathers source listed).architecture] at processed
    apply copyText_rewrites frame (copyText_eq_ok read processed)
    intro location found covered
    apply apart source listed
    rw [frame.locate found]
    exact covered
  exact copied.texts rfl rfl separate
    (((List.forall₂_and_left _ _).mpr ⟨fun _ listed => listed, pruned⟩).imp current)

/-- A copy that can be read is not below another one, since that would have to be a
directory. -/
theorem not_below_copyPath (single : Path.LeadsDown architecture) {first second : Source}
    (normal : Path.Normal first.path) (normal' : Path.Normal second.path)
    {text text' : Text} (read : after.readText (build.copyPath architecture first) = .ok text)
    (read' : after.readText (build.copyPath architecture second) = .ok text') :
    ¬ Path.Below (Path.lexical after.workingDirectory (build.copyPath architecture first))
      (Path.lexical after.workingDirectory (build.copyPath architecture second)) := by
  obtain ⟨names, named, own⟩ := normal.exists_names
  obtain ⟨others, named', own'⟩ := normal'.exists_names
  have place := Path.lexical_scratchPath after.workingDirectory build.scratchRoot single named own
  rw [copyPath, copyPath, place,
    Path.lexical_scratchPath after.workingDirectory build.scratchRoot single named' own',
    Path.below_append_iff]
  rintro ⟨name, more, further⟩
  have plain := Path.leadsDown_map_plainName named'
  have filled : others.map Path.plainName ≠ [] := by
    intro none
    rw [none] at further
    have sizes := congrArg List.length further
    simp at sizes
  have way : build.copyPath architecture second = Path.join build.scratchRoot
      (Text.join ['/'] (architecture :: names.map Path.plainName ++ name :: more)) := by
    rw [copyPath, Path.scratchPath_eq_join _ _ own', Path.join_join_names _ single plain filled,
      further]
  obtain ⟨location, _, _, located, file⟩ := FileStore.located_of_readText read
  obtain ⟨_, _, _, located', _⟩ := FileStore.located_of_readText read'
  rw [way] at located'
  obtain ⟨_, directory⟩ := FileStore.directory_of_locate_join
    (by rw [← further]; exact List.forall_mem_cons.mpr ⟨single, plain⟩)
    (List.cons_ne_nil _ _) (List.cons_ne_nil _ _) located'
  rw [FileStore.locate_lexical located, copyPath, place, directory] at file
  cases file

/-- The unit of gathered sources is their copies, if nothing was pending. -/
theorem registerAll_copies (idle : build.session.paths = [])
    (gathers : ∀ source ∈ sources, build.Gathers architecture package source)
    (copied : Copied build.session.pruner build.session.scratchRoot build.bench.files sources
      copies after) :
    (build.session.registerAll (sources.zip copies)).paths = copies.reduceOption := by
  have same : ∀ addition ∈ sources.zip copies, addition.1.package = package := by
    intro addition listed
    exact (gathers addition.1 (List.of_mem_zip listed).1).package
  calc (build.session.registerAll (sources.zip copies)).paths
      = ({ build.session with package }.registerAll (sources.zip copies)).paths :=
        (Session.registerAll_of_idle idle package _).symm
    _ = build.session.paths ++ ((sources.zip copies).map Prod.snd).reduceOption :=
        Session.registerAll_paths same
    _ = copies.reduceOption := by
        rw [idle, List.nil_append, List.map_snd_zip copied.length_eq.le]

end Gathered

/-- Files are registered for one architecture and package while nothing is pending, and the unit
is finalized over an empty cache. The copy of each file holds the text of the last file whose
path is nested in the same place, and these texts come out in the order of registration.

So the texts of all files come out if no two paths become the same. Two files whose paths do
become the same share one copy, and if no further one shares it, the text of the later file
stands in the place of both.

It is assumed that every file was registered, and that no backslash follows the slashes at the
start of a path (`Path.Normal.unescaped`), as it would be dropped with them. That every file
was registered is more than it seems: no copy is then below another, so files of which one has
its copy where the other needs a directory are left out. -/
theorem finalize_gathers_latest (build ready : Build Recorder) (sources : List Source)
    (copies : List (Option Text)) (texts : List Text) (architecture : Text)
    (package hint input : Option Text) (idle : build.session.paths = [])
    (empty : build.cache.entries = []) (silent : build.bench.tools.diagnostics = [])
    (single : Path.LeadsDown architecture) (named : (input <|> hint) ≠ none)
    (gathers : ∀ source ∈ sources, build.Gathers architecture package source)
    (pruned : List.Forall₂ (fun source text => ∃ original,
        build.bench.files.readText source.path = .ok original ∧
        build.session.pruner.process original source.logicalPath architecture = .ok text)
      sources texts)
    (added : build.addAll sources = (.ok copies, ready)) :
    ready.session.paths = sources.map (build.copyPath architecture) ∧
      (∀ first ∈ sources, ∀ second ∈ sources,
        (ready.bench.files.locate (build.copyPath architecture first) =
            ready.bench.files.locate (build.copyPath architecture second) ↔
          Path.mirrored first.path = Path.mirrored second.path) ∧
        ¬ Path.Below
          (Path.lexical ready.bench.files.workingDirectory (build.copyPath architecture first))
          (Path.lexical ready.bench.files.workingDirectory (build.copyPath architecture second))) ∧
      ∃ kept output done,
        List.Forall₂ (fun path text => ready.bench.files.readText path = .ok text)
          ready.session.paths kept ∧
        ready.finalize Recorder.compile architecture hint input = (.ok output, done) ∧
        output.data.getD [] = kept.flatten ∧
        kept.length = sources.length ∧
        (∀ (position later : Nat) (first last : Source) (text : Text), position ≤ later →
          sources[position]? = some first → sources[later]? = some last →
          texts[later]? = some text → Path.mirrored first.path = Path.mirrored last.path →
          (∀ other ∈ sources.drop (later + 1),
            Path.mirrored other.path ≠ Path.mirrored last.path) →
          kept[position]? = some text) ∧
        ((sources.map fun source => Path.mirrored source.path).Nodup → kept = texts) := by
  obtain ⟨copied, session, cache, tools⟩ := addAll_eq_ok added
  have paths : ready.session.paths = copies.reduceOption := by
    rw [session]
    exact registerAll_copies idle gathers copied
  have same : sources.length = texts.length := pruned.length_eq
  have owners : (sources.zip texts).map Prod.fst = sources := List.map_fst_zip same.le
  have reads := texts_copies single gathers copied pruned
  rw [← paths] at reads
  have listing := paths.trans (copies_eq gathers copied)
  have readable : ∀ source ∈ sources, ∃ text,
      ready.bench.files.readText (build.copyPath architecture source) = .ok text := by
    intro source listed
    have covered : build.copyPath architecture source ∈ ready.session.paths := by
      rw [listing]
      exact List.mem_map_of_mem listed
    rw [← List.map_fst_zip reads.length_eq.le] at covered
    obtain ⟨⟨_, text⟩, paired, rfl⟩ := List.mem_map.mp covered
    exact ⟨text, List.forall₂_zip reads paired⟩
  obtain ⟨output, done, finalized, data⟩ := ready.finalize_of_texts (cache ▸ empty)
    (tools ▸ silent) architecture named reads
  refine ⟨listing, fun first listed second listed' => ⟨?_, ?_⟩,
    survivingTexts (sources.zip texts), output, done, reads, finalized, data, ?_, ?_, ?_⟩
  · exact locate_copyPath_eq_iff single gathers copied listed listed'
  · obtain ⟨_, read⟩ := readable first listed
    obtain ⟨_, read'⟩ := readable second listed'
    exact not_below_copyPath single (gathers first listed).normal (gathers second listed').normal
      read read'
  · rw [length_survivingTexts, List.length_zip, same, Nat.min_self]
  · intro position later first last text ordered found found' own shared apart
    have before : position < texts.length := by
      rw [← same]
      exact (List.getElem?_eq_some_iff.mp found).1
    have entry : (sources.zip texts)[position]? = some (first, texts[position]) :=
      List.getElem?_zip_eq_some.mpr ⟨found, List.getElem?_eq_getElem before⟩
    have lastEntry : (sources.zip texts)[later]? = some (last, text) :=
      List.getElem?_zip_eq_some.mpr ⟨found', own⟩
    refine getElem?_survivingTexts ordered entry lastEntry shared fun other listed => ?_
    apply apart
    rw [← owners, ← List.map_drop]
    exact List.mem_map_of_mem listed
  · intro distinct
    rw [survivingTexts_of_nodup, List.map_snd_zip same.ge]
    rw [← owners, List.map_map] at distinct
    exact distinct

/-- A build with three files. The paths of two of them differ in a colon only. -/
def gatherSample : Build Recorder where
  session := { pruner := Pruner.standard, scratchRoot := some "/w/t".toList }
  bench :=
    { files :=
        ⟨[(["w".toList], .directory 0), (["w".toList, "a:b".toList], .file [97] 0),
            (["w".toList, "a_b".toList], .file [98] 0), (["w".toList, "c".toList], .file [99] 0)],
          "/w".toList, 10, none⟩
      printed := {}
      watch := ⟨Timer.new false, fun _ => .zero, 0⟩
      tools := {} }

/-- The file of the sample with this name as a source. -/
def gatherSource (name : String) : Source :=
  ⟨"/w/".toList ++ name.toList, name.toList, "web".toList, none, true⟩

/-- The files of the sample can be gathered. -/
theorem gatherSample_gathers {names : List String} (known : names ⊆ ["a:b", "a_b", "c"]) :
    ∀ source ∈ names.map gatherSource, gatherSample.Gathers "web".toList none source := by
  intro source listed
  obtain ⟨name, inside, rfl⟩ := List.mem_map.mp listed
  have known := known inside
  simp only [List.mem_cons, List.not_mem_nil, or_false] at known
  rcases known with rfl | rfl | rfl
  all_goals exact ⟨rfl, rfl, rfl, ⟨by decide, by decide, by decide⟩, by decide⟩

/-- A later file with the name of an earlier one but for a colon comes out in its place, and a
third file keeps its own text. -/
theorem finalize_gathers_latest_colon :
    ∃ ready output done,
      gatherSample.addAll (["a:b", "c", "a_b"].map gatherSource) =
        (.ok [some "/w/t/web/w/a_b".toList, some "/w/t/web/w/c".toList,
          some "/w/t/web/w/a_b".toList], ready) ∧
      ready.finalize Recorder.compile "web".toList (some ['m']) none = (.ok output, done) ∧
      output.data.getD [] = ['b', 'c', 'b'] := by
  have single : Path.LeadsDown "web".toList := ⟨by decide, by decide, by decide, by decide⟩
  have added : gatherSample.addAll (["a:b", "c", "a_b"].map gatherSource) =
      (.ok [some "/w/t/web/w/a_b".toList, some "/w/t/web/w/c".toList,
          some "/w/t/web/w/a_b".toList],
        (gatherSample.addAll (["a:b", "c", "a_b"].map gatherSource)).2) := by
    rfl
  obtain ⟨_, _, kept, output, done, _, finalized, data, length, latest, _⟩ :=
    finalize_gathers_latest gatherSample _ (["a:b", "c", "a_b"].map gatherSource) _
      [['a'], ['c'], ['b']] "web".toList none (some ['m']) none rfl rfl rfl single (by decide)
      (gatherSample_gathers (by simp))
      (.cons ⟨['a'], by rfl, by rfl⟩ (.cons ⟨['c'], by rfl, by rfl⟩
        (.cons ⟨['b'], by rfl, by rfl⟩ .nil))) added
  have first := latest 0 2 _ _ _ (by decide) rfl rfl rfl (by decide) (by decide)
  have second := latest 1 1 _ _ _ (by decide) rfl rfl rfl (by decide) (by decide)
  have third := latest 2 2 _ _ _ (by decide) rfl rfl rfl (by decide) (by decide)
  have all : kept = [['b'], ['c'], ['b']] := by
    apply List.ext_getElem?
    rintro (_ | _ | _ | position)
    · exact first
    · exact second
    · exact third
    · exact List.getElem?_eq_none (by rw [length]; exact Nat.le_add_left _ _)
  refine ⟨_, output, done, added, finalized, ?_⟩
  rw [data, all]
  rfl

/-- A build with a file in a directory whose name is that of another file but for a colon. -/
def obstructedSample : Build Recorder :=
  { gatherSample with
    bench :=
      { gatherSample.bench with
        files :=
          ⟨[(["w".toList], .directory 0), (["w".toList, "a:b".toList], .file [97] 0),
              (["w".toList, "a_b".toList], .directory 0),
              (["w".toList, "a_b".toList, "d".toList], .file [98] 0)],
            "/w".toList, 10, none⟩ } }

/-- Files with different paths whose texts do not all come out. Of two whose paths differ in a
colon only, the text of the second comes out twice. And a file cannot be registered if the copy
of another stands where its own needs a directory. -/
theorem finalize_colon_overwritten :
    (∃ ready output done,
      (["a:b", "a_b"].map fun name => (gatherSource name).path).Nodup ∧
      (∀ source ∈ ["a:b", "a_b"].map gatherSource,
        gatherSample.Gathers "web".toList none source) ∧
      List.Forall₂ (fun source text => ∃ original,
          gatherSample.bench.files.readText source.path = .ok original ∧
          gatherSample.session.pruner.process original source.logicalPath "web".toList =
            .ok text)
        (["a:b", "a_b"].map gatherSource) [['a'], ['b']] ∧
      gatherSample.addAll (["a:b", "a_b"].map gatherSource) =
        (.ok [some "/w/t/web/w/a_b".toList, some "/w/t/web/w/a_b".toList], ready) ∧
      ready.finalize Recorder.compile "web".toList (some ['m']) none = (.ok output, done) ∧
      output.data = some ['b', 'b']) ∧
      obstructedSample.bench.files.readText "/w/a_b/d".toList = .ok ['b'] ∧
      (obstructedSample.addAll [gatherSource "a_b/d"]).1 =
        .ok [some "/w/t/web/w/a_b/d".toList] ∧
      (obstructedSample.addAll (["a:b", "a_b/d"].map gatherSource)).1 =
        .error (.file ⟨.alreadyExists, some "/w/t/web/w/a_b".toList⟩) := by
  refine ⟨⟨_, _, _, by decide, gatherSample_gathers (by simp), ?_, by rfl, by rfl, by rfl⟩,
    by rfl, by rfl, by rfl⟩
  exact .cons ⟨['a'], by rfl, by rfl⟩ (.cons ⟨['b'], by rfl, by rfl⟩ .nil)

end Build

end RegionBuild
