import RegionBuild.Compiler.External
import RegionBuild.Proofs.Cache.Request
import RegionBuild.Proofs.Path.Absolute
import RegionBuild.Proofs.Path.Relative
import RegionBuild.Proofs.SourceMap.Embedding

/-!
# Sources as seen from elsewhere

The compiler names sources as seen from its output. Named as seen from the working
directory they are still the same places, however they are written: absolute or relative,
with empty, own and parent components, above or beside the working directory. So the texts
that are embedded are those of the files that the compiler meant.
-/

namespace RegionBuild

namespace SourceMap

/-- A slash is no dot. -/
theorem slash_ne_dot : (Path.Letter.slash : CodePoint) ≠ Path.Letter.dot := by decide

/-- The code points of a path start at the root if the path does. -/
theorem isAbsolute_codesOf (path : Text) :
    Path.isAbsolute (Json.codesOf path) = Path.isAbsolute path :=
  renames_codeOf.isAbsolute path

/-- The place that a source names inside a directory. -/
def sourcePlace (directory : Text) (name : List CodePoint) : List (List CodePoint) :=
  Path.place (Path.join (Json.codesOf directory) name)

/-- The name of a source as seen from the working directory. -/
def rebasedName (here output : Text) (name : List CodePoint) : List CodePoint :=
  Path.relative (Json.codesOf here)
    (Path.normalize (Path.join (Json.codesOf output) name)) (Json.codesOf here)

/-- It names the same place. -/
theorem sourcePlace_rebasedName {here output : Text} (rooted : Path.isAbsolute here = true)
    (absolute : Path.isAbsolute output = true) (name : List CodePoint) :
    sourcePlace here (rebasedName here output name) = sourcePlace output name := by
  rw [← isAbsolute_codesOf] at rooted absolute
  exact Path.place_relative slash_ne_dot rooted (Path.isAbsolute_join_left absolute name)

/-- No loose pair comes about around a slash. -/
theorem joined_slash {front back : List CodePoint} (joined : Json.Joined front)
    (joined' : Json.Joined back) : Json.Joined (front ++ Path.Letter.slash :: back) := by
  refine List.isChain_append.mpr ⟨joined, List.isChain_cons.mpr ⟨?_, joined'⟩, ?_⟩
  · rintro second _ ⟨high, _⟩
    revert high
    decide
  · rintro first _ second ⟨⟩ ⟨_, low⟩
    revert low
    decide

/-- None comes about by joining paths. -/
theorem joined_join {base path : List CodePoint} (joined : Json.Joined base)
    (joined' : Json.Joined path) : Json.Joined (Path.join base path) := by
  rw [Path.join]
  split
  · exact joined'
  split
  · next ends =>
    rcases base.eq_nil_or_concat' with rfl | ⟨front, last, rfl⟩
    · exact joined'
    · have slash : last = Path.Letter.slash := by simpa using ends
      rw [slash, List.append_assoc]
      exact joined_slash (List.isChain_append.mp joined).1 joined'
  · exact joined_slash joined joined'

theorem joined_joinAll {base : List CodePoint} {steps : List (List CodePoint)}
    (joined : Json.Joined base) (each : ∀ step ∈ steps, Json.Joined step) :
    Json.Joined (Path.joinAll base steps) := by
  induction steps generalizing base with
  | nil => exact joined
  | cons step rest inductionHypothesis =>
    exact inductionHypothesis (joined_join joined (each step List.mem_cons_self))
      fun other listed => each other (List.mem_cons_of_mem step listed)

/-- The names of a place are parts of the path, and have no loose pair if the path has none. -/
theorem joined_of_mem_place {path name : List CodePoint} (joined : Json.Joined path)
    (listed : name ∈ Path.place path) : Json.Joined name := by
  rcases Path.mem_foldl_onward listed with none | piece
  · cases none
  · exact joined.infix ((Text.splitOn_infix _ path).2 name piece)

/-- The name of a source as seen from the working directory has no loose pair if the name that
was given has none. -/
theorem joined_rebasedName {here output : Text} (rooted : Path.isAbsolute here = true)
    (absolute : Path.isAbsolute output = true) {name : List CodePoint}
    (joined : Json.Joined name) : Json.Joined (rebasedName here output name) := by
  have dots : Json.Joined Path.here ∧ Json.Joined Path.up := by
    exact ⟨Json.joined_codesOf ['.'], Json.joined_codesOf ['.', '.']⟩
  have steps : ∀ step ∈ Path.stepsBetween (Path.place (Json.codesOf here))
      (Path.place (Path.join (Json.codesOf output) name)), Json.Joined step := by
    intro step listed
    rcases List.mem_append.mp listed with upward | downward
    · rw [List.eq_of_mem_replicate upward]
      exact dots.2
    · exact joined_of_mem_place (joined_join (Json.joined_codesOf output) joined)
        (List.mem_of_mem_drop downward)
  rw [← isAbsolute_codesOf] at rooted absolute
  rw [rebasedName, Path.relative_eq rooted (Path.isAbsolute_join_left absolute name)]
  rcases Path.between_cases (Path.place (Json.codesOf here))
    (Path.place (Path.join (Json.codesOf output) name)) with ⟨_, path⟩ | ⟨first, rest, all, path⟩
  · rw [path]
    exact dots.1
  · rw [all] at steps
    rw [path]
    exact joined_joinAll (steps first List.mem_cons_self)
      fun step listed => steps step (List.mem_cons_of_mem first listed)

/-- Names are rebased one by one. -/
theorem mapM_rebaseSource (here output : Text) (names : List (List CodePoint)) :
    (names.map Json.str).mapM (rebaseSource here output) =
      .ok ((names.map (rebasedName here output)).map Json.str) := by
  induction names with
  | nil => rfl
  | cons name rest inductionHypothesis =>
    rw [List.map_cons, List.mapM_cons, inductionHypothesis]
    rfl

/-- Names that are listed in a map that was read have no loose pairs. -/
theorem Lists.joined {members : List (List CodePoint × Json)} {names : List (List CodePoint)}
    {depth : Nat} (lists : Lists members names) (orderly : Json.Orderly depth members) :
    ∀ name ∈ names, Json.Joined name := by
  rcases lists with listed | ⟨_, rfl⟩
  · have readable := orderly.values _ (Json.mem_of_get? listed)
    intro name inside
    cases readable with
    | arr items =>
      cases items (.str name) (List.mem_map_of_mem inside) with
      | str joined => exact joined
  · simp

/-- A map is rebased if it is an object and its sources can be. -/
theorem rebase_eq_ok {here output map written : Text} :
    rebase here output map = .ok written ↔
      ∃ members listed rebased, Json.parse map = .ok (.obj members) ∧
        sources members = .ok listed ∧ listed.mapM (rebaseSource here output) = .ok rebased ∧
        written = Json.write (.obj (Json.put sourcesKey (.arr rebased) members)) := by
  constructor
  · intro done
    obtain ⟨value, decoded, done⟩ := bind_eq_ok.mp done
    obtain ⟨members, isObject, done⟩ := bind_eq_ok.mp done
    obtain ⟨listed, found, done⟩ := bind_eq_ok.mp done
    obtain ⟨rebased, renamed, same⟩ := bind_eq_ok.mp done
    cases value with
    | obj inner =>
      cases isObject
      cases same
      exact ⟨members, listed, rebased, ofJson_eq_ok.mp decoded, ofShape_eq_ok.mp found,
        ofShape_eq_ok.mp renamed, rfl⟩
    | _ => cases isObject
  · rintro ⟨members, listed, rebased, decoded, found, renamed, rfl⟩
    refine bind_eq_ok.mpr ⟨.obj members, ofJson_eq_ok.mpr decoded, ?_⟩
    refine bind_eq_ok.mpr ⟨members, rfl, ?_⟩
    refine bind_eq_ok.mpr ⟨listed, ofShape_eq_ok.mpr found, ?_⟩
    exact bind_eq_ok.mpr ⟨rebased, ofShape_eq_ok.mpr renamed, rfl⟩

/-- A rebased map is read back with its sources rebased. -/
theorem rebase_lists {here output map : Text} (rooted : Path.isAbsolute here = true)
    (absolute : Path.isAbsolute output = true) {members : List (List CodePoint × Json)}
    {names : List (List CodePoint)} (decoded : Json.parse map = .ok (.obj members))
    (lists : Lists members names) :
    ∃ written finished, rebase here output map = .ok written ∧
      Json.parse written = .ok (.obj finished) ∧
      Json.get? sourcesKey finished =
        some (.arr ((names.map (rebasedName here output)).map Json.str)) := by
  have orderly := Json.orderly_of_parse decoded
  have joined : ∀ name ∈ names.map (rebasedName here output), Json.Joined name := by
    intro name listed
    obtain ⟨given, inside, rfl⟩ := List.mem_map.mp listed
    exact joined_rebasedName rooted absolute (lists.joined orderly given inside)
  refine ⟨_, _, rebase_eq_ok.mpr ⟨members, _, _, decoded, lists.sources,
    mapM_rebaseSource here output names, rfl⟩, Json.parse_write_obj
      (orderly.put joined_keys.2.1 (Json.readable_strings joined)), ?_⟩
  rw [Json.get?_asReadMembers, Json.get?_put, if_pos rfl, Option.map_some,
    Json.asRead_of_floatless _ (Json.floatless_strings _)]

/-- A file is stored at a place, and this is its text: its bytes decoded, with universal
newlines. -/
def StoresText (files : FileStore) (place : List (List CodePoint)) (text : Text) : Prop :=
  ∃ location content modified decoded,
    location.map Json.codesOf = place ∧
    files.lookup location = some (.file content modified) ∧
    Utf8.decode content = .ok decoded ∧ text = Text.unifyNewlines decoded

/-- The text of a source that was read is stored where the source is. -/
theorem storesText_of_readSource {files : FileStore} {directory text : Text}
    {name : List CodePoint} (rooted : Path.isAbsolute directory = true)
    (read : readSource files (Path.join (Json.codesOf directory) name) = .ok text) :
    StoresText files (sourcePlace directory name) text := by
  rw [← isAbsolute_codesOf] at rooted
  have starts := Path.isAbsolute_join_left rooted name
  rw [sourcePlace]
  generalize Path.join (Json.codesOf directory) name = codes at read starts
  rw [readSource] at read
  split at read
  · next path isText =>
    obtain rfl := Json.textOf?_eq_some.mp isText
    rw [isAbsolute_codesOf] at starts
    obtain ⟨content, modified, found⟩ := FileStore.node_of_readText read
    obtain ⟨location, located, stored⟩ := FileStore.node_eq_ok.mp found
    have led : location = Path.place path :=
      (FileStore.locate_lexical located).trans (Path.lexical_of_isAbsolute _ starts)
    rw [FileStore.readText_of_node found] at read
    cases decodes : Utf8.decode content with
    | error fault =>
      rw [decodes] at read
      cases read
    | ok decoded =>
      rw [decodes] at read
      cases read
      refine ⟨location, content, modified, decoded, ?_, stored, decodes, rfl⟩
      rw [led]
      exact (renames_codeOf.place path).symm
  · split at read <;> cases read

end SourceMap

namespace External

variable {external : External} {command : List Text}

/-- What is stored once the command has run. -/
def filesAfter (external : External) (command : List Text) (bench : Bench Launcher) : FileStore :=
  let (_, files) := bench.files.makeDirectories bench.tools.outputDirectory
  (external.launch command { bench with files }).2.files

/-- A failure is reported without touching files. -/
theorem reportFailure_eq (fault : FileFault) (bench : Bench Launcher) :
    (external.reportFailure fault bench).1 = .error (.file fault) ∧
      (external.reportFailure fault bench).2.files = bench.files := by
  unfold reportFailure
  dsimp only
  split <;> exact ⟨rfl, rfl⟩

/-- What a run leaves behind depends on the files and the script alone. -/
theorem launch_congr {first second : Bench Launcher} (files : first.files = second.files)
    (tools : first.tools = second.tools) :
    (external.launch command first).2.files = (external.launch command second).2.files := by
  unfold launch
  dsimp only
  rw [tools, files]
  split
  · rw [(reportFailure_eq _ _).2, (reportFailure_eq _ _).2]
  · split
    · rw [(reportFailure_eq _ _).2, (reportFailure_eq _ _).2]
    · rfl

/-- Taking the time changes nothing about that. -/
theorem timed_launch_files (name : Text) (bench : Bench Launcher) :
    (bench.timed name (external.launch command)).2.files =
      (external.launch command bench).2.files :=
  @launch_congr external command { bench with watch := bench.watch.start.2 } bench rfl rfl

/-- What a run gives was made of what it left behind. -/
theorem compileInto_eq_ok {output architecture : Text} {hint : Option Text}
    {bench after : Bench Launcher} {result : Compiled}
    (done : external.compileInto output command architecture hint bench = (.ok result, after)) :
    after.files = (external.launch command bench).2.files ∧
      ∃ ended, interpret (external.launch command bench).2.files output command hint ended =
        .ok result := by
  unfold compileInto at done
  dsimp only at done
  split at done
  · cases done
  · next ended spent ran =>
    have left : spent.files = (external.launch command bench).2.files := by
      rw [← launch_congr (Bench.sayAt_files bench external.verbosity 3 _)
        (Bench.sayAt_tools bench external.verbosity 3 _), ← timed_launch_files, ran]
    obtain ⟨interpreted, same⟩ := Prod.mk.inj done
    rw [Bench.sayAt_files, left] at interpreted
    rw [← same, Bench.sayAt_files]
    exact ⟨left, ended, interpreted⟩

/-- Only a map that was written is made ready, and only then is anything emitted. -/
theorem interpret_emitted {files : FileStore} {output : Text} {hint : Option Text} {ended : Ended}
    {result : Compiled} (done : interpret files output command hint ended = .ok result)
    (emitted : result.emitted = true) :
    ∃ source map rebased,
      files.readText (Path.join output outputName ++ ".map".toList) = .ok map ∧
      SourceMap.rebase files.workingDirectory output map = .ok rebased ∧
      SourceMap.finish (files.removeTree output) source rebased hint files.workingDirectory =
        .ok (result.source, result.map) := by
  obtain ⟨diagnostics, _, done⟩ := bind_eq_ok.mp done
  obtain ⟨texts, read, done⟩ := bind_eq_ok.mp done
  cases texts with
  | none =>
    cases done
    cases emitted
  | some texts =>
    obtain ⟨source, map⟩ := texts
    obtain ⟨rebased, renamed, done⟩ := bind_eq_ok.mp done
    obtain ⟨⟨kept, written⟩, finished, same⟩ := bind_eq_ok.mp done
    cases same
    refine ⟨source, map, rebased, ?_, renamed, finished⟩
    unfold emittedTexts at read
    dsimp only at read
    split at read
    · obtain ⟨_, _, read⟩ := bind_eq_ok.mp read
      obtain ⟨_, found, same⟩ := bind_eq_ok.mp read
      cases same
      exact found
    · cases read

/-- A run that emits wrote a map, which was rebased and made ready with what is stored once the
output directory is gone. -/
theorem compile_emitted {paths : List Text} {architecture : Text} {hint : Option Text}
    {bench after : Bench Launcher} {result : Compiled}
    (done : external.compile paths architecture hint bench = (.ok result, after))
    (emitted : result.emitted = true) :
    ∃ command source map rebased,
      external.commandFor paths architecture
        (Path.join bench.tools.outputDirectory outputName) = .ok command ∧
      (external.filesAfter command bench).readText
        (Path.join bench.tools.outputDirectory outputName ++ ".map".toList) = .ok map ∧
      SourceMap.rebase (external.filesAfter command bench).workingDirectory
        bench.tools.outputDirectory map = .ok rebased ∧
      SourceMap.finish after.files source rebased hint
        (external.filesAfter command bench).workingDirectory = .ok (result.source, result.map) := by
  unfold compile at done
  split at done
  · cases done
    cases emitted
  dsimp only at done
  split at done
  · cases done
  next command spelled =>
  generalize into : external.compileInto _ _ _ _ _ = produced at done
  obtain ⟨outcome, spent⟩ := produced
  cases done
  obtain ⟨left, ended, interpreted⟩ := compileInto_eq_ok into
  obtain ⟨source, map, rebased, read, renamed, finished⟩ := interpret_emitted interpreted emitted
  refine ⟨command, source, map, rebased, spelled, read, renamed, ?_⟩
  rw [left]
  exact finished

/-- Writing does not lead elsewhere. -/
theorem leaveText_workingDirectory {files after : FileStore} {path : Text} {text : Option Text}
    (done : leaveText files path text = .ok after) :
    after.workingDirectory = files.workingDirectory := by
  cases text with
  | none =>
    cases done
    rfl
  | some text =>
    obtain ⟨written, wrote, same⟩ := bind_eq_ok.mp done
    obtain ⟨location, _, put⟩ := bind_eq_ok.mp (FileStore.naming_eq_ok.mp wrote)
    cases same
    cases put
    rfl

/-- Nor does what a run leaves behind. -/
theorem leave_workingDirectory (ended : Ended) (path : Text) (files : FileStore) :
    (ended.leave path files).2.workingDirectory = files.workingDirectory := by
  unfold Ended.leave
  split
  · rfl
  · next written first =>
    have same := leaveText_workingDirectory first
    split
    · exact same
    · next second => exact (leaveText_workingDirectory second).trans same

/-- Running a command does not lead elsewhere. -/
theorem filesAfter_workingDirectory (command : List Text) (bench : Bench Launcher) :
    (external.filesAfter command bench).workingDirectory = bench.files.workingDirectory := by
  have made : (bench.files.makeDirectories bench.tools.outputDirectory).2.workingDirectory =
      bench.files.workingDirectory := by
    refine FileStore.makeDirectoriesFrom_keeps
      (fun store => store.workingDirectory = bench.files.workingDirectory) ?_ _ _ _ rfl _
    intro store made path same done
    obtain ⟨location, _, rfl⟩ := FileStore.makeDirectory_eq_ok done
    exact same
  rw [← made]
  unfold filesAfter launch
  dsimp only
  split
  · rw [(reportFailure_eq _ _).2]
  · next ended _ =>
    have left := leave_workingDirectory ended (outputFileOf command)
      (bench.files.makeDirectories bench.tools.outputDirectory).2
    split
    · next ran =>
      rw [(reportFailure_eq _ _).2]
      rw [ran] at left
      exact left
    · next ran =>
      rw [ran] at left
      exact left

end External

namespace SourceMap

/-- Rebased sources name the places that they named before. A map that is an object and lists
names as its sources is rebased, and then lists as many names, each of which names from the
working directory the place that the old one names from the output directory. So what a run
of the compiler emits has, for every source that the compiler listed in the map it wrote, the
text of the file that is stored at the place that the source names from the output
directory. -/
theorem sources_keep_place {here output : Text} (rooted : Path.isAbsolute here = true)
    (absolute : Path.isAbsolute output = true) :
    (∀ (map : Text) (members : List (List CodePoint × Json)) (names : List (List CodePoint)),
      Json.parse map = .ok (.obj members) → Lists members names →
      ∃ written finished rebased, rebase here output map = .ok written ∧
        Json.parse written = .ok (.obj finished) ∧
        Json.get? sourcesKey finished = some (.arr (rebased.map Json.str)) ∧
        List.Forall₂ (fun name again => sourcePlace here again = sourcePlace output name)
          names rebased) ∧
    ∀ (external : External) (paths : List Text) (architecture : Text) (hint : Option Text)
      (bench after : Bench Launcher) (result : Compiled),
      bench.files.workingDirectory = here → bench.tools.outputDirectory = output →
      external.compile paths architecture hint bench = (.ok result, after) →
      result.emitted = true →
      ∃ command map members,
        external.commandFor paths architecture (Path.join output External.outputName) =
          .ok command ∧
        (external.filesAfter command bench).readText
          (Path.join output External.outputName ++ ".map".toList) = .ok map ∧
        Json.parse map = .ok (.obj members) ∧
        ∀ names, Lists members names →
          ∃ finished texts, Json.parse result.map = .ok (.obj finished) ∧
            Json.get? contentsKey finished = some (.arr (texts.map Json.ofText)) ∧
            List.Forall₂ (fun name text => StoresText after.files (sourcePlace output name) text)
              names texts := by
  constructor
  · intro map members names decoded lists
    obtain ⟨written, finished, done, again, found⟩ := rebase_lists rooted absolute decoded lists
    refine ⟨written, finished, names.map (rebasedName here output), done, again, found, ?_⟩
    rw [List.forall₂_map_right_iff, List.forall₂_same]
    exact fun name _ => sourcePlace_rebasedName rooted absolute name
  · rintro external paths architecture hint bench after result rfl rfl done emitted
    obtain ⟨command, source, map, rebased, spelled, read, renamed, finished⟩ :=
      External.compile_emitted done emitted
    rw [External.filesAfter_workingDirectory] at renamed finished
    obtain ⟨members, _, _, decoded, _⟩ := rebase_eq_ok.mp renamed
    refine ⟨command, map, members, spelled, read, decoded, fun names lists => ?_⟩
    obtain ⟨written, listing, same, again, found⟩ := rebase_lists rooted absolute decoded lists
    rw [renamed] at same
    cases same
    obtain ⟨last, texts, parsed, embedded, each⟩ :=
      contents_of_finishAs finished again (Or.inl found)
    refine ⟨last, texts, parsed, embedded, ?_⟩
    rw [List.forall₂_map_left_iff] at each
    refine each.imp fun name text stored => ?_
    rw [← sourcePlace_rebasedName rooted absolute name]
    exact storesText_of_readSource rooted stored

/-- Names of one file, from a directory beside it and from the root. -/
def sampleNames : List (List CodePoint) :=
  ["../.././w//b".toList, "/w/a/../b".toList].map Json.codesOf

/-- A map that lists the two. -/
def sampleListing : Text := "\x7b\"sources\":[\"../.././w//b\",\"/w/a/../b\"]\x7d".toList

/-- A run of the compiler that writes this map. -/
def sampleRun : Ended where
  source := some "x\n//# sourceMappingURL=m\n".toList
  map := some sampleListing

/-- A bench on which this is the next run. -/
def sampleBench : Bench Launcher where
  files := ⟨[(["w".toList], .directory 0), (["w".toList, "a".toList], .directory 0),
    (["w".toList, "b".toList], .file [98, 13, 10] 0)], "/w/a".toList, 10, none⟩
  printed := {}
  watch := ⟨Timer.new false, fun _ => .zero, 0⟩
  tools := { script := [.ended sampleRun], outputDirectory := "/t/u".toList }

/-- What compiling on this bench gives. -/
def sampleCompiled : Compiled where
  source := "x\n\n".toList
  map := ("\x7b\"sources\": [\"../b\", \"../b\"], \"file\": null, " ++
    "\"sourcesContent\": [\"b\\n\", \"b\\n\"]\x7d").toList

/-- The command that is run there. -/
def sampleCommand : List Text :=
  "tsc".toList :: External.arguments "ES5".toList "/t/u/out.js".toList ++ ["b".toList]

/-- Both names of a file above the working directory are rebased to the same place, and its
text is embedded twice. -/
theorem sources_keep_place_above :
    (∃ written finished rebased, rebase "/w/a".toList "/t/u".toList sampleListing = .ok written ∧
      Json.parse written = .ok (.obj finished) ∧
      Json.get? sourcesKey finished = some (.arr (rebased.map Json.str)) ∧
      List.Forall₂ (fun name again =>
        sourcePlace "/w/a".toList again = sourcePlace "/t/u".toList name) sampleNames rebased) ∧
    ∃ after, External.compile {} ["b".toList] "web".toList none sampleBench =
        (.ok sampleCompiled, after) ∧
      ∃ finished texts, Json.parse sampleCompiled.map = .ok (.obj finished) ∧
        Json.get? contentsKey finished = some (.arr (texts.map Json.ofText)) ∧
        List.Forall₂ (fun name text => StoresText after.files (sourcePlace "/t/u".toList name) text)
          sampleNames texts := by
  have decoded : Json.parse sampleListing =
      .ok (.obj [(sourcesKey, .arr (sampleNames.map Json.str))]) := by decide +kernel
  have lists : Lists [(sourcesKey, .arr (sampleNames.map Json.str))] sampleNames := Or.inl rfl
  have compiled : (External.compile {} ["b".toList] "web".toList none sampleBench).1 =
      .ok sampleCompiled := by decide +kernel
  have spelled : External.commandFor {} ["b".toList] "web".toList
      (Path.join "/t/u".toList External.outputName) = .ok sampleCommand := by decide +kernel
  have wrote : (External.filesAfter {} sampleCommand sampleBench).readText
      (Path.join "/t/u".toList External.outputName ++ ".map".toList) = .ok sampleListing := by
    decide +kernel
  obtain ⟨after, ran⟩ : ∃ after, External.compile {} ["b".toList] "web".toList none sampleBench =
      (.ok sampleCompiled, after) := by
    rw [← compiled]
    exact ⟨_, rfl⟩
  obtain ⟨rebases, compiles⟩ := @sources_keep_place "/w/a".toList "/t/u".toList rfl rfl
  refine ⟨rebases _ _ _ decoded lists, after, ran, ?_⟩
  obtain ⟨command, map, members, own, read, listed, each⟩ := compiles {} ["b".toList]
    "web".toList none sampleBench after sampleCompiled rfl rfl ran (by decide)
  rw [spelled] at own
  cases own
  rw [wrote] at read
  cases read
  rw [decoded] at listed
  cases listed
  exact each sampleNames lists

end SourceMap

end RegionBuild
