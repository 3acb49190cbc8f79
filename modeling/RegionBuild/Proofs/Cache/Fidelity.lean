import Mathlib.Data.List.Forall2
import RegionBuild.Compiler.Recorder
import RegionBuild.Proofs.Cache.Key
import RegionBuild.Proofs.Cache.Request
import RegionBuild.Proofs.FileStore.Growth

/-!
# Cached results are up to date

An entry of the cache remembers nothing but a key and a result. What it stands for
are the files as they were when they were compiled. As the store grows a file either
stays as it was or gets a later time, so a file that still has its old time still has
its old text. A key that matches names the old paths and the old times, and with that
the result is what compiling now would give.
-/

namespace RegionBuild

namespace Recorder

/-- A recorder with nothing to report joins files. -/
theorem result_of_silent {recorder : Recorder} (silent : recorder.diagnostics = [])
    (files : FileStore) (paths : List Text) (hint : Option Text) :
    recorder.result files paths hint = do
      let source ← joined files paths
      return { source, map := mapFor hint } := by
  simp [result, silent]

/-- Joined files are the texts of all of them, in order. -/
theorem texts_of_joined {files : FileStore} {paths : List Text} {source : Text}
    (done : joined files paths = .ok source) :
    ∃ texts, List.Forall₂ (fun path text => files.readText path = .ok text) paths texts ∧
      source = texts.flatten := by
  induction paths generalizing source with
  | nil => exact ⟨[], .nil, (Except.ok.inj done).symm⟩
  | cons path rest inductionHypothesis =>
    obtain ⟨text, read, done⟩ := bind_eq_ok.mp done
    obtain ⟨more, joinedRest, whole⟩ := bind_eq_ok.mp done
    obtain ⟨texts, reads, rfl⟩ := inductionHypothesis joinedRest
    exact ⟨text :: texts, .cons read reads, (Except.ok.inj whole).symm⟩

/-- Files that can be read are joined in order. -/
theorem joined_of_texts {files : FileStore} {paths texts : List Text}
    (reads : List.Forall₂ (fun path text => files.readText path = .ok text) paths texts) :
    joined files paths = .ok texts.flatten := by
  induction reads with
  | nil => rfl
  | cons read _ inductionHypothesis =>
    exact bind_eq_ok.mpr ⟨_, read, bind_eq_ok.mpr ⟨_, inductionHypothesis, rfl⟩⟩

end Recorder

/-- A file as it was when it was compiled: its path, its time in milliseconds, and its
text. -/
structure Snapshot where
  path : Text
  time : Int
  text : Text

namespace Snapshot

/-- What a snapshot adds to a key. -/
def stamp (shot : Snapshot) : Text × Int := (shot.path, shot.time)

/-- The file is there still and no older than the snapshot. If it has the same time it
has the same text. -/
structure Holds (files : FileStore) (shot : Snapshot) : Prop where
  plain : ':' ∉ shot.path
  present : ∃ content modified, files.node shot.path = .ok (.file content modified) ∧
    shot.time ≤ wholeMilliseconds modified ∧
    (shot.time = wholeMilliseconds modified → files.readText shot.path = .ok shot.text)

/-- A snapshot holds ever after. A file written again is too late to be mistaken. -/
theorem Holds.advance {before after : FileStore} (grown : before.Advances after)
    {shot : Snapshot} (holds : shot.Holds before) : shot.Holds after := by
  obtain ⟨content, modified, found, notOlder, sameText⟩ := holds.present
  obtain ⟨content', modified', found', kept⟩ := grown.node found
  refine ⟨holds.plain, content', modified', found', ?_⟩
  rcases kept with ⟨rfl, rfl⟩ | later
  · refine ⟨notOlder, fun sameTime => ?_⟩
    rw [FileStore.readText_congr (found'.trans found.symm)]
    exact sameText sameTime
  · refine ⟨by omega, fun sameTime => ?_⟩
    omega

end Snapshot

namespace Cache

/-- The time of a file in milliseconds. -/
theorem milliseconds_of_node {files : FileStore} {path : Text} {content : List UInt8}
    {modified : Int} (found : files.node path = .ok (.file content modified)) :
    milliseconds files path = .ok (wholeMilliseconds modified) := by
  unfold milliseconds FileStore.modified
  rw [found]
  rfl

/-- Files that can be read have a key. -/
theorem exists_key {files : FileStore} {paths texts : List Text}
    (reads : List.Forall₂ (fun path text => files.readText path = .ok text) paths texts) :
    ∃ text, key files paths = .ok text := by
  have stamped : ∃ found, stamps files paths = .ok found := by
    induction reads with
    | nil => exact ⟨[], rfl⟩
    | cons read _ inductionHypothesis =>
      obtain ⟨content, modified, present⟩ := FileStore.node_of_readText read
      obtain ⟨found, stamped⟩ := inductionHypothesis
      exact ⟨_, bind_eq_ok.mpr ⟨_, milliseconds_of_node present,
        bind_eq_ok.mpr ⟨found, stamped, rfl⟩⟩⟩
  obtain ⟨found, stamped⟩ := stamped
  exact ⟨_, key_eq_ok.mpr ⟨found, stamped, rfl⟩⟩

/-- Stamps are of the paths asked for. -/
theorem mem_of_stamps {files : FileStore} {paths : List Text} {found : List (Text × Int)}
    (stamped : stamps files paths = .ok found) {file : Text × Int} (listed : file ∈ found) :
    file.1 ∈ paths := by
  induction paths generalizing found with
  | nil =>
    rw [← Except.ok.inj stamped] at listed
    cases listed
  | cons path rest inductionHypothesis =>
    obtain ⟨time, _, stamped⟩ := bind_eq_ok.mp stamped
    obtain ⟨more, stampedRest, whole⟩ := bind_eq_ok.mp stamped
    rw [← Except.ok.inj whole] at listed
    rcases List.mem_cons.mp listed with rfl | later
    · exact List.mem_cons_self
    · exact List.mem_cons_of_mem _ (inductionHypothesis stampedRest later)

/-- Where the stamps are those of snapshots that hold, joining the files gives the
texts of the snapshots. -/
theorem joined_of_stamps {files : FileStore} (shots : List Snapshot) (paths : List Text)
    (stamped : stamps files paths = .ok (shots.map Snapshot.stamp))
    (hold : ∀ shot ∈ shots, shot.Holds files) :
    Recorder.joined files paths = .ok (shots.flatMap Snapshot.text) := by
  induction paths generalizing shots with
  | nil =>
    have empty : shots = [] := List.map_eq_nil_iff.mp (Except.ok.inj stamped).symm
    rw [empty]
    rfl
  | cons path rest inductionHypothesis =>
    obtain ⟨time, timed, stamped⟩ := bind_eq_ok.mp stamped
    obtain ⟨more, stampedRest, whole⟩ := bind_eq_ok.mp stamped
    cases shots with
    | nil => cases whole
    | cons shot later =>
      obtain ⟨own, others⟩ := List.cons.inj (Except.ok.inj whole)
      obtain ⟨samePath, sameTime⟩ := Prod.mk.inj own
      obtain ⟨content, modified, found, _, sameText⟩ := (hold shot List.mem_cons_self).present
      have samePath : path = shot.path := samePath
      subst samePath
      have current := Except.ok.inj (timed.symm.trans (milliseconds_of_node found))
      have text := sameText (sameTime.symm.trans current)
      have texts := inductionHypothesis later (by rw [stampedRest, others])
        (fun other inside => hold other (List.mem_cons_of_mem _ inside))
      exact bind_eq_ok.mpr ⟨_, text, bind_eq_ok.mpr ⟨_, texts, rfl⟩⟩

/-- Files that can be joined can be taken snapshots of, and these hold. -/
theorem exists_snapshots {files : FileStore} (paths : List Text) (source : Text)
    (plain : ∀ path ∈ paths, ':' ∉ path) (joined : Recorder.joined files paths = .ok source) :
    ∃ shots : List Snapshot, stamps files paths = .ok (shots.map Snapshot.stamp) ∧
      source = shots.flatMap Snapshot.text ∧ ∀ shot ∈ shots, shot.Holds files := by
  induction paths generalizing source with
  | nil => exact ⟨[], rfl, (Except.ok.inj joined).symm, by simp⟩
  | cons path rest inductionHypothesis =>
    obtain ⟨text, read, joined⟩ := bind_eq_ok.mp joined
    obtain ⟨more, joinedRest, whole⟩ := bind_eq_ok.mp joined
    obtain ⟨shots, stamped, texts, hold⟩ := inductionHypothesis more
      (fun other inside => plain other (List.mem_cons_of_mem _ inside)) joinedRest
    obtain ⟨content, modified, found⟩ := FileStore.node_of_readText read
    have own : Snapshot.Holds files ⟨path, wholeMilliseconds modified, text⟩ :=
      ⟨plain path List.mem_cons_self, content, modified, found, Int.le_refl _, fun _ => read⟩
    refine ⟨⟨path, wholeMilliseconds modified, text⟩ :: shots, ?_, ?_, ?_⟩
    · exact bind_eq_ok.mpr ⟨_, milliseconds_of_node found,
        bind_eq_ok.mpr ⟨_, stamped, rfl⟩⟩
    · rw [← Except.ok.inj whole, texts]
      rfl
    · intro shot inside
      rcases List.mem_cons.mp inside with rfl | later
      · exact own
      · exact hold shot later

/-- An entry stands for snapshots that hold: its key is theirs and its result joins
their texts. -/
def Backed (files : FileStore) (entry : CacheEntry) : Prop :=
  ∃ shots : List Snapshot, entry.key = keyOf (shots.map Snapshot.stamp) ∧
    entry.result.source = shots.flatMap Snapshot.text ∧ ∀ shot ∈ shots, shot.Holds files

/-- Every entry is backed. -/
def Sound (files : FileStore) (cache : Cache) : Prop :=
  ∀ named ∈ cache.entries, Backed files named.2

/-- A sound cache stays sound while the store grows. -/
theorem Sound.advance {before after : FileStore} (grown : before.Advances after)
    {cache : Cache} (sound : cache.Sound before) : cache.Sound after := by
  intro named listed
  obtain ⟨shots, key, source, hold⟩ := sound named listed
  exact ⟨shots, key, source, fun shot inside => (hold shot inside).advance grown⟩

/-- An entry put into a cache is the only new one. -/
theorem mem_putEntry {architecture : Text} {entry : CacheEntry}
    {entries : List (Text × CacheEntry)} {named : Text × CacheEntry}
    (listed : named ∈ putEntry architecture entry entries) :
    named.2 = entry ∨ named ∈ entries := by
  induction entries with
  | nil =>
    rw [List.mem_singleton.mp listed]
    exact Or.inl rfl
  | cons first rest inductionHypothesis =>
    unfold putEntry at listed
    split at listed
    · rcases List.mem_cons.mp listed with rfl | later
      · exact Or.inl rfl
      · exact Or.inr (List.mem_cons_of_mem _ later)
    · rcases List.mem_cons.mp listed with rfl | later
      · exact Or.inr List.mem_cons_self
      · rcases inductionHypothesis later with new | old
        · exact Or.inl new
        · exact Or.inr (List.mem_cons_of_mem _ old)

/-- A backed entry goes into a sound cache. -/
theorem Sound.store {files : FileStore} {cache : Cache} (sound : cache.Sound files)
    (architecture : Text) {entry : CacheEntry} (backed : Backed files entry) :
    (cache.store architecture entry).Sound files := by
  intro named listed
  rcases mem_putEntry listed with new | old
  · rw [new]
    exact backed
  · exact sound named old

/-- The entry of an architecture in a sound cache is backed. -/
theorem Sound.entry {files : FileStore} {cache : Cache} (sound : cache.Sound files)
    {architecture : Text} {entry : CacheEntry} (found : cache.entry architecture = some entry) :
    Backed files entry := by
  obtain ⟨before, after, split, _⟩ := List.lookup_eq_some_iff.mp found
  exact sound (architecture, entry) (by rw [split]; simp)

/-- A backed entry under the key of the files now is what joining them now gives. -/
theorem Backed.current {files : FileStore} {entry : CacheEntry} (backed : Backed files entry)
    {paths : List Text} (plain : ∀ path ∈ paths, ':' ∉ path)
    (keyed : key files paths = .ok entry.key) :
    Recorder.joined files paths = .ok entry.result.source := by
  obtain ⟨shots, sameKey, source, hold⟩ := backed
  obtain ⟨found, stamped, keyed⟩ := key_eq_ok.mp keyed
  have same : found = shots.map Snapshot.stamp := by
    refine keyOf_injective found _ ?_ ?_ (keyed.trans sameKey)
    · intro file listed
      exact plain file.1 (mem_of_stamps stamped listed)
    · intro file listed
      obtain ⟨shot, inside, rfl⟩ := List.mem_map.mp listed
      exact (hold shot inside).plain
  rw [source]
  exact joined_of_stamps shots paths (stamped.trans (congrArg Except.ok same)) hold

/-- What a request to the cache does: it changes no file and gives the recorder nothing
to report, keeps the cache sound, and has a result exactly if joining the files now has
one, with the same text. -/
structure Answers (bench : Bench Recorder) (paths : List Text)
    (answer : Except Fault Compiled × Cache × Bench Recorder) : Prop where
  files : answer.2.2.files = bench.files
  silent : answer.2.2.tools.diagnostics = []
  sound : answer.2.1.Sound bench.files
  current : answer.1.toOption.map Compiled.source =
    (Recorder.joined bench.files paths).toOption

namespace Answers

variable {bench : Bench Recorder} {paths : List Text}
  {answer : Except Fault Compiled × Cache × Bench Recorder}

/-- What is answered is what joining gives. -/
theorem joined (answers : Answers bench paths answer) {compiled : Compiled}
    (got : answer.1 = .ok compiled) :
    Recorder.joined bench.files paths = .ok compiled.source := by
  have current := answers.current
  rw [got] at current
  cases done : Recorder.joined bench.files paths with
  | error fault =>
    rw [done] at current
    cases current
  | ok source =>
    rw [done] at current
    rw [← Option.some.inj current]

/-- Where joining gives something there is an answer. -/
theorem exists_compiled (answers : Answers bench paths answer) {source : Text}
    (done : Recorder.joined bench.files paths = .ok source) :
    ∃ compiled, answer.1 = .ok compiled := by
  have current := answers.current
  rw [done] at current
  cases got : answer.1 with
  | error fault =>
    rw [got] at current
    cases current
  | ok compiled => exact ⟨compiled, rfl⟩

end Answers

/-- A request that is compiled. The result is stored under the key of the files now. -/
theorem answers_compile (cache : Cache) (bench : Bench Recorder) (paths : List Text)
    (architecture text : Text) (hint : Option Text) (silent : bench.tools.diagnostics = [])
    (sound : cache.Sound bench.files) (plain : ∀ path ∈ paths, ':' ∉ path)
    (keyed : key bench.files paths = .ok text) :
    Answers bench paths
      (cache.compile Recorder.compile text architecture paths hint bench) := by
  unfold Cache.compile Bench.timed Recorder.compile
  simp only [Recorder.result_of_silent silent]
  cases joined : Recorder.joined bench.files paths with
  | error fault => exact ⟨rfl, silent, sound, by rw [joined]; rfl⟩
  | ok source =>
    obtain ⟨shots, stamped, texts, hold⟩ := exists_snapshots paths source plain joined
    obtain ⟨found, stamped', rfl⟩ := key_eq_ok.mp keyed
    have backed : Backed bench.files ⟨keyOf found, ⟨source, Recorder.mapFor hint, []⟩⟩ := by
      refine ⟨shots, ?_, texts, hold⟩
      rw [Except.ok.inj (stamped'.symm.trans stamped)]
    exact ⟨rfl, silent, sound.store architecture backed, by rw [joined]; rfl⟩

/-- Whether it hits or misses, a request to a sound cache gives what joining the files
now gives. -/
theorem get_answers (cache : Cache) (bench : Bench Recorder) (architecture : Text)
    (paths : List Text) (hint : Option Text) (silent : bench.tools.diagnostics = [])
    (sound : cache.Sound bench.files) (plain : ∀ path ∈ paths, ':' ∉ path) :
    Answers bench paths (cache.get Recorder.compile architecture paths hint bench) := by
  cases keyed : key bench.files paths with
  | error fault =>
    rw [cache.get_of_unkeyed Recorder.compile architecture paths hint bench keyed]
    refine ⟨rfl, silent, sound, ?_⟩
    -- Files that can be joined would have had a key.
    cases joined : Recorder.joined bench.files paths with
    | error fault' => rfl
    | ok source =>
      obtain ⟨shots, stamped, _⟩ := exists_snapshots paths source plain joined
      have present := key_eq_ok.mpr ⟨_, stamped, rfl⟩
      rw [keyed] at present
      cases present
  | ok text =>
    by_cases matched : ∃ entry, cache.entry architecture = some entry ∧ entry.key = text
    · obtain ⟨entry, found, same⟩ := matched
      have current := (sound.entry found).current plain (by rw [keyed, same])
      rw [cache.get_of_match Recorder.compile architecture paths hint bench keyed found same]
      refine ⟨Bench.sayAt_files _ _ _ _, ?_, sound, ?_⟩
      · rw [Bench.sayAt_tools]
        exact silent
      · rw [current]
        rfl
    · rw [cache.get_of_mismatch Recorder.compile architecture paths hint bench keyed
        fun entry found same => matched ⟨entry, found, same⟩]
      let told := bench.sayAt cache.verbosity 4 (missLine architecture (cache.entry architecture))
      have files : told.files = bench.files := Bench.sayAt_files _ _ _ _
      have tools : told.tools = bench.tools := Bench.sayAt_tools _ _ _ _
      have compiled := answers_compile { cache with misses := cache.misses + 1 } told paths
        architecture text hint (tools ▸ silent) (files ▸ sound) plain (files ▸ keyed)
      exact ⟨compiled.files.trans files, compiled.silent, files ▸ compiled.sound,
        files ▸ compiled.current⟩

end Cache

end RegionBuild
