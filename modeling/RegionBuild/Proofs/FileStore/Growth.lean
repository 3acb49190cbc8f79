import RegionBuild.Proofs.Fault

/-!
# How a store grows

Writing files and making directories never takes anything away. What was a directory
stays one, and what was a file stays a file: untouched, or written again at a later
time. A path that leads to a file therefore leads to the same place ever after.

Times are later in whole milliseconds, which is how keys count them. That needs the
clock to be ahead of every file, and every write leaves it ahead again. A write that breaks
off is no exception: it is a write of the bytes that fit.
-/

namespace RegionBuild

/-- The whole milliseconds of a time in nanoseconds. -/
def wholeMilliseconds (nanoseconds : Int) : Int := nanoseconds.fdiv 1000000

namespace FileStore

/-- What is found after putting a node: the node at its place, and all else as before. -/
theorem find?_putNode (location other : Location) (node : Node)
    (nodes : List (Location × Node)) :
    ((putNode location node nodes).find? fun entry => entry.1 == other).map Prod.snd =
      if other = location then some node
      else (nodes.find? fun entry => entry.1 == other).map Prod.snd := by
  induction nodes with
  | nil =>
    by_cases same : location = other
    · simp [putNode, same]
    · simp [putNode, same, Ne.symm same]
  | cons entry rest inductionHypothesis =>
    by_cases own : entry.1 = location
    · by_cases same : location = other
      · simp [putNode, own, same]
      · simp [putNode, own, same, Ne.symm same]
    · by_cases found : entry.1 = other
      · have different : other ≠ location := found ▸ own
        simp [putNode, found, different]
      · simp [putNode, own, found, inductionHypothesis]

/-- Of two nodes put at one location the first is gone. -/
theorem putNode_putNode (location : Location) (first second : Node)
    (nodes : List (Location × Node)) :
    putNode location second (putNode location first nodes) = putNode location second nodes := by
  induction nodes with
  | nil => simp [putNode]
  | cons entry rest inductionHypothesis =>
    by_cases own : entry.1 = location
    · simp [putNode, own]
    · simp [putNode, own, inductionHypothesis]

/-- A node put below the root is found there, and all else is found as before. -/
theorem lookup_put (store : FileStore) (location other : Location) (node : Node)
    (below : location ≠ []) :
    (store.put location node).lookup other =
      if other = location then some node else store.lookup other := by
  by_cases root : other = []
  · simp [lookup, root, below.symm]
  · simp only [lookup, root, ↓reduceIte, put]
    exact find?_putNode location other node store.nodes

/-- A path leads to what is at its location. -/
theorem node_eq_ok {store : FileStore} {path : Text} {node : Node} :
    store.node path = .ok node ↔
      ∃ location, store.locate path = .ok location ∧ store.lookup location = some node := by
  unfold FileStore.node
  rw [bind_eq_ok]
  refine exists_congr fun location => and_congr_right fun _ => ?_
  cases store.lookup location <;> simp

/-- A store that has every directory of another, and the same working directory. -/
structure Extends (before after : FileStore) : Prop where
  workingDirectory : after.workingDirectory = before.workingDirectory
  directories : ∀ location modified, before.lookup location = some (.directory modified) →
    after.lookup location = some (.directory modified)

namespace Extends

variable {before after : FileStore}

/-- Components that led somewhere lead there still.

Induct over the components. Only directories are looked up on the way, and these
are kept. -/
theorem follow (extended : before.Extends after) (components : List Text)
    (location target : Location) (followed : before.follow location components = .ok target) :
    after.follow location components = .ok target := by
  induction components generalizing location with
  | nil => exact followed
  | cons component rest inductionHypothesis =>
    unfold FileStore.follow at followed ⊢
    by_cases stays : component = [] ∨ component = Path.here
    · rw [if_pos stays] at followed ⊢
      exact inductionHypothesis _ followed
    rw [if_neg stays] at followed ⊢
    by_cases goesUp : component = Path.up
    · rw [if_pos goesUp] at followed ⊢
      exact inductionHypothesis _ followed
    rw [if_neg goesUp] at followed ⊢
    by_cases last : rest = []
    · simpa only [last, ↓reduceIte] using followed
    simp only [last, ↓reduceIte] at followed ⊢
    by_cases tooLong : (!isShortName component) = true
    · simp [tooLong] at followed
    simp only [tooLong, Bool.false_eq_true, ↓reduceIte] at followed ⊢
    cases found : before.lookup (location ++ [component]) with
    | none => simp [found] at followed
    | some node =>
      cases node with
      | file content modified => simp [found] at followed
      | directory modified =>
        simp only [found] at followed
        simp only [extended.directories _ modified found]
        exact inductionHypothesis _ followed

/-- A path that led somewhere leads there still. -/
theorem followPath (extended : before.Extends after) {path : Text} {location : Location}
    (followed : before.followPath path = .ok location) :
    after.followPath path = .ok location := by
  unfold FileStore.followPath at followed ⊢
  by_cases empty : path = []
  · simp [empty] at followed
  · simp only [empty, ↓reduceIte, extended.workingDirectory] at followed ⊢
    exact extended.follow _ _ _ followed

/-- A path that could be located is at the same location still. -/
theorem locate (extended : before.Extends after) {path : Text} {location : Location}
    (located : before.locate path = .ok location) : after.locate path = .ok location := by
  unfold FileStore.locate at located ⊢
  obtain ⟨_, accepts, located⟩ := bind_eq_ok.mp located
  obtain ⟨target, followed, isNamed⟩ := bind_eq_ok.mp located
  exact bind_eq_ok.mpr ⟨_, accepts,
    bind_eq_ok.mpr ⟨target, extended.followPath followed, isNamed⟩⟩

end Extends

/-- The clock is ahead of every file. -/
def Settled (store : FileStore) : Prop :=
  ∀ location content modified, store.lookup location = some (.file content modified) →
    wholeMilliseconds modified < store.clock

/-- It is ahead if it is ahead of everything that is listed. -/
theorem settled_of_nodes {store : FileStore}
    (ahead : ∀ entry ∈ store.nodes, wholeMilliseconds entry.2.modified < store.clock) :
    store.Settled := by
  intro location content modified found
  unfold lookup at found
  split at found
  · cases found
  · obtain ⟨entry, listed, same⟩ := Option.map_eq_some_iff.mp found
    have earlier := ahead entry (List.mem_of_find?_eq_some listed)
    rw [same] at earlier
    exact earlier

/-- A store grown out of another: directories are kept, and files are kept or written
later. The clock is ahead again. -/
structure Advances (before after : FileStore) : Prop where
  workingDirectory : after.workingDirectory = before.workingDirectory
  directories : ∀ location modified, before.lookup location = some (.directory modified) →
    after.lookup location = some (.directory modified)
  files : ∀ location content modified, before.lookup location = some (.file content modified) →
    ∃ content' modified', after.lookup location = some (.file content' modified') ∧
      (content' = content ∧ modified' = modified ∨
        wholeMilliseconds modified < wholeMilliseconds modified')
  settled : after.Settled

/-- A store that has grown has every directory. -/
theorem Advances.extends {before after : FileStore} (grown : before.Advances after) :
    before.Extends after :=
  ⟨grown.workingDirectory, grown.directories⟩

/-- A store whose clock is set ahead of all files has only grown. -/
theorem advances_setClock (store : FileStore) (time : Int)
    (ahead : { store with clock := time }.Settled) :
    store.Advances { store with clock := time } where
  workingDirectory := rfl
  directories _ _ found := found
  files _ content modified found := ⟨content, modified, found, Or.inl ⟨rfl, rfl⟩⟩
  settled := ahead

/-- A store that stays as it is has grown. -/
theorem Settled.advances {store : FileStore} (settled : store.Settled) : store.Advances store :=
  store.advances_setClock store.clock settled

theorem Advances.trans {first second third : FileStore} (grown : first.Advances second)
    (grown' : second.Advances third) : first.Advances third where
  workingDirectory := grown'.workingDirectory.trans grown.workingDirectory
  directories location modified found :=
    grown'.directories location modified (grown.directories location modified found)
  files location content modified found := by
    obtain ⟨content', modified', found', kept⟩ := grown.files location content modified found
    obtain ⟨last, modified'', found'', kept'⟩ := grown'.files location content' modified' found'
    refine ⟨last, modified'', found'', ?_⟩
    rcases kept with ⟨rfl, rfl⟩ | later
    · exact kept'
    · rcases kept' with ⟨_, rfl⟩ | later'
      · exact Or.inr later
      · exact Or.inr (Int.lt_trans later later')
  settled := grown'.settled

/-- Whole milliseconds survive the stamp of a write. -/
theorem wholeMilliseconds_stamp (clock : Int) : wholeMilliseconds (clock * 1000000) = clock :=
  Int.mul_fdiv_cancel clock (by decide)

/-- Writing a file where there is no directory. -/
theorem advances_putFile (store : FileStore) (settled : store.Settled) (location : Location)
    (noDirectory : ∀ modified, store.lookup location ≠ some (.directory modified))
    (content : List UInt8) : store.Advances (store.putStamped location content).later := by
  have below : location ≠ [] := by
    rintro rfl
    exact noDirectory 0 rfl
  have found : ∀ other, (store.putStamped location content).later.lookup other =
      if other = location then some (.file content (store.clock * 1000000))
      else store.lookup other :=
    fun other => store.lookup_put location other _ below
  refine ⟨rfl, ?_, ?_, ?_⟩
  · intro other modified directory
    have different : other ≠ location := by
      rintro rfl
      exact noDirectory modified directory
    rw [found, if_neg different, directory]
  · intro other old modified file
    rw [found]
    by_cases same : other = location
    · refine ⟨content, _, if_pos same, Or.inr ?_⟩
      rw [wholeMilliseconds_stamp]
      exact settled other old modified file
    · exact ⟨old, modified, by rw [if_neg same, file], Or.inl ⟨rfl, rfl⟩⟩
  · intro other old modified file
    rw [found] at file
    change wholeMilliseconds modified < store.clock + 1000
    by_cases same : other = location
    · rw [if_pos same] at file
      cases file
      rw [wholeMilliseconds_stamp]
      omega
    · rw [if_neg same] at file
      have ahead := settled other old modified file
      omega

/-- Measuring the last name of a location does not change it. -/
theorem named_eq_ok {location result : Location} (done : named location = .ok result) :
    location = result := by
  unfold named at done
  split at done
  · split at done
    · exact Except.ok.inj done
    · cases done
  · exact Except.ok.inj done

/-- A write goes where there is no directory. -/
theorem locateForWriting_eq_ok {store : FileStore} {path : Text} {location : Location}
    (located : store.locateForWriting path = .ok location) (modified : Int) :
    store.lookup location ≠ some (.directory modified) := by
  unfold locateForWriting at located
  obtain ⟨_, _, located⟩ := bind_eq_ok.mp located
  obtain ⟨followed, _, located⟩ := bind_eq_ok.mp located
  by_cases slash : path.getLast? = some '/'
  · simp [slash] at located
  · simp only [slash, ↓reduceIte] at located
    obtain ⟨final, isNamed, located⟩ := bind_eq_ok.mp located
    obtain rfl := named_eq_ok isNamed
    intro directory
    split at located
    · cases located
    · rename_i other
      cases located
      exact other modified directory

/-- A completed write only lets the store grow. -/
theorem writeBytes_advances {store written : FileStore} (settled : store.Settled) {path : Text}
    {content : List UInt8} (done : store.writeBytes path content = .ok written) :
    store.Advances written := by
  unfold writeBytes at done
  obtain ⟨location, located, put⟩ := bind_eq_ok.mp (naming_eq_ok.mp done)
  cases put
  exact store.advances_putFile settled location (locateForWriting_eq_ok located) content

/-- Filling a file that was opened leaves nothing of its having been empty. -/
theorem fill_putStamped (store : FileStore) (location : Location) (old content : List UInt8) :
    (store.putStamped location old).fill location content =
      (store.putStamped location (store.fitting content)).later := by
  unfold fill later putStamped put
  simp only [putNode_putNode]
  rfl

/-- Writing a text is refused and changes nothing, or it writes the bytes that fit. These need
not be all of them, and what the file held before does not matter. -/
theorem writeText_cases (store : FileStore) (path text : Text) :
    (∃ fault, store.writeText path text = (.error (.file fault), store)) ∨
      ∃ after, store.writeBytes path (store.fitting (Utf8.encode text)) = .ok after ∧
        store.writeText path text =
          (if store.fitting (Utf8.encode text) = Utf8.encode text then .ok ()
            else .error .fileTooLarge, after) := by
  unfold writeText writeBytes openEmpty
  cases located : store.locateForWriting path with
  | error problem => exact Or.inl ⟨⟨problem, some path⟩, rfl⟩
  | ok location =>
    refine Or.inr ⟨_, rfl, Prod.ext rfl ?_⟩
    exact store.fill_putStamped location [] (Utf8.encode text)

/-- A directory put where there is nothing leaves everything else. -/
theorem lookup_putDirectory {store : FileStore} {location other : Location} {node : Node}
    (vacant : store.lookup location = none) (found : store.lookup other = some node) :
    (store.put location (.directory 0)).lookup other = some node := by
  have below : location ≠ [] := by
    rintro rfl
    cases vacant
  have different : other ≠ location := by
    rintro rfl
    rw [vacant] at found
    cases found
  rw [store.lookup_put location other _ below, if_neg different, found]

/-- Putting a directory where there is nothing. -/
theorem advances_putDirectory (store : FileStore) (settled : store.Settled) (location : Location)
    (vacant : store.lookup location = none) :
    store.Advances (store.put location (.directory 0)) := by
  have below : location ≠ [] := by
    rintro rfl
    cases vacant
  refine ⟨rfl, fun other modified => lookup_putDirectory vacant, ?_, ?_⟩
  · intro other content modified found
    exact ⟨content, modified, lookup_putDirectory vacant found, Or.inl ⟨rfl, rfl⟩⟩
  · intro other content modified found
    rw [store.lookup_put location other _ below] at found
    by_cases same : other = location
    · rw [if_pos same] at found
      cases found
    · rw [if_neg same] at found
      exact settled other content modified found

/-- A directory is made where there is nothing. -/
theorem makeDirectory_eq_ok {store made : FileStore} {path : Text}
    (done : store.makeDirectory path = .ok made) :
    ∃ location, store.lookup location = none ∧ made = store.put location (.directory 0) := by
  unfold makeDirectory at done
  obtain ⟨_, _, done⟩ := bind_eq_ok.mp done
  obtain ⟨_, _, done⟩ := bind_eq_ok.mp done
  obtain ⟨location, _, done⟩ := bind_eq_ok.mp done
  split at done
  · cases done
  · rename_i vacant
    exact ⟨location, vacant, (Except.ok.inj done).symm⟩

/-- Making a directory only lets the store grow. -/
theorem makeDirectory_advances {store made : FileStore} (settled : store.Settled) {path : Text}
    (done : store.makeDirectory path = .ok made) : store.Advances made := by
  obtain ⟨location, vacant, rfl⟩ := makeDirectory_eq_ok done
  exact store.advances_putDirectory settled location vacant

/-- What every new directory keeps, one that may be there already keeps, whether it is
made, taken or refused. -/
theorem takeDirectory_keeps (kept : FileStore → Prop) (taken : Bool) {store : FileStore}
    (holds : kept store) (path : Text)
    (step : ∀ made, store.makeDirectory path = .ok made → kept made) :
    kept (match store.makeDirectory path with
      | .ok made => (Except.ok (), made)
      | .error problem =>
        if taken ∧ problem ≠ FileProblem.embeddedNull ∧ store.isDirectory path then
          (.ok (), store)
        else (.error (FileFault.mk problem (some path)), store)).2 := by
  cases done : store.makeDirectory path with
  | ok made => exact step made done
  | error problem =>
    simp only
    split <;> exact holds

/-- What every new directory keeps, directories made one above the other keep, also when
a later one is refused. Only paths above the given one are tried, so the directories that
are made may be assumed to have all that is passed on to those above them.

Induct over the levels: the directories above come first, then the own one. -/
theorem makeDirectoriesFrom_keeps_within (kept : FileStore → Prop) (within : Text → Prop)
    (upward : ∀ path, within path → (splitLast path).1 ≠ [] → within (splitLast path).1)
    (step : ∀ store made path, within path → kept store → store.makeDirectory path = .ok made →
      kept made)
    (taken : Bool) (levels : Nat) (store : FileStore) (holds : kept store) (path : Text)
    (inside : within path) : kept (makeDirectoriesFrom taken levels store path).2 := by
  induction levels generalizing path with
  | zero => exact holds
  | succ levels inductionHypothesis =>
    unfold makeDirectoriesFrom
    simp only
    split
    · next missing =>
      have named : (splitLast path).1 ≠ [] := by
        intro none
        simp [none] at missing
      have above := inductionHypothesis (splitLast path).1 (upward path inside named)
      split
      · rename_i made same
        rw [same] at above
        split
        · exact above
        · exact takeDirectory_keeps kept taken above path
            fun last => step made last path inside above
      · rename_i made same
        rw [same] at above
        split
        · exact above
        · exact takeDirectory_keeps kept taken above path
            fun last => step made last path inside above
      · exact above
    · exact takeDirectory_keeps kept taken holds path fun made => step store made path inside holds

/-- What every new directory keeps, wherever it is, any number of them keep. -/
theorem makeDirectoriesFrom_keeps (kept : FileStore → Prop)
    (step : ∀ store made path, kept store → store.makeDirectory path = .ok made → kept made)
    (taken : Bool) (levels : Nat) (store : FileStore) (holds : kept store) (path : Text) :
    kept (makeDirectoriesFrom taken levels store path).2 :=
  makeDirectoriesFrom_keeps_within kept (fun _ => True) (fun _ _ _ => trivial)
    (fun store made path _ => step store made path) taken levels store holds path trivial

/-- Making directories only lets the store grow. -/
theorem makeDirectoriesFrom_advances (taken : Bool) (levels : Nat) (store : FileStore)
    (settled : store.Settled) (path : Text) :
    store.Advances (makeDirectoriesFrom taken levels store path).2 :=
  makeDirectoriesFrom_keeps store.Advances
    (fun _ _ _ grown done => grown.trans (makeDirectory_advances grown.settled done))
    taken levels store settled.advances path

namespace Advances

variable {before after : FileStore}

/-- A path that leads to a file leads to a file still, either the same or one written
later. -/
theorem node (grown : before.Advances after) {path : Text} {content : List UInt8}
    {modified : Int} (found : before.node path = .ok (.file content modified)) :
    ∃ content' modified', after.node path = .ok (.file content' modified') ∧
      (content' = content ∧ modified' = modified ∨
        wholeMilliseconds modified < wholeMilliseconds modified') := by
  obtain ⟨location, located, stored⟩ := node_eq_ok.mp found
  obtain ⟨content', modified', stored', kept⟩ := grown.files location content modified stored
  exact ⟨content', modified', node_eq_ok.mpr ⟨location, grown.extends.locate located, stored'⟩,
    kept⟩

end Advances

/-- Only files have a text. -/
theorem node_of_readText {store : FileStore} {path text : Text}
    (read : store.readText path = .ok text) :
    ∃ content modified, store.node path = .ok (.file content modified) := by
  unfold readText readBytes content at read
  obtain ⟨bytes, opened, _⟩ := bind_eq_ok.mp read
  cases found : store.node path with
  | error problem => simp [found, naming, ofFile, bind, Except.bind] at opened
  | ok node =>
    cases node with
    | file content modified => exact ⟨content, modified, rfl⟩
    | directory modified => simp [found, naming, ofFile, bind, Except.bind] at opened

/-- A path by which a text is read leads to a file. -/
theorem located_of_readText {store : FileStore} {path text : Text}
    (read : store.readText path = .ok text) :
    ∃ location content modified, store.locate path = .ok location ∧
      store.lookup location = some (.file content modified) := by
  obtain ⟨content, modified, found⟩ := node_of_readText read
  obtain ⟨location, located, stored⟩ := node_eq_ok.mp found
  exact ⟨location, content, modified, located, stored⟩

/-- Reading a file fails because there is none or because its bytes are no text. -/
theorem readText_eq_error {store : FileStore} {path : Text} {fault : Fault}
    (failed : store.readText path = .error fault) :
    (∃ problem, fault = .file problem) ∨ ∃ problem, fault = .undecodable problem := by
  rw [readText] at failed
  cases bytes : store.readBytes path with
  | error problem =>
    rw [bytes] at failed
    cases failed
    exact Or.inl ⟨problem, rfl⟩
  | ok content =>
    rw [bytes] at failed
    cases decoded : Utf8.decode content with
    | error problem =>
      simp only [ofFile, bind, Except.bind, decoded, ofDecoding, Except.error.injEq] at failed
      exact Or.inr ⟨problem, failed.symm⟩
    | ok text => simp [ofFile, bind, Except.bind, decoded, ofDecoding, pure, Except.pure] at failed

/-- The text at a path depends on what it leads to. -/
theorem readText_congr {before after : FileStore} {path : Text}
    (same : after.node path = before.node path) : after.readText path = before.readText path := by
  unfold readText readBytes content
  rw [same]

end FileStore

end RegionBuild
