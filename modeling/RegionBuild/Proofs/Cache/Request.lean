import RegionBuild.Cache

/-!
# What a request to the cache does

There are three ways in which a request can go. Its files have no key; the key is that
of the architecture's entry; or it is not, and the files are compiled. Each of them has
one equation here, which says what becomes of the cache and of the bench.
-/

namespace RegionBuild

namespace Bench

variable {κ : Type}

@[simp] theorem sayAt_files (bench : Bench κ) (verbosity level : Int) (line : String) :
    (bench.sayAt verbosity level line).files = bench.files := by
  unfold sayAt
  split <;> rfl

@[simp] theorem sayAt_tools (bench : Bench κ) (verbosity level : Int) (line : String) :
    (bench.sayAt verbosity level line).tools = bench.tools := by
  unfold sayAt
  split <;> rfl

end Bench

namespace Cache

variable {κ : Type}

/-- The entry of an architecture is the one that was put there last, and an entry put
there leaves those of all others. -/
theorem lookup_putEntry (architecture other : Text) (entry : CacheEntry)
    (entries : List (Text × CacheEntry)) :
    (putEntry architecture entry entries).lookup other =
      if other = architecture then some entry else entries.lookup other := by
  induction entries with
  | nil =>
    by_cases same : other = architecture
    · simp [putEntry, same]
    · have test : (other == architecture) = false := beq_eq_false_iff_ne.mpr same
      simp [putEntry, List.lookup_cons, test, same]
  | cons named rest inductionHypothesis =>
    obtain ⟨name, old⟩ := named
    by_cases own : name = architecture
    · by_cases same : other = architecture
      · simp [putEntry, own, same]
      · have test : (other == architecture) = false := beq_eq_false_iff_ne.mpr same
        simp [putEntry, own, List.lookup_cons, test, same]
    · by_cases found : other = name
      · simp [putEntry, own, found]
      · have test : (other == name) = false := beq_eq_false_iff_ne.mpr found
        simp [putEntry, own, List.lookup_cons, test, inductionHypothesis]

/-- The architecture of an entry that is put is there afterwards, with all others. -/
theorem mem_names_putEntry (architecture other : Text) (entry : CacheEntry)
    (entries : List (Text × CacheEntry)) :
    other ∈ (putEntry architecture entry entries).map Prod.fst ↔
      other = architecture ∨ other ∈ entries.map Prod.fst := by
  induction entries with
  | nil => simp [putEntry]
  | cons named rest inductionHypothesis =>
    obtain ⟨name, old⟩ := named
    by_cases own : name = architecture
    · simp [putEntry, own]
    · simp only [putEntry, own, ↓reduceIte, List.map_cons, List.mem_cons, inductionHypothesis]
      exact or_left_comm

/-- No architecture gets a second entry. -/
theorem nodup_names_putEntry (architecture : Text) (entry : CacheEntry)
    (entries : List (Text × CacheEntry)) (nodup : (entries.map Prod.fst).Nodup) :
    ((putEntry architecture entry entries).map Prod.fst).Nodup := by
  induction entries with
  | nil => simp [putEntry]
  | cons named rest inductionHypothesis =>
    obtain ⟨name, old⟩ := named
    obtain ⟨unlisted, nodupRest⟩ := List.nodup_cons.mp nodup
    by_cases own : name = architecture
    · simpa [putEntry, own] using nodup
    · simp only [putEntry, own, ↓reduceIte, List.map_cons, List.nodup_cons]
      refine ⟨?_, inductionHypothesis nodupRest⟩
      rw [mem_names_putEntry]
      exact not_or.mpr ⟨own, unlisted⟩

/-- Files have a key if all of them have a time. -/
theorem key_eq_ok {files : FileStore} {paths : List Text} {text : Text} :
    key files paths = .ok text ↔ ∃ found, stamps files paths = .ok found ∧ keyOf found = text := by
  unfold key
  cases stamps files paths with
  | error fault =>
    constructor
    · intro keyed
      cases keyed
    · rintro ⟨_, failed, _⟩
      cases failed
  | ok found =>
    constructor
    · intro keyed
      exact ⟨found, rfl, Except.ok.inj keyed⟩
    · rintro ⟨_, same, rfl⟩
      cases same
      rfl

/-- Files without a key: nothing happens. -/
theorem get_of_unkeyed (cache : Cache) (compiler : Compiler κ) (architecture : Text)
    (paths : List Text) (hint : Option Text) (bench : Bench κ) {fault : FileFault}
    (unkeyed : key bench.files paths = .error fault) :
    cache.get compiler architecture paths hint bench = (.error (.file fault), cache, bench) := by
  unfold get
  rw [unkeyed]

/-- The key of the entry: the entry's result is the answer. -/
theorem get_of_match (cache : Cache) (compiler : Compiler κ) (architecture : Text)
    (paths : List Text) (hint : Option Text) (bench : Bench κ) {text : Text} {entry : CacheEntry}
    (keyed : key bench.files paths = .ok text) (found : cache.entry architecture = some entry)
    (same : entry.key = text) :
    cache.get compiler architecture paths hint bench =
      (.ok entry.result, { cache with hits := cache.hits + 1 },
        bench.sayAt cache.verbosity 4 (hitLine architecture paths.length)) := by
  have matched : (cache.entry architecture).filter (fun entry => entry.key == text) =
      some entry := by
    rw [Option.filter_eq_some_iff]
    exact ⟨found, beq_iff_eq.mpr same⟩
  unfold get
  simp only [keyed, matched]

/-- Another key or no entry: the files are compiled. -/
theorem get_of_mismatch (cache : Cache) (compiler : Compiler κ) (architecture : Text)
    (paths : List Text) (hint : Option Text) (bench : Bench κ) {text : Text}
    (keyed : key bench.files paths = .ok text)
    (differs : ∀ entry, cache.entry architecture = some entry → entry.key ≠ text) :
    cache.get compiler architecture paths hint bench =
      compile { cache with misses := cache.misses + 1 } compiler text architecture paths hint
        (bench.sayAt cache.verbosity 4 (missLine architecture (cache.entry architecture))) := by
  have unmatched : (cache.entry architecture).filter (fun entry => entry.key == text) = none := by
    rw [Option.filter_eq_none_iff]
    intro entry found same
    exact differs entry found (beq_iff_eq.mp same)
  unfold get
  simp only [keyed, unmatched]

/-- The cache after a compile: a result is stored, and nothing else is. -/
def settle (cache : Cache) (architecture text : Text) : Except Fault Compiled → Cache
  | .error _ => cache
  | .ok result => cache.store architecture ⟨text, result⟩

@[simp] theorem settle_hits (cache : Cache) (architecture text : Text)
    (outcome : Except Fault Compiled) :
    (cache.settle architecture text outcome).hits = cache.hits := by
  cases outcome <;> rfl

@[simp] theorem settle_misses (cache : Cache) (architecture text : Text)
    (outcome : Except Fault Compiled) :
    (cache.settle architecture text outcome).misses = cache.misses := by
  cases outcome <;> rfl

/-- A compile that completes replaces the entry of its architecture. Every other entry
stays. -/
theorem entry_settle (cache : Cache) (architecture text : Text)
    (outcome : Except Fault Compiled) (other : Text) :
    (cache.settle architecture text outcome).entry other =
      if other = architecture then
        (outcome.toOption.map (CacheEntry.mk text)).or (cache.entry other)
      else cache.entry other := by
  cases outcome with
  | error fault => exact (ite_self (cache.entry other)).symm
  | ok result => exact lookup_putEntry architecture other ⟨text, result⟩ cache.entries

theorem nodup_names_settle (cache : Cache) (architecture text : Text)
    (outcome : Except Fault Compiled) (nodup : (cache.entries.map Prod.fst).Nodup) :
    ((cache.settle architecture text outcome).entries.map Prod.fst).Nodup := by
  cases outcome with
  | error fault => exact nodup
  | ok result => exact nodup_names_putEntry architecture ⟨text, result⟩ cache.entries nodup

/-- Compiling gives what the compiler gives. -/
theorem compile_eq (cache : Cache) (compiler : Compiler κ) (text architecture : Text)
    (paths : List Text) (hint : Option Text) (bench : Bench κ) :
    cache.compile compiler text architecture paths hint bench =
      ((bench.timed (timingName architecture) (compiler paths architecture hint)).1,
        cache.settle architecture text
          (bench.timed (timingName architecture) (compiler paths architecture hint)).1,
        (bench.timed (timingName architecture) (compiler paths architecture hint)).2) := by
  unfold compile
  obtain ⟨outcome, after⟩ :=
    bench.timed (timingName architecture) (compiler paths architecture hint)
  cases outcome with
  | error fault => rfl
  | ok result => rfl

end Cache

end RegionBuild
