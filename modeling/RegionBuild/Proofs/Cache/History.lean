import Mathlib.Data.List.Dedup
import RegionBuild.Compiler.Recorder
import RegionBuild.Proofs.Cache.Request

/-!
# The cache is a function of its history

A desk answers requests from a cache while files change around it in any way. Beside
the cache it keeps the history: of every request the key that its files had, the calls
of the compiler that it led to, and the answer. A compiler puts down its own calls, so
that nothing about them has to be taken from the cache.

All that the cache holds can be read off the history. The entry of an architecture is
what the most recent completed compile for it left, and the counters count requests and
calls. The compiler may answer what it likes, fail, or change files.
-/

namespace RegionBuild

variable {κ : Type}

/-- One call of a compiler and what came of it. -/
structure Compilation where
  call : Call
  outcome : Except Fault Compiled

/-- The compiler, which puts down each of its calls beside its own tools. -/
def Compiler.logged (compiler : Compiler κ) : Compiler (κ × List Compilation) :=
  fun paths architecture hint bench =>
    let (outcome, after) := compiler.onFirst paths architecture hint bench
    let log := after.tools.2 ++ [⟨⟨paths, architecture, hint⟩, outcome⟩]
    (outcome, { after with tools := (after.tools.1, log) })

/-- The bench without the log. -/
def Bench.plain (bench : Bench (κ × List Compilation)) : Bench κ :=
  { bench with tools := bench.tools.1 }

/-- Printing does not touch the log. -/
theorem Bench.sayAt_plain (bench : Bench (κ × List Compilation)) (verbosity level : Int)
    (line : String) :
    (bench.sayAt verbosity level line).plain = bench.plain.sayAt verbosity level line := by
  unfold sayAt
  split <;> rfl

namespace Cache

/-- A compile with a log: one more call is put down, and all else is as without. -/
theorem compile_logged (cache : Cache) (compiler : Compiler κ) (text architecture : Text)
    (paths : List Text) (hint : Option Text) (bench : Bench (κ × List Compilation)) :
    ∃ outcome after,
      cache.compile compiler.logged text architecture paths hint bench =
        (outcome, cache.settle architecture text outcome, after) ∧
      cache.compile compiler text architecture paths hint bench.plain =
        (outcome, cache.settle architecture text outcome, after.plain) ∧
      after.tools.2 = bench.tools.2 ++ [⟨⟨paths, architecture, hint⟩, outcome⟩] := by
  rw [compile_eq, compile_eq]
  exact ⟨_, _, rfl, rfl, rfl⟩

/-- A request goes the same way with a log as without. -/
theorem get_logged (cache : Cache) (compiler : Compiler κ) (architecture : Text)
    (paths : List Text) (hint : Option Text) (bench : Bench (κ × List Compilation)) :
    cache.get compiler architecture paths hint bench.plain =
      ((cache.get compiler.logged architecture paths hint bench).1,
        (cache.get compiler.logged architecture paths hint bench).2.1,
        (cache.get compiler.logged architecture paths hint bench).2.2.plain) := by
  have files : bench.plain.files = bench.files := rfl
  cases keyed : key bench.files paths with
  | error fault =>
    rw [cache.get_of_unkeyed compiler.logged _ _ _ bench keyed,
      cache.get_of_unkeyed compiler _ _ _ bench.plain (files ▸ keyed)]
  | ok text =>
    by_cases matched : ∃ entry, cache.entry architecture = some entry ∧ entry.key = text
    · obtain ⟨entry, found, same⟩ := matched
      rw [cache.get_of_match compiler.logged _ _ _ bench keyed found same,
        cache.get_of_match compiler _ _ _ bench.plain (files ▸ keyed) found same,
        ← Bench.sayAt_plain]
    · have differs : ∀ entry, cache.entry architecture = some entry → entry.key ≠ text :=
        fun entry found same => matched ⟨entry, found, same⟩
      rw [cache.get_of_mismatch compiler.logged _ _ _ bench keyed differs,
        cache.get_of_mismatch compiler _ _ _ bench.plain (files ▸ keyed) differs,
        ← Bench.sayAt_plain]
      obtain ⟨outcome, after, logged, plain, _⟩ := compile_logged
        { cache with misses := cache.misses + 1 } compiler text architecture paths hint
        (bench.sayAt cache.verbosity 4 (missLine architecture (cache.entry architecture)))
      rw [logged, plain]

end Cache

/-- A request as it went: what was asked for, the key of the files at that moment, the
compiler's calls meanwhile, and the answer. -/
structure Request where
  call : Call
  key : Except FileFault Text
  compiled : List Compilation
  answer : Except Fault Compiled

namespace Request

/-- Whether the files had a key. -/
def isKeyed (request : Request) : Bool := request.key.toBool

/-- What a request leaves behind: the result of its compile, if that completed, under
the key of the files. -/
def stored? (request : Request) : Option CacheEntry :=
  match request.key, request.compiled.getLast? with
  | .ok key, some last => last.outcome.toOption.map (CacheEntry.mk key)
  | _, _ => none

end Request

/-- What the most recent completed compile for an architecture left. The history has the
last request first. -/
def lastStored (history : List Request) (architecture : Text) : Option CacheEntry :=
  history.findSome? fun request =>
    if request.call.architecture = architecture then request.stored? else none

/-- The architectures for which a compile completed, each of them once. -/
def compiledArchitectures (history : List Request) : List Text :=
  ((history.filter fun request => request.stored?.isSome).map fun request =>
    request.call.architecture).dedup

/-- What a request left stands in front of what was left before, for its own
architecture only. -/
theorem lastStored_cons (request : Request) (history : List Request) (architecture : Text) :
    lastStored (request :: history) architecture =
      if architecture = request.call.architecture then
        request.stored?.or (lastStored history architecture)
      else lastStored history architecture := by
  by_cases own : architecture = request.call.architecture
  · cases left : request.stored? with
    | none => simp [lastStored, own, left]
    | some entry => simp [lastStored, own, left]
  · simp [lastStored, own, Ne.symm own]

/-- A request that left nothing changes nothing for any architecture. -/
theorem lastStored_of_none {request : Request} (nothing : request.stored? = none)
    (history : List Request) (architecture : Text) :
    lastStored (request :: history) architecture = lastStored history architecture := by
  rw [lastStored_cons, nothing, Option.none_or, ite_self]

/-- The architectures with a completed compile are those for which one left something. -/
theorem mem_compiledArchitectures (history : List Request) (architecture : Text) :
    architecture ∈ compiledArchitectures history ↔
      (lastStored history architecture).isSome = true := by
  simp only [compiledArchitectures, lastStored, List.mem_dedup, List.mem_map, List.mem_filter,
    List.findSome?_isSome_iff]
  constructor
  · rintro ⟨request, ⟨listed, left⟩, rfl⟩
    exact ⟨request, listed, by rw [if_pos rfl]; exact left⟩
  · rintro ⟨request, listed, left⟩
    by_cases own : request.call.architecture = architecture
    · rw [if_pos own] at left
      exact ⟨request, ⟨listed, left⟩, own⟩
    · rw [if_neg own] at left
      cases left

/-- A cache at work: it answers requests on a bench with a log, and every request is
added to the history. -/
structure Desk (κ : Type) where
  cache : Cache
  bench : Bench (κ × List Compilation)
  history : List Request

/-- What can happen: the files change in any way, or something is asked for. -/
inductive Move where
  | change (files : FileStore)
  | ask (call : Call)

namespace Desk

/-- An empty cache, with nothing asked for and nothing compiled yet. -/
def opened (verbosity : Int) (bench : Bench κ) : Desk κ where
  cache := { verbosity }
  bench := { bench with tools := (bench.tools, []) }
  history := []

/-- The compiler's calls so far. -/
def log (desk : Desk κ) : List Compilation := desk.bench.tools.2

/-- What the cache makes of a request. -/
def reply (compiler : Compiler κ) (desk : Desk κ) (call : Call) :
    Except Fault Compiled × Cache × Bench (κ × List Compilation) :=
  desk.cache.get compiler.logged call.architecture call.paths call.hint desk.bench

/-- A request as it goes when it is made now. -/
def request (compiler : Compiler κ) (desk : Desk κ) (call : Call) : Request where
  call := call
  key := Cache.key desk.bench.files call.paths
  compiled := (desk.reply compiler call).2.2.tools.2.drop desk.log.length
  answer := (desk.reply compiler call).1

/-- Deal with a request. -/
def ask (compiler : Compiler κ) (desk : Desk κ) (call : Call) : Desk κ where
  cache := (desk.reply compiler call).2.1
  bench := (desk.reply compiler call).2.2
  history := desk.request compiler call :: desk.history

/-- One thing that happens. -/
def step (compiler : Compiler κ) (desk : Desk κ) : Move → Desk κ
  | .change files => { desk with bench := { desk.bench with files } }
  | .ask call => desk.ask compiler call

/-- Any number of things that happen one after the other. -/
def run (compiler : Compiler κ) (desk : Desk κ) (moves : List Move) : Desk κ :=
  moves.foldl (step compiler) desk

/-- Files without a key: there is no compile and the cache stays. -/
theorem reply_of_unkeyed (compiler : Compiler κ) (desk : Desk κ) (call : Call) {fault : FileFault}
    (unkeyed : Cache.key desk.bench.files call.paths = .error fault) :
    desk.request compiler call = ⟨call, .error fault, [], .error (.file fault)⟩ ∧
      (desk.ask compiler call).cache = desk.cache ∧ (desk.ask compiler call).log = desk.log := by
  have replied : desk.reply compiler call = (.error (.file fault), desk.cache, desk.bench) :=
    desk.cache.get_of_unkeyed compiler.logged _ _ _ desk.bench unkeyed
  simp [request, ask, log, replied, unkeyed]

/-- The key of the entry: there is no compile and the entry is the answer. -/
theorem reply_of_match (compiler : Compiler κ) (desk : Desk κ) (call : Call) {text : Text}
    {entry : CacheEntry} (keyed : Cache.key desk.bench.files call.paths = .ok text)
    (found : desk.cache.entry call.architecture = some entry) (same : entry.key = text) :
    desk.request compiler call = ⟨call, .ok text, [], .ok entry.result⟩ ∧
      (desk.ask compiler call).cache = { desk.cache with hits := desk.cache.hits + 1 } ∧
      (desk.ask compiler call).log = desk.log := by
  have replied := desk.cache.get_of_match compiler.logged _ _ call.hint desk.bench keyed found same
  change desk.reply compiler call = _ at replied
  simp [request, ask, log, replied, keyed]

/-- Another key: there is one compile, its outcome is the answer, and a result is stored. -/
theorem reply_of_mismatch (compiler : Compiler κ) (desk : Desk κ) (call : Call) {text : Text}
    (keyed : Cache.key desk.bench.files call.paths = .ok text)
    (differs : ∀ entry, desk.cache.entry call.architecture = some entry → entry.key ≠ text) :
    ∃ outcome,
      desk.request compiler call = ⟨call, .ok text, [⟨call, outcome⟩], outcome⟩ ∧
      (desk.ask compiler call).cache =
        Cache.settle { desk.cache with misses := desk.cache.misses + 1 } call.architecture text
          outcome ∧
      (desk.ask compiler call).log = desk.log ++ [⟨call, outcome⟩] := by
  obtain ⟨outcome, after, logged, _, put⟩ := Cache.compile_logged
    { desk.cache with misses := desk.cache.misses + 1 } compiler text call.architecture call.paths
    call.hint (desk.bench.sayAt desk.cache.verbosity 4
      (Cache.missLine call.architecture (desk.cache.entry call.architecture)))
  have replied := desk.cache.get_of_mismatch compiler.logged _ _ call.hint desk.bench keyed differs
  rw [logged] at replied
  change desk.reply compiler call = _ at replied
  rw [Bench.sayAt_tools] at put
  refine ⟨outcome, ?_⟩
  simp [request, ask, log, replied, keyed, put]

/-- The books of a desk: the entries are those that the history left, no architecture
has two, and the counters count requests and calls. -/
structure Accounted (desk : Desk κ) : Prop where
  entry : ∀ architecture, desk.cache.entry architecture = lastStored desk.history architecture
  nodup : (desk.cache.entries.map Prod.fst).Nodup
  requests : desk.cache.hits + desk.cache.misses = desk.history.countP Request.isKeyed
  misses : desk.cache.misses = desk.log.length

/-- A desk opens with its books in order. -/
theorem opened_accounted (verbosity : Int) (bench : Bench κ) :
    (opened verbosity bench).Accounted :=
  ⟨fun _ => rfl, List.nodup_nil, rfl, rfl⟩

/-- A request is one more line of the history. It adds a hit or a miss, and neither if its files
have no key. -/
theorem Accounted.ask {desk : Desk κ} (accounted : desk.Accounted) (compiler : Compiler κ)
    (call : Call) : (desk.ask compiler call).Accounted := by
  have recorded : (desk.ask compiler call).history =
    desk.request compiler call :: desk.history := rfl
  cases keyed : Cache.key desk.bench.files call.paths with
  | error fault =>
    obtain ⟨request, cache, log⟩ := desk.reply_of_unkeyed compiler call keyed
    rw [request] at recorded
    refine ⟨fun architecture => ?_, ?_, ?_, ?_⟩
    · rw [cache, recorded, lastStored_of_none rfl]
      exact accounted.entry architecture
    · rw [cache]
      exact accounted.nodup
    · rw [cache, recorded, List.countP_cons_of_neg (by simp [Request.isKeyed, Except.toBool])]
      exact accounted.requests
    · rw [cache, log]
      exact accounted.misses
  | ok text =>
    by_cases matched : ∃ entry, desk.cache.entry call.architecture = some entry ∧ entry.key = text
    · obtain ⟨entry, found, same⟩ := matched
      obtain ⟨request, cache, log⟩ := desk.reply_of_match compiler call keyed found same
      rw [request] at recorded
      refine ⟨fun architecture => ?_, ?_, ?_, ?_⟩
      · rw [cache, recorded, lastStored_of_none rfl]
        exact accounted.entry architecture
      · rw [cache]
        exact accounted.nodup
      · rw [cache, recorded, List.countP_cons_of_pos (by rfl), ← accounted.requests]
        exact Nat.add_right_comm _ _ _
      · rw [cache, log]
        exact accounted.misses
    · obtain ⟨outcome, request, cache, log⟩ := desk.reply_of_mismatch compiler call keyed
        fun entry found same => matched ⟨entry, found, same⟩
      rw [request] at recorded
      have hits : (desk.ask compiler call).cache.hits = desk.cache.hits := by
        rw [cache, Cache.settle_hits]
      have misses : (desk.ask compiler call).cache.misses = desk.cache.misses + 1 := by
        rw [cache, Cache.settle_misses]
      refine ⟨fun architecture => ?_, ?_, ?_, ?_⟩
      · rw [cache, Cache.entry_settle, recorded, lastStored_cons, ← accounted.entry]
        rfl
      · rw [cache]
        exact Cache.nodup_names_settle _ _ _ _ accounted.nodup
      · rw [hits, misses, recorded, List.countP_cons_of_pos (by rfl), ← accounted.requests]
        exact (Nat.add_assoc _ _ _).symm
      · rw [misses, log, List.length_append, ← accounted.misses]
        rfl

/-- A change of the files from outside is not entered in the books, so it cannot disturb them
either. -/
theorem Accounted.step {desk : Desk κ} (accounted : desk.Accounted) (compiler : Compiler κ)
    (move : Move) : (desk.step compiler move).Accounted := by
  cases move with
  | change files =>
    exact ⟨accounted.entry, accounted.nodup, accounted.requests, accounted.misses⟩
  | ask call => exact accounted.ask compiler call

/-- The books are in order whatever the order of requests and changes. Nothing is assumed of
the compiler, which may fail or change the files itself.

Induct over the moves. -/
theorem Accounted.run {desk : Desk κ} (accounted : desk.Accounted) (compiler : Compiler κ)
    (moves : List Move) : (desk.run compiler moves).Accounted := by
  induction moves generalizing desk with
  | nil => exact accounted
  | cons move rest inductionHypothesis => exact inductionHypothesis (accounted.step compiler move)

/-- There are as many entries as architectures with a completed compile. Both lists name
an architecture once, and they name the same. -/
theorem Accounted.entries {desk : Desk κ} (accounted : desk.Accounted) :
    desk.cache.entries.length = (compiledArchitectures desk.history).length := by
  have same : ∀ architecture, architecture ∈ desk.cache.entries.map Prod.fst ↔
      architecture ∈ compiledArchitectures desk.history := by
    intro architecture
    rw [mem_compiledArchitectures, ← accounted.entry]
    unfold Cache.entry
    simp [List.lookup_isSome_iff]
  have names : (desk.cache.entries.map Prod.fst).Perm (compiledArchitectures desk.history) :=
    (List.perm_ext_iff_of_nodup accounted.nodup (List.nodup_dedup _)).mpr same
  rw [← names.length_eq, List.length_map]

/-- What the counters of a cache say. -/
structure Balanced (desk : Desk κ) : Prop where
  /-- The requests whose files had a key. -/
  requests : desk.cache.hits + desk.cache.misses = desk.history.countP Request.isKeyed
  /-- The calls of the compiler. -/
  misses : desk.cache.misses = desk.log.length
  /-- The architectures with a completed compile. -/
  entries : desk.cache.entries.length = (compiledArchitectures desk.history).length

/-- How a desk deals with a request. -/
structure Answers (compiler : Compiler κ) (desk : Desk κ) (request : Request) (after : Desk κ) :
    Prop where
  /-- The answer is that of the compiler as it is, which puts down nothing. -/
  plain : desk.cache.get compiler request.call.architecture request.call.paths request.call.hint
    desk.bench.plain = (request.answer, after.cache, after.bench.plain)
  /-- The calls that are put down are those of the request. -/
  logged : after.log = desk.log ++ request.compiled
  /-- A request whose files have no key fails, and calls no compiler. -/
  unkeyed : ∀ fault, request.key = .error fault →
    request.compiled = [] ∧ request.answer = .error (.file fault)
  /-- It is a hit exactly if the key is that which the most recent completed compile for
  the architecture left. -/
  hit_iff : ∀ text, request.key = .ok text →
    (after.cache.hits = desk.cache.hits + 1 ↔
      ∃ entry, lastStored desk.history request.call.architecture = some entry ∧
        entry.key = text)
  /-- A hit calls no compiler and returns the result of that compile. -/
  hit : ∀ text entry, request.key = .ok text →
    lastStored desk.history request.call.architecture = some entry → entry.key = text →
    request.compiled = [] ∧ request.answer = .ok entry.result
  /-- A miss calls the compiler once, with what was asked for, and returns its outcome. -/
  miss : ∀ text, request.key = .ok text →
    (∀ entry, lastStored desk.history request.call.architecture = some entry →
      entry.key ≠ text) →
    request.compiled = [⟨request.call, request.answer⟩]
  /-- A request that fails leaves every entry. -/
  failed : ∀ fault, request.answer = .error fault → after.cache.entries = desk.cache.entries
  /-- A request leaves the entries of other architectures. -/
  others : ∀ other, other ≠ request.call.architecture →
    after.cache.entry other = desk.cache.entry other

/-- With the books in order every request is dealt with in this way. -/
theorem Accounted.answers {desk : Desk κ} (accounted : desk.Accounted) (compiler : Compiler κ)
    (call : Call) :
    Answers compiler desk (desk.request compiler call) (desk.ask compiler call) := by
  have plain := desk.cache.get_logged compiler call.architecture call.paths call.hint desk.bench
  have own : lastStored desk.history call.architecture = desk.cache.entry call.architecture :=
    (accounted.entry call.architecture).symm
  cases keyed : Cache.key desk.bench.files call.paths with
  | error fault =>
    obtain ⟨request, cache, log⟩ := desk.reply_of_unkeyed compiler call keyed
    constructor
    case plain => exact plain
    all_goals simp [request, cache, log]
  | ok text =>
    by_cases matched : ∃ entry, desk.cache.entry call.architecture = some entry ∧ entry.key = text
    · obtain ⟨entry, found, same⟩ := matched
      obtain ⟨request, cache, log⟩ := desk.reply_of_match compiler call keyed found same
      constructor
      case plain => exact plain
      case others =>
        intro other _
        rw [cache]
        rfl
      all_goals simp [request, cache, log, own, found, same]
    · have differs : ∀ entry, desk.cache.entry call.architecture = some entry → entry.key ≠ text :=
        fun entry found same => matched ⟨entry, found, same⟩
      obtain ⟨outcome, request, cache, log⟩ := desk.reply_of_mismatch compiler call keyed differs
      constructor
      case plain => exact plain
      case hit_iff =>
        rw [request, cache, Cache.settle_hits]
        intro text' sameKey
        cases sameKey
        rw [own]
        exact iff_of_false (Nat.ne_of_lt (Nat.lt_succ_self _)) matched
      case hit =>
        rw [request]
        intro text' entry sameKey found same
        cases sameKey
        exact absurd same (differs entry (own.symm.trans found))
      case failed =>
        rw [request, cache]
        rintro fault rfl
        rfl
      case others =>
        intro other different
        rw [cache, Cache.entry_settle, if_neg (by rw [request] at different; exact different)]
        rfl
      all_goals simp [request, log]

/-- However the files changed and whatever was asked for and compiled until now, the
counters are those of the history, and every request is answered from it. -/
theorem run_balanced_answers (compiler : Compiler κ) (verbosity : Int) (bench : Bench κ)
    (moves : List Move) :
    ((opened verbosity bench).run compiler moves).Balanced ∧
      ∀ call, Answers compiler ((opened verbosity bench).run compiler moves)
        (((opened verbosity bench).run compiler moves).request compiler call)
        (((opened verbosity bench).run compiler moves).ask compiler call) := by
  have accounted := (opened_accounted verbosity bench).run compiler moves
  exact ⟨⟨accounted.requests, accounted.misses, accounted.entries⟩,
    fun call => accounted.answers compiler call⟩

/-- A store with one file, last changed at a time in nanoseconds. -/
def sampleFiles (modified : Int) : FileStore := ⟨[([['a']], .file [97] modified)], ['/'], 0, none⟩

/-- What the sample asks for. -/
def sampleCall : Call := ⟨["/a".toList], "web".toList, none⟩

/-- A desk with the file as it was first and a compiler that joins. -/
def sample : Desk Recorder := opened 0
  { files := sampleFiles 0
    printed := {}
    watch := ⟨Timer.new false, fun _ => .zero, 0⟩
    tools := {} }

/-- Asking again calls no compiler. Once the edited file was compiled, the file as it was
first is compiled again, although there was a compile under the same key. -/
theorem run_balanced_answers_edited :
    ((sample.run Recorder.compile [.ask sampleCall]).request Recorder.compile
      sampleCall).compiled = [] ∧
    ∃ answer, ((sample.run Recorder.compile [.ask sampleCall, .change (sampleFiles 1000000),
        .ask sampleCall, .change (sampleFiles 0)]).request Recorder.compile
      sampleCall).compiled = [⟨sampleCall, answer⟩] := by
  have again := (run_balanced_answers Recorder.compile 0 sample.bench.plain
    [.ask sampleCall]).2 sampleCall
  have edited := (run_balanced_answers Recorder.compile 0 sample.bench.plain
    [.ask sampleCall, .change (sampleFiles 1000000), .ask sampleCall,
      .change (sampleFiles 0)]).2 sampleCall
  have first : Cache.key (sampleFiles 0) sampleCall.paths = .ok "/a:0:".toList := by rfl
  refine ⟨(again.hit _ ⟨"/a:0:".toList, ⟨['a'], Recorder.mapFor none, []⟩⟩ first rfl rfl).1, _,
    edited.miss _ first ?_⟩
  intro entry left
  have last : entry = ⟨"/a:1:".toList, ⟨['a'], Recorder.mapFor none, []⟩⟩ :=
    (Option.some.inj left).symm
  rw [last]
  decide

end Desk

end RegionBuild
