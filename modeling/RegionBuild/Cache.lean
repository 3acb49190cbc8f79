import RegionBuild.Compiler.Basic

/-!
# The compile cache

The cache keeps one entry per architecture: the result of the last compile that
completed, under a key made of the paths and modification times of the compiled
files in order. A request with that key is answered from the entry, diagnostics
included; any other is compiled and overwrites it. A request that fails leaves
every entry as it was.
-/

namespace RegionBuild

/-- The result of a compile under the key of its files. -/
structure CacheEntry where
  key : Text
  result : Compiled
deriving DecidableEq, Repr

/-- The entries in the order in which their architectures came, and how often the
cache could answer and could not. -/
structure Cache where
  entries : List (Text × CacheEntry) := []
  hits : Nat := 0
  misses : Nat := 0
  verbosity : Int := 0
deriving DecidableEq, Repr

namespace Cache

/-- What one file adds to a key. Times count in whole milliseconds. -/
def keyPart (path : Text) (milliseconds : Int) : Text :=
  path ++ ':' :: Text.ofInt milliseconds ++ [':']

/-- The key of a list of files, each with its path and time. -/
def keyOf (files : List (Text × Int)) : Text := files.flatMap fun file => keyPart file.1 file.2

/-- The modification time in milliseconds, rounded down. -/
def milliseconds (files : FileStore) (path : Text) : Except FileFault Int := do
  let nanoseconds ← files.modified path
  return nanoseconds.fdiv 1000000

/-- The files at paths with their times. -/
def stamps (files : FileStore) : List Text → Except FileFault (List (Text × Int))
  | [] => .ok []
  | path :: rest => do
    let time ← milliseconds files path
    let more ← stamps files rest
    return (path, time) :: more

/-- The key of the files at paths. Every one of them has to be there. -/
def key (files : FileStore) (paths : List Text) : Except FileFault Text :=
  keyOf <$> stamps files paths

/-- The entry of an architecture. -/
def entry (cache : Cache) (architecture : Text) : Option CacheEntry :=
  cache.entries.lookup architecture

/-- Put an entry in place of the architecture's old one or after all others. -/
def putEntry (architecture : Text) (entry : CacheEntry) :
    List (Text × CacheEntry) → List (Text × CacheEntry)
  | [] => [(architecture, entry)]
  | (name, old) :: rest =>
    if name = architecture then (name, entry) :: rest
    else (name, old) :: putEntry architecture entry rest

/-- The cache with an entry. -/
def store (cache : Cache) (architecture : Text) (entry : CacheEntry) : Cache :=
  { cache with entries := putEntry architecture entry cache.entries }

variable {κ : Type}

/-- The line about a request that is answered from the cache. -/
def hitLine (architecture : Text) (count : Nat) : String :=
  s!"Compile cache hit: {String.ofList architecture} ({count} files)"

/-- The line about a request that is compiled. -/
def missLine (architecture : Text) (entry : Option CacheEntry) : String :=
  let reason := if entry.isNone then "no entry" else "key changed"
  s!"Compile cache miss: {String.ofList architecture} ({reason})"

/-- The name under which compiling for an architecture is timed. -/
def timingName (architecture : Text) : Text := "compile_".toList ++ architecture

/-- Compile and store the result under a key. A compile that fails stores nothing. -/
def compile (cache : Cache) (compiler : Compiler κ) (key architecture : Text) (paths : List Text)
    (hint : Option Text) (bench : Bench κ) : Except Fault Compiled × Cache × Bench κ :=
  match bench.timed (timingName architecture) (compiler paths architecture hint) with
  | (.error fault, bench) => (.error fault, cache, bench)
  | (.ok result, bench) => (.ok result, cache.store architecture ⟨key, result⟩, bench)

/-- The result for files, compiled only if the key is not that of the entry. -/
def get (cache : Cache) (compiler : Compiler κ) (architecture : Text) (paths : List Text)
    (hint : Option Text) (bench : Bench κ) : Except Fault Compiled × Cache × Bench κ :=
  match key bench.files paths with
  | .error fault => (.error (.file fault), cache, bench)
  | .ok key =>
    let entry := cache.entry architecture
    match entry.filter fun entry => entry.key == key with
    | some entry =>
      (.ok entry.result, { cache with hits := cache.hits + 1 },
        bench.sayAt cache.verbosity 4 (hitLine architecture paths.length))
    | none =>
      let counted := { cache with misses := cache.misses + 1 }
      counted.compile compiler key architecture paths hint
        (bench.sayAt cache.verbosity 4 (missLine architecture entry))

/-- The number of requests that were answered or compiled. -/
def requests (cache : Cache) : Nat := cache.hits + cache.misses

/-- The percentage of requests that were answered from an entry. -/
def hitRate (cache : Cache) : Decimal.Binary64 :=
  if cache.requests = 0 then Decimal.Binary64.zero
  else (Decimal.Binary64.ofQuotient false cache.hits cache.requests).scale 100 1

/-- The statistics in words. -/
def report (cache : Cache) : String :=
  let rate := String.ofList (Decimal.fixed 1 cache.hitRate)
  "\n=== Compile Cache Statistics ===\n" ++
    s!"Architectures cached: {cache.entries.length}\n" ++
    s!"Cache hits: {cache.hits}\n" ++
    s!"Cache misses: {cache.misses}\n" ++
    s!"Cache hit rate: {rate}%\n"

end Cache

end RegionBuild
