import RegionBuild.Decimal.Arithmetic
import RegionBuild.Decimal.Fixed
import RegionBuild.RunSort

/-!
# Timing operations

A timer adds up the time spent per named operation, in the order in which the
operations were first recorded. It reads a clock once when an operation starts
and once when it ends, however it ends; a timer that is not enabled reads none.
Times are added from left to right in double precision.
-/

namespace RegionBuild

open Decimal (Binary64)

/-- The time spent in one operation over all its runs. -/
structure Timing where
  name : Text
  elapsed : Binary64
  runs : Nat
deriving DecidableEq, Repr

/-- The times recorded so far. -/
structure Timer where
  enabled : Bool
  timings : List Timing
deriving DecidableEq, Repr

namespace Timer

/-- A timer without records. -/
def new (enabled : Bool) : Timer := ⟨enabled, []⟩

/-- Add a run to the records. -/
def insert (name : Text) (elapsed : Binary64) : List Timing → List Timing
  | [] => [⟨name, Binary64.zero.add elapsed, 1⟩]
  | timing :: rest =>
    if timing.name = name then
      { timing with elapsed := timing.elapsed.add elapsed, runs := timing.runs + 1 } :: rest
    else
      timing :: insert name elapsed rest

/-- Record a run that took the given time. -/
def record (timer : Timer) (name : Text) (elapsed : Binary64) : Timer :=
  { timer with timings := insert name elapsed timer.timings }

/-- The time recorded for an operation. -/
def elapsed (timer : Timer) (name : Text) : Binary64 :=
  match timer.timings.find? fun timing => timing.name == name with
  | some timing => timing.elapsed
  | none => Binary64.zero

/-- A number of seconds in the unit that fits it: microseconds without places,
or milliseconds or seconds with one. -/
def formatTime (seconds : Binary64) : Text :=
  let microseconds := seconds.scale 1000000 1
  if microseconds.less (Binary64.ofNat 1000) then
    Decimal.fixed 0 microseconds ++ "µs".toList
  else if microseconds.less (Binary64.ofNat 1000000) then
    Decimal.fixed 1 (microseconds.scale 1 1000) ++ "ms".toList
  else Decimal.fixed 1 seconds ++ ['s']

/-- The line of one operation in a report. -/
def timingLine (timing : Timing) : String :=
  let runs := if 1 < timing.runs then s!" ({timing.runs} runs)" else ""
  s!"  {String.ofList timing.name}: {String.ofList (formatTime timing.elapsed)}{runs}\n"

/-- The operations with the longest first and those of equal length in recorded
order. -/
def longestFirst (timings : List Timing) : List Timing :=
  let less (left right : Timing) : Bool := left.elapsed.less right.elapsed
  (RunSort.order less timings.reverse).reverse

/-- The report on what was recorded: the total and, from level one on, the
operations. -/
def report (timer : Timer) (level : Int) : String :=
  if !timer.enabled || timer.timings.isEmpty then ""
  else
    let total := timer.timings.foldl (fun sum timing => sum.add timing.elapsed) Binary64.zero
    let heading := s!"Total timed: {String.ofList (formatTime total)}\n"
    if level < 1 then heading
    else heading ++ String.join ((longestFirst timer.timings).map timingLine)

end Timer

/-- A timer with the clock it reads: what the clock shows at each reading, and
how many readings were taken. -/
structure Stopwatch where
  timer : Timer
  reading : Nat → Binary64
  taken : Nat

namespace Stopwatch

/-- Start an operation. A timer that is not enabled does not read the clock. -/
def start (watch : Stopwatch) : Option Binary64 × Stopwatch :=
  if watch.timer.enabled then
    (some (watch.reading watch.taken), { watch with taken := watch.taken + 1 })
  else (none, watch)

/-- End the operation that started at the given reading. -/
def finish (watch : Stopwatch) (name : Text) : Option Binary64 → Stopwatch
  | none => watch
  | some started =>
    { watch with
      timer := watch.timer.record name ((watch.reading watch.taken).subtract started)
      taken := watch.taken + 1 }

end Stopwatch

end RegionBuild
