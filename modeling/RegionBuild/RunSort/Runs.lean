import RegionBuild.RunSort.Search

/-!
# Runs

A run is a part of a list that is in order. A list is cut into runs from its start:
each is as long as it can be, turned round if it descends. A run that is too short is
made longer by inserting the elements after it one by one.
-/

namespace RegionBuild.RunSort

variable {α : Type}

/-- How many elements at the start are each linked to the one before. -/
def linked (link : α → α → Bool) : List α → Nat
  | first :: second :: rest => if link first second then linked link (second :: rest) + 1 else 1
  | rest => rest.length

/-- The longest run at the start, ascending, and the rest. -/
def splitRun (less : α → α → Bool) (list : List α) : List α × List α :=
  let descending := linked (fun first second => less second first) list
  if 1 < descending then ((list.take descending).reverse, list.drop descending)
  else
    let ascending := linked (fun first second => !less second first) list
    (list.take ascending, list.drop ascending)

/-- Insert an element into a run, after those that are equal to it. -/
def insert (less : α → α → Bool) (run : List α) (element : α) : List α :=
  run.insertIdx (halve (fun other => !less element other) run 0 run.length) element

/-- The first six binary digits of a number, and one more if there is a one among the
others. What was lost so far is one or zero. -/
def leadingDigits (count lost : Nat) : Nat :=
  if count < 64 then count + lost else leadingDigits (count / 2) (max lost (count % 2))

/-- How short a run may be in a list with this many elements, so that the number of
runs is a power of two or just below one. -/
def shortestRun (count : Nat) : Nat := leadingDigits count 0

/-- Cut a list into runs that have at least the given length, the last one apart. -/
def runsFrom (less : α → α → Bool) (shortest fuel : Nat) (list : List α) : List (List α) :=
  match fuel, list with
  | fuel + 1, _ :: _ =>
    let (run, rest) := splitRun less list
    let missing := shortest - run.length
    (rest.take missing).foldl (insert less) run ::
      runsFrom less shortest fuel (rest.drop missing)
  | _, _ => []

/-- The runs of a list. There are never more than elements. -/
def runs (less : α → α → Bool) (list : List α) : List (List α) :=
  runsFrom less (shortestRun list.length) list.length list

end RegionBuild.RunSort
