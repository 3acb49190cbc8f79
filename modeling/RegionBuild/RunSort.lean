import RegionBuild.RunSort.Merge
import RegionBuild.RunSort.Runs

/-!
# Sorting by merging runs

A list is cut into runs, and runs next to each other are merged until there is one.
Equal elements keep their order, so for a relation that is an order the result is the
only one there is. For one that is no order, as with times that are no number, the
result depends on which elements are compared. That is why the rule says so exactly:
how runs are found, which are merged first, and how two are merged.

Which runs are merged first is decided by the power of the place between two. The
middles of the two runs are two fractions of the whole list, and the power is the
first binary digit in which these differ. Places of a greater power are merged first.
-/

namespace RegionBuild.RunSort

variable {α : Type}

/-- The first binary digit in which two fractions of a total differ. The fuel is more
than the number of digits. -/
def firstDifference (total fuel low high : Nat) : Nat :=
  match fuel with
  | 0 => 0
  | fuel + 1 =>
    if total ≤ low then firstDifference total fuel (2 * (low - total)) (2 * (high - total)) + 1
    else if total ≤ high then 1
    else firstDifference total fuel (2 * low) (2 * high) + 1

/-- The power of the place between two runs in a list with a total of elements, given
where the first run starts and how long the two are. -/
def power (total start first second : Nat) : Nat :=
  let low := 2 * start + first
  firstDifference total (total + 1) low (low + first + second)

/-- A run that waits to be merged, where it starts, and the power of the place after
it. -/
structure Waiting (α : Type) where
  start : Nat
  run : List α
  power : Nat
deriving Repr

/-- The runs that wait, the last first, and the patience of the next merge. -/
structure Queue (α : Type) where
  waiting : List (Waiting α)
  patience : Nat
deriving Repr

namespace Queue

/-- Merge the runs before the last as long as the place between has a greater power
than the one after the last. -/
def settle (less : α → α → Bool) (power patience : Nat) : List (Waiting α) → Queue α
  | last :: before :: rest =>
    if power < before.power then
      let (run, patience) := Merge.runs less patience before.run last.run
      settle less power patience (⟨before.start, run, before.power⟩ :: rest)
    else ⟨{ last with power } :: before :: rest, patience⟩
  | [last] => ⟨[{ last with power }], patience⟩
  | [] => ⟨[], patience⟩
termination_by waiting => waiting.length

/-- Add a run after the others. -/
def add (less : α → α → Bool) (total : Nat) (queue : Queue α) (run : List α) : Queue α :=
  match queue.waiting with
  | [] => { queue with waiting := [⟨0, run, 0⟩] }
  | last :: before =>
    let place := power total last.start last.run.length run.length
    let settled := settle less place queue.patience (last :: before)
    let start := last.start + last.run.length
    { settled with waiting := ⟨start, run, 0⟩ :: settled.waiting }

/-- Merge all runs that wait, from the last on. Of the neighbours of the last but one
the shorter is merged with it. -/
def drain (less : α → α → Bool) (patience : Nat) : List (Waiting α) → List α
  | last :: middle :: first :: rest =>
    if first.run.length < last.run.length then
      let (run, patience) := Merge.runs less patience first.run middle.run
      drain less patience (last :: ⟨first.start, run, first.power⟩ :: rest)
    else
      let (run, patience) := Merge.runs less patience middle.run last.run
      drain less patience (⟨middle.start, run, middle.power⟩ :: first :: rest)
  | [last, first] => (Merge.runs less patience first.run last.run).1
  | [only] => only.run
  | [] => []
termination_by waiting => waiting.length

end Queue

/-- The elements of a list in order. -/
def order (less : α → α → Bool) (list : List α) : List α :=
  let start : Queue α := ⟨[], Merge.worthwhile⟩
  let queue := (runs less list).foldl (Queue.add less list.length) start
  Queue.drain less queue.patience queue.waiting

end RegionBuild.RunSort
