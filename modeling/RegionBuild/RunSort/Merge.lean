import RegionBuild.RunSort.Search

/-!
# Merging two runs

Two runs next to each other are merged from the end at which the shorter one has its
place, so that this is the one to be set aside. The elements are moved one by one
until one run has given many in a row. From then on whole stretches are moved, whose
lengths are found by searching, as long as that pays.

How many in a row it takes is the patience. It goes down while stretches are long and
up when they get short, and it is kept from one merge to the next.
-/

namespace RegionBuild.RunSort

/-- The two runs of a merge. -/
inductive Side where
  | left
  | right
deriving DecidableEq, Repr

/-- The other run. -/
def Side.other : Side → Side
  | .left => .right
  | .right => .left

/-- A merge under way: the run that is set aside, what is left of both runs and what
was moved. If the left run is set aside, the merge goes from the first elements to the
last, otherwise from the last to the first, and the runs are listed in this direction.
What was moved last is listed first. -/
structure Merge (α : Type) where
  aside : Side
  left : List α
  right : List α
  moved : List α
  patience : Nat
deriving Repr

namespace Merge

variable {α : Type}

/-- What is left of a run. -/
def rest (merge : Merge α) : Side → List α
  | .left => merge.left
  | .right => merge.right

/-- Move elements of a run. -/
def move (merge : Merge α) (side : Side) (count : Nat) : Merge α :=
  let moved := ((merge.rest side).take count).reverse ++ merge.moved
  match side with
  | .left => { merge with left := merge.left.drop count, moved }
  | .right => { merge with right := merge.right.drop count, moved }

/-- Whether nothing is left to compare: the last element of the run that is set aside
goes behind the other run. -/
def isOver (merge : Merge α) : Bool :=
  (merge.rest merge.aside).length ≤ 1 || (merge.rest merge.aside.other).isEmpty

/-- All elements in order, once the merge is over. -/
def result (merge : Merge α) : List α :=
  let remaining :=
    match merge.rest merge.aside with
    | [last] => merge.rest merge.aside.other ++ [last]
    | aside => aside ++ merge.rest merge.aside.other
  let listed := merge.moved.reverse ++ remaining
  match merge.aside with
  | .left => listed
  | .right => listed.reverse

/-- The run that gives the next element. Of equal elements the left one is first. -/
def chosen (less : α → α → Bool) (merge : Merge α) : Option Side :=
  match merge.left, merge.right with
  | left :: _, right :: _ =>
    if less right left then some merge.aside.other else some merge.aside
  | _, _ => none

/-- Move elements one by one until one run has given as many in a row as there is
patience for. The fuel is the number of elements. -/
def walk (less : α → α → Bool) (fuel : Nat) (side : Side) (streak : Nat) (merge : Merge α) :
    Merge α :=
  match fuel, merge.chosen less with
  | fuel + 1, some next =>
    let merge := merge.move next 1
    let streak := if next = side then streak + 1 else 1
    if merge.isOver || merge.patience ≤ streak then merge
    else walk less fuel next streak merge
  | _, _ => merge

/-- How many elements of a run are moved before the next one of the other run, where
the run is listed in the direction of the merge. The elements before the boundary stay
on the left. -/
def stretchOf (aside : Side) (before : α → Bool) (run : List α) : Nat :=
  match aside with
  | .left => boundary before run 0
  | .right => run.length - boundary before run.reverse (run.length - 1)

/-- How many elements of a run are moved before the next one of the other run. -/
def stretch (less : α → α → Bool) (merge : Merge α) : Side → Nat
  | .left =>
    match merge.right with
    | [] => 0
    | next :: _ => stretchOf merge.aside (fun element => !less next element) merge.left
  | .right =>
    match merge.left with
    | [] => 0
    | next :: _ => stretchOf merge.aside (fun element => less element next) merge.right

/-- Move a stretch of a run and one element of the other. The result has the length of
the stretch. -/
def leap (less : α → α → Bool) (merge : Merge α) (side : Side) : Nat × Merge α :=
  let count := merge.stretch less side
  let merge := merge.move side count
  if merge.isOver then (count, merge) else (count, merge.move side.other 1)

/-- How long a stretch has to be to pay. -/
def worthwhile : Nat := 7

/-- Move stretches in turns as long as one of two pays. The fuel is the number of
elements. -/
def gallop (less : α → α → Bool) (fuel : Nat) (merge : Merge α) : Merge α :=
  match fuel with
  | 0 => merge
  | fuel + 1 =>
    let (lefts, merge) := merge.leap less .left
    if merge.isOver then merge
    else
      let (rights, merge) := merge.leap less .right
      if merge.isOver then merge
      else if worthwhile ≤ lefts ∨ worthwhile ≤ rights then
        gallop less fuel { merge with patience := max 1 (merge.patience - 1) }
      else { merge with patience := merge.patience + 1 }

/-- Walk and gallop in turns until the merge is over. The fuel is the number of
elements. -/
def finish (less : α → α → Bool) (fuel : Nat) (merge : Merge α) : Merge α :=
  match fuel with
  | 0 => merge
  | fuel + 1 =>
    if merge.isOver then merge
    else
      let count := merge.left.length + merge.right.length
      let walked := merge.walk less count .left 0
      if walked.isOver then walked else finish less fuel (walked.gallop less count)

/-- Merge two runs of which neither the first left nor the last right element is in
place. The result has the patience that is left. -/
def overlapping (less : α → α → Bool) (patience : Nat) (left right : List α) :
    List α × Nat :=
  let start : Merge α :=
    if left.length ≤ right.length then Merge.move ⟨.left, left, right, [], patience⟩ .right 1
    else Merge.move ⟨.right, left.reverse, right.reverse, [], patience⟩ .left 1
  let merge := start.finish less (left.length + right.length)
  (merge.result, merge.patience)

/-- Merge two runs. Elements at the outer ends that are in place stay there. -/
def runs (less : α → α → Bool) (patience : Nat) (left right : List α) : List α × Nat :=
  let settled :=
    match right with
    | [] => left.length
    | first :: _ => boundary (fun element => !less first element) left 0
  match (left.drop settled).getLast? with
  | none => (left ++ right, patience)
  | some last =>
    let unsettled := boundary (fun element => less element last) right (right.length - 1)
    if unsettled = 0 then (left ++ right, patience)
    else
      let (merged, patience) := overlapping less patience (left.drop settled) (right.take unsettled)
      (left.take settled ++ merged ++ right.drop unsettled, patience)

end Merge

end RegionBuild.RunSort
