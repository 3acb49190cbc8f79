/-!
# Searching from a place

A predicate that holds of the first elements of a list and of no others has a
boundary, the number of elements it holds of. The boundary is found by striding away
from a place near it with growing steps and then by halving what lies between the
last two. A predicate that holds here and there has several boundaries, and which of
them is found depends on the places that are looked at.
-/

namespace RegionBuild.RunSort

variable {α : Type}

/-- A boundary between two places, found by halving. -/
def halve (holds : α → Bool) (list : List α) (low high : Nat) : Nat :=
  if low < high then
    let middle := low + (high - low) / 2
    match list[middle]? with
    | none => high
    | some element =>
      if holds element then halve holds list (middle + 1) high else halve holds list low middle
  else high
termination_by high - low

/-- Stride on while it is allowed: each offset is one more than twice the one before.
The result is the last offset that was allowed and the next, which is at most the
limit. -/
def stride (allowed : Nat → Bool) (limit last next : Nat) : Nat × Nat :=
  if next < limit ∧ allowed next then stride allowed limit next (2 * next + 1)
  else (last, min next limit)
termination_by limit - next

/-- Whether a predicate holds of the element at a place. -/
def holdsAt (holds : α → Bool) (list : List α) (place : Nat) : Bool :=
  match list[place]? with
  | none => false
  | some element => holds element

/-- A boundary, looked for from a place on. -/
def boundary (holds : α → Bool) (list : List α) (place : Nat) : Nat :=
  if holdsAt holds list place then
    let onward offset := holdsAt holds list (place + offset)
    let (last, next) := stride onward (list.length - place) 0 1
    halve holds list (place + last + 1) (place + next)
  else
    let backward offset := !holdsAt holds list (place - offset)
    let (last, next) := stride backward (place + 1) 0 1
    halve holds list (place + 1 - next) (place - last)

end RegionBuild.RunSort
