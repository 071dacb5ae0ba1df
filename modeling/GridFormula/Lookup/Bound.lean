/-!
# Bounds in ascending lists

In an ascending list the members below a bound come first. How many there are is found by halving:
the place looked for always lies between `base` and `base + size`.
-/

namespace GridFormula

/-- How many of the `size` indices from `base` on satisfy `p`, if those that do come first, counted
from zero. -/
def partitionPoint (p : Nat → Bool) (base size : Nat) : Nat :=
  if size ≤ 1 then
    if size = 1 ∧ p base then base + 1 else base
  else
    let half := size / 2
    partitionPoint p (if p (base + half) then base + half else base) (size - half)
termination_by size

/-- How many members of a list satisfy `p`, if those that do come first. -/
def partitionLength {α : Type} (p : α → Bool) (xs : List α) : Nat :=
  partitionPoint (fun i => xs[i]?.any p) 0 xs.length

/-- The index of the last row up to `key`, if there is one. -/
def lowerBound? (rows : List Int) (key : Int) : Option Nat :=
  match partitionLength (fun row => row ≤ key) rows with
  | 0 => none
  | n + 1 => some n

/-- The index of the first row from `key` on, or the number of rows if there is none. -/
def upperBound (rows : List Int) (key : Int) : Nat :=
  partitionLength (fun row => row < key) rows

end GridFormula
