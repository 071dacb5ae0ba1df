import GridFormula.Grid.Cell

/-!
# Anchored coordinates

A formula refers to other cells one coordinate at a time. A coordinate written with a `$` is
absolute and holds the row or column itself; any other is relative and holds the distance from the
formula's own cell, so that it means another row or column when the formula stands elsewhere.
-/

namespace GridFormula

/-- How a coordinate is tied to the grid. -/
inductive Anchor where
  /-- The distance from the formula's cell. -/
  | relative
  /-- A row or column of the grid. -/
  | absolute
deriving DecidableEq, Repr

/-- One coordinate of a reference. -/
@[ext] structure Coord where
  anchor : Anchor
  value : Int
deriving DecidableEq, Repr

namespace Coord

/-- Whether the coordinate is written with a `$`. -/
def isAbsolute (c : Coord) : Bool :=
  c.anchor = .absolute

/-- The row or column that the coordinate means in a formula at index `origin`. -/
def resolve (c : Coord) (origin : Int) : Int :=
  match c.anchor with
  | .absolute => c.value
  | .relative => c.value + origin

/-- The coordinate of the given kind that means `target` in a formula at index `origin`. -/
def pointingAt (anchor : Anchor) (target origin : Int) : Coord where
  anchor := anchor
  value :=
    match anchor with
    | .absolute => target
    | .relative => target - origin

/-- Adds to the stored value, of either kind. -/
def shift (c : Coord) (n : Int) : Coord :=
  { c with value := c.value + n }

/-- Adds to the stored value of a relative coordinate only. -/
def shiftRelative (c : Coord) (n : Int) : Coord :=
  match c.anchor with
  | .relative => c.shift n
  | .absolute => c

/-- Adds to the stored value of an absolute coordinate only. -/
def shiftAbsolute (c : Coord) (n : Int) : Coord :=
  match c.anchor with
  | .relative => c
  | .absolute => c.shift n

/-- A coordinate means the line that it points at. -/
@[simp] theorem resolve_pointingAt (anchor : Anchor) (target origin : Int) :
    (pointingAt anchor target origin).resolve origin = target := by
  cases anchor <;> simp [pointingAt, resolve]

/-- A coordinate that points at a line has the anchor that it is given. -/
@[simp] theorem anchor_pointingAt (anchor : Anchor) (target origin : Int) :
    (pointingAt anchor target origin).anchor = anchor := rfl

/-- Moving a coordinate keeps its anchor. -/
@[simp] theorem anchor_shift (c : Coord) (n : Int) : (c.shift n).anchor = c.anchor := rfl

/-- Moving a coordinate moves the line that it means. -/
@[simp] theorem resolve_shift (c : Coord) (n origin : Int) :
    (c.shift n).resolve origin = c.resolve origin + n := by
  simp only [resolve, shift]
  split <;> omega

end Coord

end GridFormula
