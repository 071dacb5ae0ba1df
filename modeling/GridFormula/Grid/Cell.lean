import GridFormula.Grid.ColumnName

/-!
# Cells

A workbook is a number of sheets, and each sheet a grid of cells. Columns and rows count from
zero. Coordinates are integers, so that a cell pushed past the first row or column is still
written down; such a cell is off the grid. The integers are of any size here, and what is left of
them in 32 bits is the subject of `GridFormula.Grid.Narrow`.
-/

namespace GridFormula

/-- The number of a sheet within its workbook. -/
abbrev SheetId : Type := Nat

/-- The two directions of the grid. An index along `row` is the number of a row. -/
inductive Axis where
  | row
  | column
deriving DecidableEq, Repr

/-- A cell of the workbook. -/
@[ext] structure Cell where
  sheet : SheetId
  column : Int
  row : Int
deriving DecidableEq, Repr

namespace Cell

/-- The index of the cell along an axis. -/
def along (c : Cell) : Axis → Int
  | .row => c.row
  | .column => c.column

/-- The cell `n` steps further along an axis. -/
def shift (c : Cell) (axis : Axis) (n : Int) : Cell :=
  match axis with
  | .row => { c with row := c.row + n }
  | .column => { c with column := c.column + n }

/-- The cell as many steps to the right and down, on another sheet. -/
def moved (c : Cell) (sheet : SheetId) (right down : Int) : Cell where
  sheet := sheet
  column := c.column + right
  row := c.row + down

/-- Whether the cell lies before the first column or row. -/
def isOffGrid (c : Cell) : Bool :=
  c.column < 0 || c.row < 0

/-- The name of the cell within its sheet, such as `BC32`; a cell off the grid has none. -/
def name? (c : Cell) : Option Text :=
  if c.isOffGrid then none else some (ColumnName.ofIndex c.column ++ Text.ofInt (c.row + 1))

/-- Moving a cell leaves it on its sheet. -/
@[simp] theorem sheet_shift (c : Cell) (axis : Axis) (n : Int) :
    (c.shift axis n).sheet = c.sheet := by
  cases axis <;> rfl

/-- Moving a cell changes its index on the axis. -/
@[simp] theorem along_shift (c : Cell) (axis : Axis) (n : Int) :
    (c.shift axis n).along axis = c.along axis + n := by
  cases axis <;> rfl

/-- A shift leaves the other axis alone. -/
theorem along_shift_of_ne (c : Cell) {a b : Axis} (h : a ≠ b) (n : Int) :
    (c.shift a n).along b = c.along b := by
  cases a <;> cases b <;> first | rfl | exact absurd rfl h

/-- Moving a cell by nothing leaves it where it is. -/
@[simp] theorem shift_zero (c : Cell) (axis : Axis) : c.shift axis 0 = c := by
  cases axis <;> simp [shift]

end Cell

/-- A whole row or column of a sheet. -/
structure Line where
  sheet : SheetId
  index : Int
deriving DecidableEq, Repr

/-- Whether the line lies before the first one. -/
def Line.isOffGrid (l : Line) : Bool :=
  l.index < 0

end GridFormula
