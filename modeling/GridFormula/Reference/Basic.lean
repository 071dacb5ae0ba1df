import GridFormula.Reference.Coord

/-!
# References to cells and lines

A reference to a cell has a coordinate on each axis, a reference to a line (a whole row or column)
has one. Either may name a sheet; without one it means the sheet of the formula.
-/

namespace GridFormula

/-- A reference to one cell. -/
@[ext] structure CellRef where
  column : Coord
  row : Coord
  sheet : Option SheetId
deriving DecidableEq, Repr

/-- A reference to one row or column. -/
@[ext] structure LineRef where
  position : Coord
  sheet : Option SheetId
deriving DecidableEq, Repr

/-- References that may name a sheet. -/
class Qualified (α : Type) where
  /-- The sheet that is named. -/
  sheet : α → Option SheetId
  /-- The same reference with another sheet, or with none. -/
  onSheet : α → Option SheetId → α

instance : Qualified CellRef where
  sheet r := r.sheet
  onSheet r sheet := { r with sheet }

instance : Qualified LineRef where
  sheet r := r.sheet
  onSheet r sheet := { r with sheet }

/-- The sheet that a reference means in a formula on the sheet `home`. -/
def Qualified.resolvedSheet {α : Type} [Qualified α] (r : α) (home : SheetId) : SheetId :=
  (Qualified.sheet r).getD home

namespace CellRef

/-- The coordinate on an axis. -/
def coord (r : CellRef) : Axis → Coord
  | .row => r.row
  | .column => r.column

/-- The same reference with another coordinate on one axis. -/
def withCoord (r : CellRef) (axis : Axis) (c : Coord) : CellRef :=
  match axis with
  | .row => { r with row := c }
  | .column => { r with column := c }

/-- The half of the reference on one axis. -/
def half (r : CellRef) (axis : Axis) : LineRef where
  position := r.coord axis
  sheet := r.sheet

/-- Joins a column and a row to a cell, on the sheet of the column. -/
def ofHalves (column row : LineRef) : CellRef where
  column := column.position
  row := row.position
  sheet := column.sheet

/-- The cell that the reference means in a formula at `base`. -/
def resolve (r : CellRef) (base : Cell) : Cell where
  sheet := r.sheet.getD base.sheet
  column := r.column.resolve base.column
  row := r.row.resolve base.row

/-- The reference with the given kinds of coordinates that means `target` in a formula at `base`. -/
def pointingAt (target base : Cell) (column row : Anchor) (sheet : Option SheetId) : CellRef where
  column := .pointingAt column target.column base.column
  row := .pointingAt row target.row base.row
  sheet := sheet

/-- Whether both coordinates are absolute, so that the formula's place does not matter within a
sheet. -/
def isAbsolute (r : CellRef) : Bool :=
  r.column.isAbsolute && r.row.isAbsolute

/-- Adds to both stored values. -/
def shift (r : CellRef) (right down : Int) : CellRef :=
  { r with column := r.column.shift right, row := r.row.shift down }

/-- Adds to the stored values of the relative coordinates. -/
def shiftRelative (r : CellRef) (right down : Int) : CellRef :=
  { r with column := r.column.shiftRelative right, row := r.row.shiftRelative down }

/-- Adds to the stored values of the absolute coordinates. -/
def shiftAbsolute (r : CellRef) (right down : Int) : CellRef :=
  { r with column := r.column.shiftAbsolute right, row := r.row.shiftAbsolute down }

/-- Adds to both stored values, and puts a reference that names a sheet on another one. -/
def moved (r : CellRef) (sheet : SheetId) (right down : Int) : CellRef :=
  { r.shift right down with sheet := r.sheet.map fun _ => sheet }

/-- A reference gives back the coordinate put into it. -/
@[simp] theorem coord_withCoord (r : CellRef) (axis : Axis) (c : Coord) :
    (r.withCoord axis c).coord axis = c := by
  cases axis <;> rfl

/-- Changing one coordinate leaves the other alone. -/
theorem coord_withCoord_of_ne (r : CellRef) {a b : Axis} (h : a ≠ b) (c : Coord) :
    (r.withCoord a c).coord b = r.coord b := by
  cases a <;> cases b <;> first | rfl | exact absurd rfl h

/-- Changing a coordinate does not change the sheet. -/
@[simp] theorem sheet_withCoord (r : CellRef) (axis : Axis) (c : Coord) :
    (r.withCoord axis c).sheet = r.sheet := by
  cases axis <;> rfl

/-- On each axis a reference means the line of its coordinate. -/
@[simp] theorem along_resolve (r : CellRef) (base : Cell) (axis : Axis) :
    (r.resolve base).along axis = (r.coord axis).resolve (base.along axis) := by
  cases axis <;> rfl

/-- A reference means a cell of the sheet that it names, or else of that of its formula. -/
@[simp] theorem sheet_resolve (r : CellRef) (base : Cell) :
    (r.resolve base).sheet = r.sheet.getD base.sheet := rfl

end CellRef

namespace LineRef

/-- The line that the reference means in a formula at `base`. -/
def resolve (r : LineRef) (axis : Axis) (base : Cell) : Line where
  sheet := r.sheet.getD base.sheet
  index := r.position.resolve (base.along axis)

/-- The reference of the given kind that means the line `target` in a formula at `base`. -/
def pointingAt (axis : Axis) (target : Int) (base : Cell) (anchor : Anchor)
    (sheet : Option SheetId) : LineRef where
  position := .pointingAt anchor target (base.along axis)
  sheet := sheet

/-- Adds to the stored value. -/
def shift (r : LineRef) (n : Int) : LineRef :=
  { r with position := r.position.shift n }

/-- Adds to the stored value of a relative reference. -/
def shiftRelative (r : LineRef) (n : Int) : LineRef :=
  { r with position := r.position.shiftRelative n }

/-- Adds to the stored value of an absolute reference. -/
def shiftAbsolute (r : LineRef) (n : Int) : LineRef :=
  { r with position := r.position.shiftAbsolute n }

/-- A reference to a line means the line of its coordinate. -/
@[simp] theorem index_resolve (r : LineRef) (axis : Axis) (base : Cell) :
    (r.resolve axis base).index = r.position.resolve (base.along axis) := rfl

/-- A reference means a line of the sheet that it names, or else of that of its formula. -/
@[simp] theorem sheet_resolve (r : LineRef) (axis : Axis) (base : Cell) :
    (r.resolve axis base).sheet = r.sheet.getD base.sheet := rfl

end LineRef

end GridFormula
