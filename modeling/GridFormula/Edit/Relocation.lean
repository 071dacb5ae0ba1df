import GridFormula.Edit.Rewriting
import GridFormula.Locale.Basic

/-!
# Moving cells

The cells of a rectangle move together, perhaps to another sheet. A formula inside the rectangle
moves along: what it refers to inside keeps its place beside the formula, and what it refers to
outside keeps its place in the workbook. A formula outside follows the cells that have moved. An
area follows only as a whole; one that lies partly outside stays where it is, and so do whole rows
and columns.
-/

namespace GridFormula

/-- A move of a rectangle of cells. -/
structure Relocation where
  source : Rect
  right : Int
  down : Int
  toSheet : SheetId
deriving DecidableEq, Repr

/-- Why a move was refused. -/
inductive Relocation.Fault where
  /-- Cells would leave the sheet. -/
  | leavesSheet (m : Relocation)
deriving DecidableEq, Repr

/-- The text that reports a refused move. -/
def Relocation.Fault.message : Relocation.Fault → Text
  | leavesSheet m =>
    "moving ".toList ++ Text.ofInt m.source.width ++ 'x' :: Text.ofInt m.source.height ++
      " cells by (".toList ++ Text.ofInt m.right ++ ", ".toList ++ Text.ofInt m.down ++
      ") leaves the sheet".toList

namespace Relocation

/-- The move itself, if all cells stay on a sheet of the locale's size. -/
def checked (l : Locale) (m : Relocation) : Except Relocation.Fault Relocation :=
  if m.source.first.column + m.right < 0 ∨ m.source.first.row + m.down < 0 ∨
      l.columnCount ≤ m.source.last.column + m.right ∨ l.rowCount ≤ m.source.last.row + m.down then
    .error (.leavesSheet m)
  else .ok m

/-- Whether a reference means a cell that moves. -/
def moves (m : Relocation) (r : CellRef) (formula : Cell) : Bool :=
  r.resolve formula ∈ m.source

/-- Whether both ends of an area mean cells that move. -/
def movesArea (m : Relocation) (r : Area CellRef) (formula : Cell) : Bool :=
  m.moves r.first formula && m.moves r.last formula

/-! ## Formulas that stay -/

/-- The reference to a moved cell. It needs a sheet if the cell has left the formula's sheet. -/
def followed (m : Relocation) (r : CellRef) (formula : Cell) : CellRef :=
  let moved := r.moved m.toSheet m.right m.down
  if r.sheet = none ∧ m.toSheet ≠ formula.sheet then { moved with sheet := some m.toSheet }
  else moved

/-- The reference to a moved area. -/
def followedArea (m : Relocation) (r : Area CellRef) (formula : Cell) : Area CellRef :=
  let moved := r.map fun e => e.moved m.toSheet m.right m.down
  if r.sheet = none ∧ m.toSheet ≠ formula.sheet then moved.onSheet (some m.toSheet) else moved

/-- What becomes of formulas outside the rectangle. -/
def outside (m : Relocation) : Rewriting where
  cell r formula :=
    if m.moves r formula then .ofNew r (m.followed r formula) else .unchanged
  cells r formula :=
    if m.movesArea r formula then .ofNew r (m.followedArea r formula) else .unchanged
  lines _ _ _ := .unchanged
  place c := c

/-! ## Formulas that move -/

/-- The reference from a moved formula to a cell that moves along. -/
def carried (m : Relocation) (r : CellRef) : CellRef :=
  { r.shiftAbsolute m.right m.down with sheet := r.sheet.map fun _ => m.toSheet }

/-- The reference from a moved formula to an area that moves along. -/
def carriedArea (m : Relocation) (r : Area CellRef) : Area CellRef :=
  let shifted := r.map fun e => e.shiftAbsolute m.right m.down
  match r.sheet with
  | some _ => shifted.onSheet (some m.toSheet)
  | none => shifted

/-- The reference from a moved formula to a cell that stays. It needs a sheet if the formula has
left the sheet of the cell. -/
def left (m : Relocation) (r : CellRef) : CellRef :=
  let shifted := r.shiftRelative (-m.right) (-m.down)
  if r.sheet = none ∧ m.toSheet ≠ m.source.sheet then
    { shifted with sheet := some m.source.sheet }
  else shifted

/-- Puts an area that names no sheet on the one that the formula has left. -/
def pinned {α : Type} [Qualified α] (m : Relocation) (r : Area α) : Area α :=
  if r.sheet = none ∧ m.toSheet ≠ m.source.sheet then r.onSheet (some m.source.sheet) else r

/-- The reference from a moved formula to an area that stays. -/
def leftArea (m : Relocation) (r : Area CellRef) : Area CellRef :=
  m.pinned (r.map fun e => e.shiftRelative (-m.right) (-m.down))

/-- How far cells move along an axis. -/
def along (m : Relocation) : Axis → Int
  | .row => m.down
  | .column => m.right

/-- The reference from a moved formula to whole rows or columns. -/
def leftLines (m : Relocation) (axis : Axis) (r : Area LineRef) : Area LineRef :=
  m.pinned (r.map fun e => e.shiftRelative (-m.along axis))

/-- What becomes of formulas inside the rectangle. -/
def inside (m : Relocation) : Rewriting where
  cell r formula := .ofNew r (if m.moves r formula then m.carried r else m.left r)
  cells r formula := .ofNew r (if m.movesArea r formula then m.carriedArea r else m.leftArea r)
  lines axis r _ := .ofNew r (m.leftLines axis r)
  place c := c.moved m.toSheet m.right m.down

end Relocation

/-- Treats formulas in a rectangle in one way and all others in another one. -/
def Rewriting.within (r : Rect) (inside outside : Rewriting) : Rewriting where
  cell x formula := if formula ∈ r then inside.cell x formula else outside.cell x formula
  cells x formula := if formula ∈ r then inside.cells x formula else outside.cells x formula
  lines axis x formula :=
    if formula ∈ r then inside.lines axis x formula else outside.lines axis x formula
  place c := if c ∈ r then inside.place c else outside.place c

end GridFormula
