import GridFormula.Formula.Tree
import GridFormula.Lexeme.Basic
import GridFormula.Grid.SheetName
import GridFormula.Locale.Basic

/-!
# What written references mean

What a reference means depends on the site of its formula: the locale, which sets the size of a
sheet, the sheets of the workbook, and the cell that the formula stands in. A reference beyond the
sheet, or to a sheet that does not exist, stays in the formula as it was written.
-/

namespace GridFormula

/-- Where a formula is read. -/
structure Site where
  locale : Locale
  sheets : SheetNames
  /-- The cell that the formula stands in. -/
  base : Cell

/-- What the sheets in front of the two ends of an area come to. -/
inductive EndSheets where
  /-- Both ends lie on one sheet; without one, on the sheet of the formula. -/
  | agreed (sheet : Option SheetId) (q : Qualification)
  /-- A sheet does not exist, or the ends lie on different sheets. -/
  | lost
  /-- Only the last end is written with a sheet. -/
  | lastOnly
deriving DecidableEq, Repr

/-- Compares the sheets in front of the two ends of an area. Of each end it is given whether a sheet
is written and, if so, which existing sheet that is. -/
def EndSheets.compare : Option (Option SheetId) → Option (Option SheetId) → EndSheets
  | none, none => .agreed none .neither
  | none, some _ => .lastOnly
  | some (some s), none => .agreed (some s) .first
  | some (some s), some (some t) => if s = t then .agreed (some s) .both else .lost
  | some _, _ => .lost

namespace Site

/-- The coordinate that is written, if the sheet reaches that far. -/
def coord? (site : Site) (axis : Axis) (w : WrittenIndex) : Option Coord :=
  if w.index < site.locale.count axis ∧ w.index ≤ ColumnName.greatestCoordinate then
    some (.pointingAt w.anchor w.index (site.base.along axis))
  else none

/-- The reference to a cell that is written, on a sheet that has been looked up. -/
def cellRef? (site : Site) (w : WrittenCell) (sheet : Option SheetId) : Option CellRef :=
  match site.coord? .column w.column, site.coord? .row w.row with
  | some column, some row => some ⟨column, row, sheet⟩
  | _, _ => none

/-- The reference to a line that is written, on a sheet that has been looked up. -/
def lineRef? (site : Site) (axis : Axis) (w : WrittenLine) (sheet : Option SheetId) :
    Option LineRef :=
  (site.coord? axis w.position).map fun position => ⟨position, sheet⟩

/-- Looks up a written sheet. -/
def writtenSheet (site : Site) (name : Option Text) : Option (Option SheetId) :=
  name.map site.sheets.id?

/-- What a written cell means. -/
def cell (site : Site) (w : WrittenCell) (raw : Text) : Atom :=
  match site.writtenSheet w.sheet with
  | some none => .unreadable raw .lostReference
  | sheet =>
    match site.cellRef? w sheet.join with
    | some r => .cell r
    | none => .unreadable raw .unknownName

/-- What an area means whose ends are written with the sheets `s` and `t`; only the last one must
not name a sheet. Given the sheet that they agree on, `first?` and `last?` are the references to the
ends, of which `area` makes an atom. -/
def area? {α : Type} (site : Site) (s t : Option Text) (first? last? : Option SheetId → Option α)
    (area : α → α → Qualification → Atom) (raw : Text) : Option Atom :=
  match EndSheets.compare (site.writtenSheet s) (site.writtenSheet t) with
  | .lastOnly => none
  | .lost => some (.unreadable raw .lostReference)
  | .agreed sheet q =>
    match first? sheet, last? sheet with
    | some a, some b => some (area a b q)
    | _, _ => some (.unreadable raw .unknownName)

/-- What the area between two written cells means. -/
def cells? (site : Site) (a b : WrittenCell) (raw : Text) : Option Atom :=
  site.area? a.sheet b.sheet (site.cellRef? a) (site.cellRef? b)
    (fun a b q => .cells (.ofCells a b q site.base)) raw

/-- What a written run of lines means. -/
def lines? (site : Site) (axis : Axis) (a b : WrittenLine) (raw : Text) : Option Atom :=
  site.area? a.sheet b.sheet (site.lineRef? axis a) (site.lineRef? axis b)
    (fun a b q => .lines axis (.ofLines axis a b q site.base)) raw

end Site

end GridFormula
