import GridFormula.Formula.Mark
import GridFormula.Grid.SheetName
import GridFormula.Locale.Basic

/-!
# Writing a formula

A formula is written mark by mark in the words of a locale and with the names of the workbook, as
it reads in a given cell. A reference to what is not on the sheet is written as an error value; a
sheet without a name cannot be written at all.
-/

namespace GridFormula

/-- The words in which formulas are written. -/
structure Wording where
  locale : Locale
  sheets : SheetNames
  /-- How a name is shown on a sheet, if the workbook knows the name. -/
  shownName? : Text → SheetId → Option Text

/-- Why a formula cannot be written. -/
inductive WriteFault where
  | unknownSheet (id : SheetId)
deriving DecidableEq, Repr

/-- The text that reports why a formula cannot be written. -/
def WriteFault.message : WriteFault → Text
  | unknownSheet id => "there is no sheet with id ".toList ++ Text.ofNat id

/-- How a coordinate is written in a formula at index `origin` of an axis. -/
def Coord.written (c : Coord) (axis : Axis) (origin : Int) : Text :=
  let index := c.resolve origin
  let name :=
    match axis with
    | .column => ColumnName.ofIndex index
    | .row => Text.ofInt (index + 1)
  if c.isAbsolute then '$' :: name else name

namespace Wording

/-- Whether a coordinate means a line of the sheet. -/
def reaches (w : Wording) (base : Cell) (axis : Axis) (c : Coord) : Bool :=
  let index := c.resolve (base.along axis)
  0 ≤ index && index < w.locale.count axis

/-- Whether both coordinates of a reference mean lines of the sheet. -/
def reachesCell (w : Wording) (base : Cell) (r : CellRef) : Bool :=
  w.reaches base .column r.column && w.reaches base .row r.row

/-- How the sheet of a reference is written in front of it. -/
def sheetFront (w : Wording) (isWritten : Bool) (sheet : Option SheetId) :
    Except WriteFault Text :=
  match isWritten, sheet with
  | true, some id =>
    match w.sheets.name? id with
    | some name => .ok (SheetName.written name ++ ['!'])
    | none => .error (.unknownSheet id)
  | _, _ => .ok []

/-- How a reference to a cell is written. -/
def cell (w : Wording) (base : Cell) (isWritten : Bool) (r : CellRef) : Except WriteFault Text :=
  (w.sheetFront isWritten r.sheet).map fun front =>
    front ++ r.column.written .column base.column ++ r.row.written .row base.row

/-- How a reference to a line is written. -/
def line (w : Wording) (base : Cell) (axis : Axis) (isWritten : Bool) (r : LineRef) :
    Except WriteFault Text :=
  (w.sheetFront isWritten r.sheet).map fun front =>
    front ++ r.position.written axis (base.along axis)

/-- How a reference to an area is written, given how its ends are with and without their sheet. -/
def area {α : Type} (write : Bool → α → Except WriteFault Text) (r : Area α) :
    Except WriteFault Text := do
  let first ← write (r.qualification ≠ .neither) r.first
  let last ← write (r.qualification = .both) r.last
  .ok (first ++ ':' :: last)

/-- How a reference is written that means nothing on the sheet. -/
def lost (w : Wording) : Except WriteFault Text :=
  .ok (w.locale.errorName .lostReference)

/-- How a number is written. -/
def number (w : Wording) (numeral : Text) : Text :=
  numeral.map fun c => if c = '.' then w.locale.decimal else c

/-- How an atom is written. -/
def atom (w : Wording) (base : Cell) : Atom → Except WriteFault Text
  | .omitted => .ok []
  | .number numeral => .ok (w.number numeral)
  | .string content => .ok (Text.quoted '"' content)
  | .name name => .ok ((w.shownName? name base.sheet).getD name)
  | .errorValue e => .ok (w.locale.errorName e)
  | .unreadable raw _ => .ok raw
  | .cell r => if w.reachesCell base r then w.cell base true r else w.lost
  | .cells r =>
    if w.reachesCell base r.first && w.reachesCell base r.last then area (w.cell base) r
    else w.lost
  | .lines axis r =>
    if w.reaches base axis r.first.position && w.reaches base axis r.last.position then
      area (w.line base axis) r
    else w.lost

/-- How a mark is written. -/
def mark (w : Wording) (base : Cell) : Mark → Except WriteFault Text
  | .space blanks => .ok blanks
  | .atom a => w.atom base a
  | .operator op => .ok op.symbol
  | .percent => .ok ['%']
  | .call function => .ok (w.locale.localName function ++ ['('])
  | .offsetCall => .ok (w.locale.localName offsetName ++ ['('])
  | .colon => .ok [':']
  | .argumentSeparator => .ok [w.locale.argument]
  | .columnSeparator => .ok [w.locale.arrayColumn]
  | .rowSeparator => .ok [w.locale.arrayRow]
  | .openParen => .ok ['(']
  | .closeParen => .ok [')']
  | .openBrace => .ok ['\x7b']
  | .closeBrace => .ok ['\x7d']

/-- How marks are written one after the other. -/
def marks (w : Wording) (base : Cell) : List Mark → Except WriteFault Text
  | [] => .ok []
  | m :: ms => do
    let s ← w.mark base m
    let t ← w.marks base ms
    .ok (s ++ t)

/-- The text of the formula with a tree in the cell `base`. -/
def write (w : Wording) (t : Tree) (base : Cell) : Except WriteFault Text :=
  (w.marks base t.marks).map fun s => '=' :: s

end Wording

end GridFormula
