import GridFormula.Reference.Basic
import GridFormula.Grid.Rect

/-!
# References to areas

An area runs from one reference to another: a rectangle of cells, or a run of whole rows or
columns. The sheet may be written in front of neither end, of the first or of both. In an area
built from two references either both ends name a sheet or none does.
-/

namespace GridFormula

/-- Which ends of an area are written with a sheet. -/
inductive Qualification where
  | neither
  | first
  | both
deriving DecidableEq, Repr

/-- A reference to all that lies from one end to the other. -/
@[ext] structure Area (α : Type) where
  first : α
  last : α
  qualification : Qualification
deriving DecidableEq, Repr

/-- Why two references cannot be the ends of an area. -/
inductive Area.Fault where
  /-- One end names a sheet and the other does not. -/
  | mixedSheets
deriving DecidableEq, Repr

/-- The text that reports two ends that do not fit. -/
def Area.Fault.message : Area.Fault → Text
  | .mixedSheets =>
    "range ends must both be sheet-qualified or both be unqualified".toList

namespace Area

variable {α : Type}

/-- The area itself, if both of its ends name a sheet or none does. -/
def checked [Qualified α] (r : Area α) : Except Area.Fault (Area α) :=
  if (Qualified.sheet r.first).isSome = (Qualified.sheet r.last).isSome then .ok r
  else .error .mixedSheets

/-- The sheet that the first end names. -/
def sheet [Qualified α] (r : Area α) : Option SheetId :=
  Qualified.sheet r.first

/-- The sheet that the area means in a formula on the sheet `home`. -/
def resolvedSheet [Qualified α] (r : Area α) (home : SheetId) : SheetId :=
  r.sheet.getD home

/-- The same area with other ends. -/
def withEnds (r : Area α) (first last : α) : Area α :=
  { r with first, last }

/-- Changes both ends. -/
def map (f : α → α) (r : Area α) : Area α :=
  { r with first := f r.first, last := f r.last }

/-- Puts both ends on a sheet. An area that gains a sheet has it written in front of its first end;
one that loses it has none written. -/
def onSheet [Qualified α] (r : Area α) (sheet : Option SheetId) : Area α where
  first := Qualified.onSheet r.first sheet
  last := Qualified.onSheet r.last sheet
  qualification :=
    match sheet, r.qualification with
    | none, _ => .neither
    | some _, .neither => .first
    | some _, q => q

/-! ## Ends in order -/

/-- Two values in the order of their keys; equal keys leave them as they are. -/
def inOrder {β : Type} (key : β → Int) (a b : β) : β × β :=
  if key b < key a then (b, a) else (a, b)

/-- Two sheets in order: a sheet that is named comes before one that is not, and smaller numbers
come first. -/
def sheetsInOrder : Option SheetId → Option SheetId → Option SheetId × Option SheetId
  | none, some b => (some b, none)
  | some a, some b => if b < a then (some b, some a) else (some a, some b)
  | a, b => (a, b)

/-- The area between two cells with its first end above and left of its last one, as seen from
`base`. Columns, rows and sheets are put in order one by one, so a `$` stays with its coordinate. -/
def ofCells (a b : CellRef) (q : Qualification) (base : Cell) : Area CellRef :=
  let columns := inOrder (fun c : Coord => c.resolve base.column) a.column b.column
  let rows := inOrder (fun c : Coord => c.resolve base.row) a.row b.row
  let sheets := sheetsInOrder a.sheet b.sheet
  ⟨⟨columns.1, rows.1, sheets.1⟩, ⟨columns.2, rows.2, sheets.2⟩, q⟩

/-- The area between two lines of one axis, in the order they have as seen from `base`. -/
def ofLines (axis : Axis) (a b : LineRef) (q : Qualification) (base : Cell) : Area LineRef :=
  let positions :=
    inOrder (fun c : Coord => c.resolve (base.along axis)) a.position b.position
  let sheets := sheetsInOrder a.sheet b.sheet
  ⟨⟨positions.1, sheets.1⟩, ⟨positions.2, sheets.2⟩, q⟩

/-! ## What an area means -/

/-- The rectangle that an area of cells means in a formula at `base`. -/
def rect (r : Area CellRef) (base : Cell) : Rect :=
  .spanned (r.first.resolve base) (r.last.resolve base)

/-- The number of lines that an area of lines means in a formula at `base`. -/
def extent (r : Area LineRef) (axis : Axis) (base : Cell) : Int :=
  (r.last.resolve axis base).index - (r.first.resolve axis base).index + 1

end Area

end GridFormula
