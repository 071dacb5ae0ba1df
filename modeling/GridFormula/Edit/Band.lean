import GridFormula.Edit.Rewriting
import GridFormula.Grid.Band

/-!
# Inserting and removing rows or columns

Rows or columns are inserted in front of the first line of a band, or the lines of a band are
removed. Either way all that lies behind moves along. A coordinate that is absolute follows its
line. One that is relative holds a distance, so it changes by the move of its line less the move of
the formula. All sums are sums of integers here. With sums of 32 bits the edits are in
`GridFormula.Edit.Narrow`, and where both do the same is shown in
`GridFormula.Proofs.Edit.Narrowing`.
-/

namespace GridFormula

/-- Access to one coordinate of a reference. -/
structure Grip (α : Type) where
  coord : α → Coord
  withCoord : α → Coord → α

/-- The coordinate of a cell on an axis. -/
def CellRef.grip (axis : Axis) : Grip CellRef where
  coord r := r.coord axis
  withCoord r := r.withCoord axis

/-- The one coordinate of a line. -/
def LineRef.grip : Grip LineRef where
  coord r := r.position
  withCoord r c := { r with position := c }

namespace Grip

variable {α : Type}

/-- Adds to the stored value of the coordinate. -/
def shift (g : Grip α) (r : α) (n : Int) : α :=
  g.withCoord r ((g.coord r).shift n)

/-- The outcome for a reference when its line moves by `target` and the formula by `formula`. -/
def follow (g : Grip α) (r : α) (target formula : Int) : Outcome α :=
  let n := if (g.coord r).isAbsolute then target else target - formula
  if n = 0 then .unchanged else .shifted (g.shift r n)

end Grip

namespace Band

/-! ## Insertion -/

/-- How far a line moves when the lines of the band are inserted. -/
def insertionShift (b : Band) (sheet : SheetId) (index : Int) : Int :=
  if sheet = b.sheet ∧ b.start ≤ index then b.count else 0

section

variable {α : Type} [Qualified α] (b : Band) (axis : Axis) (g : Grip α)

/-- What an insertion makes of a reference. -/
def insertReference (r : α) (formula : Cell) : Outcome α :=
  g.follow r
    (b.insertionShift (Qualified.resolvedSheet r formula.sheet)
      ((g.coord r).resolve (formula.along axis)))
    (b.insertionShift formula.sheet (formula.along axis))

/-- What an insertion makes of an area: each end follows its line. -/
def insertArea (r : Area α) (formula : Cell) : Outcome (Area α) :=
  match b.insertReference axis g r.first formula, b.insertReference axis g r.last formula with
  | .unchanged, .unchanged => .unchanged
  | first, last => .shifted (r.withEnds (first.getD r.first) (last.getD r.last))

end

/-- What becomes of formulas when the lines of the band are inserted. -/
def insertion (b : Band) (axis : Axis) : Rewriting where
  cell := b.insertReference axis (CellRef.grip axis)
  cells := b.insertArea axis (CellRef.grip axis)
  lines other r formula :=
    if other = axis then b.insertArea axis LineRef.grip r formula else .unchanged
  place c := c.shift axis (b.insertionShift c.sheet (c.along axis))

/-! ## Removal -/

/-- How far a formula moves when the lines of the band are removed. One that stands on a removed
line is gone; it counts as standing behind the band. -/
def removalShift (b : Band) (sheet : SheetId) (index : Int) : Int :=
  if sheet = b.sheet ∧ b.start ≤ index then -b.count else 0

/-- How far a line moves when the lines of the band are removed; a removed line does not move. -/
def survivorShift? (b : Band) (sheet : SheetId) (index : Int) : Option Int :=
  if sheet ≠ b.sheet ∨ index < b.start then some 0
  else if b.last < index then some (-b.count)
  else none

section

variable {α : Type} [Qualified α] (b : Band) (axis : Axis) (g : Grip α)

/-- What a removal makes of a reference. -/
def removeReference (r : α) (formula : Cell) : Outcome α :=
  match b.survivorShift? (Qualified.resolvedSheet r formula.sheet)
      ((g.coord r).resolve (formula.along axis)) with
  | some target => g.follow r target (b.removalShift formula.sheet (formula.along axis))
  | none => .lost

/-- The first end of an area; if its line is removed, the one on the first line behind the band. -/
def clippedFirst (r : α) (origin : Int) : α :=
  let index := (g.coord r).resolve origin
  if index ∈ b then g.shift r (b.last + 1 - index) else r

/-- The last end of an area; if its line is removed, the one on the last line before the band. -/
def clippedLast (r : α) (origin : Int) : α :=
  let index := (g.coord r).resolve origin
  if index ∈ b then g.shift r (b.start - 1 - index) else r

/-- What a removal makes of an area that keeps a line: the ends given are on lines that stay, and
`isClipped` says whether they are other ends than before. -/
def removeClipped (r : Area α) (first last : α) (isClipped : Bool) (formula : Cell) :
    Outcome (Area α) :=
  match b.removeReference axis g first formula, b.removeReference axis g last formula with
  | .lost, _ | _, .lost => .lost
  | .unchanged, .unchanged =>
    if isClipped then .shifted (r.withEnds first last) else .unchanged
  | newFirst, newLast => .shifted (r.withEnds (newFirst.getD first) (newLast.getD last))

/-- What a removal makes of an area: it shrinks to the lines that stay, and is lost if there are
none. -/
def removeArea (r : Area α) (formula : Cell) : Outcome (Area α) :=
  let origin := formula.along axis
  let first := (g.coord r.first).resolve origin
  let last := (g.coord r.last).resolve origin
  if r.resolvedSheet formula.sheet ≠ b.sheet then
    b.removeClipped axis g r r.first r.last false formula
  else if b.start ≤ first ∧ last ≤ b.last then .lost
  else
    b.removeClipped axis g r (b.clippedFirst g r.first origin) (b.clippedLast g r.last origin)
      (first ∈ b || last ∈ b) formula

end

/-- What becomes of formulas when the lines of the band are removed. -/
def removal (b : Band) (axis : Axis) : Rewriting where
  cell := b.removeReference axis (CellRef.grip axis)
  cells := b.removeArea axis (CellRef.grip axis)
  lines other r formula :=
    if other = axis then b.removeArea axis LineRef.grip r formula else .unchanged
  place c := c.shift axis (b.removalShift c.sheet (c.along axis))

end Band

end GridFormula
