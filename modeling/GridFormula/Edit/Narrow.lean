import GridFormula.Edit.History
import GridFormula.Grid.Narrow

/-!
# Edits in 32 bits

A formula is rewritten with numbers of 32 bits. Every sum that is formed on the way is cut down to
them: the line that a reference means, the last line of a removed band, the new stored value, and
the new place of the formula. What is decided on the way is decided from these numbers. As long as
no number needs more than 32 bits, all is as in the rewriting with integers; a band that reaches
behind the last number of 32 bits is taken to end before it starts.
-/

namespace GridFormula

/-! ## References -/

/-- The coordinate with its stored value cut down to 32 bits. -/
def Coord.narrow (c : Coord) : Coord :=
  { c with value := narrowed c.value }

/-- The reference with both stored values cut down to 32 bits. -/
def CellRef.narrow (r : CellRef) : CellRef :=
  { r with column := r.column.narrow, row := r.row.narrow }

/-- The reference with its stored value cut down to 32 bits. -/
def LineRef.narrow (r : LineRef) : LineRef :=
  { r with position := r.position.narrow }

namespace Grip

variable {α : Type}

/-- The reference with the stored value of the coordinate cut down to 32 bits. -/
def narrow (g : Grip α) (r : α) : α :=
  g.withCoord r (g.coord r).narrow

/-- The index, in 32 bits, of the line that the reference means in a formula at index `origin`. -/
def narrowIndex (g : Grip α) (r : α) (origin : Int) : Int :=
  narrowed ((g.coord r).resolve origin)

/-- The outcome for a reference when its line moves by `target` and the formula by `formula`. -/
def narrowFollow (g : Grip α) (r : α) (target formula : Int) : Outcome α :=
  (g.follow r target formula).map g.narrow

end Grip

/-! ## Bands -/

namespace Band

section

variable {α : Type} [Qualified α] (b : Band) (axis : Axis) (g : Grip α)

/-- What an insertion makes of a reference. -/
def narrowInsertReference (r : α) (formula : Cell) : Outcome α :=
  g.narrowFollow r
    (b.insertionShift (Qualified.resolvedSheet r formula.sheet)
      (g.narrowIndex r (formula.along axis)))
    (b.insertionShift formula.sheet (formula.along axis))

/-- What an insertion makes of an area: each end follows its line. -/
def narrowInsertArea (r : Area α) (formula : Cell) : Outcome (Area α) :=
  match b.narrowInsertReference axis g r.first formula,
    b.narrowInsertReference axis g r.last formula with
  | .unchanged, .unchanged => .unchanged
  | first, last => .shifted (r.withEnds (first.getD r.first) (last.getD r.last))

/-- How far a line moves when the lines of the band are removed; a removed line does not move. -/
def narrowSurvivorShift? (sheet : SheetId) (index : Int) : Option Int :=
  if sheet ≠ b.sheet ∨ index < b.start then some 0
  else if b.narrowLast < index then some (-b.count)
  else none

/-- What a removal makes of a reference. -/
def narrowRemoveReference (r : α) (formula : Cell) : Outcome α :=
  match b.narrowSurvivorShift? (Qualified.resolvedSheet r formula.sheet)
      (g.narrowIndex r (formula.along axis)) with
  | some target => g.narrowFollow r target (b.removalShift formula.sheet (formula.along axis))
  | none => .lost

/-- Whether a line lies between the start and the last line of the band. -/
def narrowCovers (index : Int) : Bool :=
  b.start ≤ index && index ≤ b.narrowLast

/-- The first end of an area; if its line is removed, the one on the first line behind the band. -/
def narrowClippedFirst (r : α) (origin : Int) : α :=
  let index := g.narrowIndex r origin
  if b.narrowCovers index then g.narrow (g.shift r (b.narrowLast + 1 - index)) else r

/-- The last end of an area; if its line is removed, the one on the last line before the band. -/
def narrowClippedLast (r : α) (origin : Int) : α :=
  let index := g.narrowIndex r origin
  if b.narrowCovers index then g.narrow (g.shift r (b.start - 1 - index)) else r

/-- What a removal makes of an area that keeps a line: the ends given are on lines that stay, and
`isClipped` says whether they are other ends than before. -/
def narrowRemoveClipped (r : Area α) (first last : α) (isClipped : Bool) (formula : Cell) :
    Outcome (Area α) :=
  match b.narrowRemoveReference axis g first formula,
    b.narrowRemoveReference axis g last formula with
  | .lost, _ | _, .lost => .lost
  | .unchanged, .unchanged =>
    if isClipped then .shifted (r.withEnds first last) else .unchanged
  | newFirst, newLast => .shifted (r.withEnds (newFirst.getD first) (newLast.getD last))

/-- What a removal makes of an area: it shrinks to the lines that stay, and is lost if there are
none. -/
def narrowRemoveArea (r : Area α) (formula : Cell) : Outcome (Area α) :=
  let origin := formula.along axis
  let first := g.narrowIndex r.first origin
  let last := g.narrowIndex r.last origin
  if r.resolvedSheet formula.sheet ≠ b.sheet then
    b.narrowRemoveClipped axis g r r.first r.last false formula
  else if b.start ≤ first ∧ last ≤ b.narrowLast then .lost
  else
    b.narrowRemoveClipped axis g r (b.narrowClippedFirst g r.first origin)
      (b.narrowClippedLast g r.last origin) (b.narrowCovers first || b.narrowCovers last) formula

end

/-- What becomes of formulas when the lines of the band are inserted. -/
def narrowInsertion (b : Band) (axis : Axis) : Rewriting where
  cell := b.narrowInsertReference axis (CellRef.grip axis)
  cells := b.narrowInsertArea axis (CellRef.grip axis)
  lines other r formula :=
    if other = axis then b.narrowInsertArea axis LineRef.grip r formula else .unchanged
  place c := ((b.insertion axis).place c).narrow

/-- What becomes of formulas when the lines of the band are removed. -/
def narrowRemoval (b : Band) (axis : Axis) : Rewriting where
  cell := b.narrowRemoveReference axis (CellRef.grip axis)
  cells := b.narrowRemoveArea axis (CellRef.grip axis)
  lines other r formula :=
    if other = axis then b.narrowRemoveArea axis LineRef.grip r formula else .unchanged
  place c := ((b.removal axis).place c).narrow

end Band

/-! ## Moved rectangles -/

namespace Relocation

/-- Whether a reference means a cell that moves. -/
def narrowMoves (m : Relocation) (r : CellRef) (formula : Cell) : Bool :=
  (r.resolve formula).narrow ∈ m.source

/-- Whether both ends of an area mean cells that move. -/
def narrowMovesArea (m : Relocation) (r : Area CellRef) (formula : Cell) : Bool :=
  m.narrowMoves r.first formula && m.narrowMoves r.last formula

/-- What becomes of formulas outside the rectangle. -/
def narrowOutside (m : Relocation) : Rewriting where
  cell r formula :=
    if m.narrowMoves r formula then .ofNew r (m.followed r formula).narrow else .unchanged
  cells r formula :=
    if m.narrowMovesArea r formula then .ofNew r ((m.followedArea r formula).map CellRef.narrow)
    else .unchanged
  lines _ _ _ := .unchanged
  place c := c

/-- What becomes of formulas inside the rectangle. -/
def narrowInside (m : Relocation) : Rewriting where
  cell r formula :=
    .ofNew r (if m.narrowMoves r formula then m.carried r else m.left r).narrow
  cells r formula :=
    .ofNew r <| Area.map CellRef.narrow
      (if m.narrowMovesArea r formula then m.carriedArea r else m.leftArea r)
  lines axis r _ := .ofNew r ((m.leftLines axis r).map LineRef.narrow)
  place c := (c.moved m.toSheet m.right m.down).narrow

end Relocation

/-! ## Edits -/

namespace Edit

/-- What becomes of formulas. -/
def narrowRewriting : Edit → Rewriting
  | insert axis b => b.narrowInsertion axis
  | remove axis b => b.narrowRemoval axis
  | move inside outside => .within inside.source inside.narrowInside outside.narrowOutside
  | removeSheet sheet => sheetRemoval sheet

/-- A formula and its cell after the edit. -/
def narrowApply (e : Edit) (formula : Tree × Cell) : Tree × Cell :=
  (e.narrowRewriting.tree formula.1 formula.2, e.narrowRewriting.place formula.2)

/-- A formula and its cell after edits, made one after the other. -/
def narrowApplyAll (edits : List Edit) (formula : Tree × Cell) : Tree × Cell :=
  edits.foldl (fun formula e => e.narrowApply formula) formula

end Edit

/-- Brings a formula that was last looked at in a version up to date. -/
def History.narrowBringUpToDate (h : History) (version : Nat) (formula : Tree × Cell) :
    Tree × Cell :=
  Edit.narrowApplyAll (h.since version) formula

end GridFormula
