import GridFormula.Grid.Cell

/-!
# Rectangles of cells

A rectangle is given by two corners and holds the cells between them, both corners included. The
sheet is that of the first corner.
-/

namespace GridFormula

/-- A rectangle of cells, from its first corner to its last one. -/
structure Rect where
  first : Cell
  last : Cell
deriving DecidableEq, Repr

namespace Rect

/-- The rectangle spanned by any two opposite corners, on the sheet of `a`. -/
def spanned (a b : Cell) : Rect where
  first := ⟨a.sheet, min a.column b.column, min a.row b.row⟩
  last := ⟨a.sheet, max a.column b.column, max a.row b.row⟩

/-- The sheet that the rectangle lies on. -/
def sheet (r : Rect) : SheetId :=
  r.first.sheet

/-- The number of columns. -/
def width (r : Rect) : Int :=
  r.last.column - r.first.column + 1

/-- The number of rows. -/
def height (r : Rect) : Int :=
  r.last.row - r.first.row + 1

/-- A cell lies in the rectangle if it is on its sheet and between its corners both ways. -/
instance : Membership Cell Rect where
  mem r c :=
    c.sheet = r.first.sheet ∧ r.first.row ≤ c.row ∧ c.row ≤ r.last.row ∧
      r.first.column ≤ c.column ∧ c.column ≤ r.last.column

/-- The cells of a rectangle are those of its sheet between its corners. -/
theorem mem_iff {r : Rect} {c : Cell} :
    c ∈ r ↔ c.sheet = r.first.sheet ∧ r.first.row ≤ c.row ∧ c.row ≤ r.last.row ∧
      r.first.column ≤ c.column ∧ c.column ≤ r.last.column :=
  Iff.rfl

instance (c : Cell) (r : Rect) : Decidable (c ∈ r) :=
  inferInstanceAs (Decidable (_ ∧ _))

/-- The cell at a place in the rectangle, where the cells are counted from zero row by row. -/
def cellAt? (r : Rect) (i : Nat) : Option Cell :=
  let across := r.width.toNat
  if i < across * r.height.toNat then
    some ⟨r.sheet, r.first.column + (i % across : Nat), r.first.row + (i / across : Nat)⟩
  else none

/-- The first `n` cells of the rectangle, row by row, or all of them if there are fewer. -/
def firstCells (r : Rect) (n : Nat) : List Cell :=
  (List.range n).filterMap r.cellAt?

/-- Every cell that is counted lies in the rectangle. -/
theorem mem_of_cellAt? {r : Rect} {i : Nat} {c : Cell} (h : r.cellAt? i = some c) : c ∈ r := by
  simp only [cellAt?] at h
  split at h
  · next hi =>
    have hw : 0 < r.width.toNat := by
      rcases Nat.eq_zero_or_pos r.width.toNat with hz | hz
      · simp [hz] at hi
      · exact hz
    have hc := Nat.mod_lt i hw
    have hr := Nat.div_lt_of_lt_mul hi
    generalize i % r.width.toNat = across at *
    generalize i / r.width.toNat = down at *
    cases h
    simp only [mem_iff, sheet, width, height] at *
    refine ⟨trivial, ?_, ?_, ?_, ?_⟩ <;> omega
  · simp at h

end Rect

end GridFormula
