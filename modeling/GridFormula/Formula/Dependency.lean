import GridFormula.Formula.Mark

/-!
# What a formula depends on

A formula depends on the cells, areas, lines and names that it refers to, each as often as it
does and in the order of the text. As they stand in the tree they are relative; seen from the
formula's cell they are cells and areas of the workbook, unless they leave the grid.
-/

namespace GridFormula

/-- Something that a formula refers to. -/
inductive Dependency where
  | cell (r : CellRef)
  | cells (r : Area CellRef)
  | lines (axis : Axis) (r : Area LineRef)
  | name (name : Text)
deriving DecidableEq, Repr

/-- Something of the workbook that a formula in a given cell refers to. -/
inductive Precedent where
  | cell (c : Cell)
  | cells (r : Rect)
  | lines (axis : Axis) (sheet : SheetId) (first last : Int)
  | name (name : Text)
deriving DecidableEq, Repr

/-- What the atom refers to. -/
def Atom.dependency? : Atom → Option Dependency
  | cell r => some (.cell r)
  | cells r => some (.cells r)
  | lines axis r => some (.lines axis r)
  | .name n => some (.name n)
  | _ => none

/-- What a tree depends on, in the order of the text and with repetitions. -/
def Tree.dependencies (t : Tree) : List Dependency :=
  t.atoms.filterMap Atom.dependency?

/-- What a dependency means in the cell `base`, unless it leaves the grid there. -/
def Dependency.resolve? (d : Dependency) (base : Cell) : Option Precedent :=
  match d with
  | cell r =>
    let c := r.resolve base
    if c.isOffGrid then none else some (.cell c)
  | cells r =>
    let first := r.first.resolve base
    let last := r.last.resolve base
    if first.isOffGrid || last.isOffGrid then none else some (.cells (.spanned first last))
  | lines axis r =>
    let first := r.first.resolve axis base
    let last := r.last.resolve axis base
    if first.isOffGrid || last.isOffGrid then none
    else some (.lines axis first.sheet first.index last.index)
  | .name n => some (.name n)

end GridFormula
