import GridFormula.Formula.Mark

/-!
# Rewriting the references of a formula

An edit of the workbook moves cells, and formulas have to be rewritten so that they go on meaning
what they meant. For a formula in a given cell, a rewriting says what becomes of each reference,
and of the cell itself. A reference whose cells are gone becomes an error value; all else in the
formula stays as it is.
-/

namespace GridFormula

/-- What becomes of a reference. -/
inductive Outcome (α : Type) where
  /-- It stays as it is. -/
  | unchanged
  /-- It has to be written like this from now on. -/
  | shifted (a : α)
  /-- What it meant is gone. -/
  | lost
deriving DecidableEq, Repr

namespace Outcome

variable {α β : Type}

/-- The outcome for what contains the reference. -/
def map (f : α → β) : Outcome α → Outcome β
  | unchanged => .unchanged
  | shifted a => .shifted (f a)
  | lost => .lost

/-- The reference after the edit, where `a` was there before and also stands for a lost one. -/
def getD (o : Outcome α) (a : α) : α :=
  match o with
  | shifted b => b
  | unchanged | lost => a

/-- The outcome for `old` when `new` takes its place. -/
def ofNew [DecidableEq α] (old new : α) : Outcome α :=
  if old = new then .unchanged else .shifted new

/-- A new reference takes the place of the old one, also where they are equal. -/
theorem getD_ofNew [DecidableEq α] (old new : α) : (ofNew old new).getD old = new := by
  unfold ofNew
  split
  · next h => exact h
  · rfl

end Outcome

/-- What becomes of the references of a formula, given the cell that it stands in before the edit,
and of that cell. -/
structure Rewriting where
  cell : CellRef → Cell → Outcome CellRef
  cells : Area CellRef → Cell → Outcome (Area CellRef)
  lines : Axis → Area LineRef → Cell → Outcome (Area LineRef)
  place : Cell → Cell

namespace Rewriting

/-- What becomes of an atom. -/
def atom (w : Rewriting) (formula : Cell) : Atom → Outcome Atom
  | .cell r => (w.cell r formula).map .cell
  | .cells r => (w.cells r formula).map .cells
  | .lines axis r => (w.lines axis r formula).map (.lines axis)
  | _ => .unchanged

/-- The atom after the edit. -/
def newAtom (w : Rewriting) (formula : Cell) (a : Atom) : Atom :=
  match w.atom formula a with
  | .unchanged => a
  | .shifted b => b
  | .lost => .errorValue .lostReference

/-- The tree after the edit. -/
def tree (w : Rewriting) (t : Tree) (formula : Cell) : Tree :=
  t.mapAtoms (w.newAtom formula)

/-- Whether the edit affects a reference of the tree. -/
def affects (w : Rewriting) (t : Tree) (formula : Cell) : Bool :=
  t.atoms.any fun a => w.atom formula a ≠ .unchanged

end Rewriting

end GridFormula
