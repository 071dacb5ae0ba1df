import GridFormula.Edit.Band
import GridFormula.Edit.Relocation

/-!
# Edits and their history

The edits of a workbook are recorded in their order. The version of a history is the number of
edits in it; a formula that was last looked at in an older version is brought up to date by
applying the edits since then, one after the other.
-/

namespace GridFormula

/-- An edit of the workbook that moves or removes cells. -/
inductive Edit where
  /-- Inserts the rows or columns of a band in front of its first line. -/
  | insert (axis : Axis) (b : Band)
  /-- Removes the rows or columns of a band. -/
  | remove (axis : Axis) (b : Band)
  /-- Moves a rectangle of cells, in one way for the formulas inside the rectangle and in one for
  those outside. In an ordinary move the two are the same. -/
  | move (inside outside : Relocation)
  | removeSheet (sheet : SheetId)
deriving DecidableEq, Repr

namespace Edit

/-- The move of a rectangle of cells. -/
def relocate (m : Relocation) : Edit :=
  .move m m

/-- Whether the edit cannot be undone by another edit. -/
def isIrreversible : Edit → Bool
  | insert _ _ => false
  | remove _ _ | move _ _ | removeSheet _ => true

/-- What becomes of formulas when a sheet is removed: what refers to it is lost. A formula on the
sheet is gone with it, so no formula moves. -/
def sheetRemoval (sheet : SheetId) : Rewriting where
  cell r formula := if r.sheet.getD formula.sheet = sheet then .lost else .unchanged
  cells r formula := if r.resolvedSheet formula.sheet = sheet then .lost else .unchanged
  lines _ r formula := if r.resolvedSheet formula.sheet = sheet then .lost else .unchanged
  place c := c

/-- What becomes of formulas. -/
def rewriting : Edit → Rewriting
  | insert axis b => b.insertion axis
  | remove axis b => b.removal axis
  | move inside outside => .within inside.source inside.inside outside.outside
  | removeSheet sheet => sheetRemoval sheet

/-- A formula and its cell after the edit. -/
def apply (e : Edit) (formula : Tree × Cell) : Tree × Cell :=
  (e.rewriting.tree formula.1 formula.2, e.rewriting.place formula.2)

/-- A formula and its cell after edits, made one after the other. -/
def applyAll (edits : List Edit) (formula : Tree × Cell) : Tree × Cell :=
  edits.foldl (fun formula e => e.apply formula) formula

end Edit

/-- The edits of a workbook, the first one first. -/
structure History where
  edits : List Edit
deriving DecidableEq, Repr

namespace History

/-- The history without edits. -/
def empty : History := ⟨[]⟩

/-- The number of edits. -/
def version (h : History) : Nat :=
  h.edits.length

/-- The edits that were recorded after a version. -/
def since (h : History) (version : Nat) : List Edit :=
  h.edits.drop version

/-- Records an edit. -/
def record (h : History) (e : Edit) : History :=
  ⟨h.edits ++ [e]⟩

/-- Brings a formula that was last looked at in a version up to date. -/
def bringUpToDate (h : History) (version : Nat) (formula : Tree × Cell) : Tree × Cell :=
  Edit.applyAll (h.since version) formula

/-- Each edit is a new version. -/
@[simp] theorem version_record (h : History) (e : Edit) :
    (h.record e).version = h.version + 1 := by
  simp [version, record]

/-- An edit that is recorded now is among those since any version reached before. -/
theorem since_record {h : History} {version : Nat} (hv : version ≤ h.version) (e : Edit) :
    (h.record e).since version = h.since version ++ [e] := by
  simp only [since, record]
  exact List.drop_append_of_le_length hv

end History

end GridFormula
