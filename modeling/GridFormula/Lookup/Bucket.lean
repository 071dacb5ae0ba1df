import GridFormula.Edit.History
import GridFormula.Grid.Narrow
import GridFormula.Lookup.Bound

/-!
# Buckets of rows

A bucket holds the rows in which a key stands. Its list is looked through by halving only: a row is
put in or taken out at the place that halving finds, and an edit of the sheet cuts the list at such
places and moves what lies behind the cut. Rows are kept in 32 bits. They ascend, without
repetition, as long as the band of every edit holds a line and no row needs more; a band without
lines, or with less than none, or a row that is cut down can leave rows out of order, and then a row
counts as present only where halving comes upon it.
-/

namespace GridFormula

/-- The rows in which a key stands, as they were in a version of the history. -/
structure Bucket where
  version : Nat
  rows : List Int
deriving DecidableEq, Repr

namespace Bucket

/-! ## Single rows -/

/-- Where a row stands. -/
def placeOf? (row : Int) (rows : List Int) : Option Nat :=
  (lowerBound? rows row).filter fun n => rows[n]? = some row

/-- Puts a row behind those up to it, unless it stands there already. -/
def insertRow (row : Int) (rows : List Int) : List Int :=
  match placeOf? row rows with
  | some _ => rows
  | none => rows.insertIdx (partitionLength (fun r => r ≤ row) rows) row

/-- Takes a row out. -/
def eraseRow (row : Int) (rows : List Int) : List Int :=
  match placeOf? row rows with
  | some n => rows.eraseIdx n
  | none => rows

/-! ## Edits of the sheet -/

/-- The rows after the rows of a band were inserted: those from its first line on move down. -/
def rowsAfterInsertion (b : Band) (rows : List Int) : List Int :=
  let cut := upperBound rows b.start
  rows.take cut ++ (rows.drop cut).map fun row => narrowed (row + b.count)

/-- The rows after the rows of a band were removed: those of the band are gone, and those behind it
move up. There is no answer if the rows to be taken out end before they begin; the index cannot be
used any more then. -/
def rowsAfterRemoval? (b : Band) (rows : List Int) : Option (List Int) :=
  let first := upperBound rows b.start
  let behind := upperBound rows (narrowed (b.narrowLast + 1))
  if first ≤ behind then
    some (rows.take first ++ (rows.drop behind).map fun row => narrowed (row - b.count))
  else none

/-- The rows of a sheet after an edit. -/
def rowsAfter? (sheet : SheetId) (rows : List Int) : Edit → Option (List Int)
  | .insert .row b => some (if b.sheet = sheet then rowsAfterInsertion b rows else rows)
  | .remove .row b => if b.sheet = sheet then rowsAfterRemoval? b rows else some rows
  | _ => some rows

/-- The bucket of a sheet as it is now. -/
def caughtUp? (b : Bucket) (sheet : SheetId) (h : History) : Option Bucket :=
  if h.version ≤ b.version then some b
  else ((h.since b.version).foldlM (rowsAfter? sheet) b.rows).map fun rows => ⟨h.version, rows⟩

end Bucket

end GridFormula
