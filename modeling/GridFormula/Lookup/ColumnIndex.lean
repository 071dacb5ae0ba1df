import GridFormula.Edit.Narrow
import GridFormula.Lookup.Bucket
import GridFormula.Lookup.Search
import GridFormula.Table

/-!
# The index of columns

The index knows for each column in which rows a key stands. The rows of one key in one column make
a bucket. When rows are inserted or removed the buckets are left as they are: each remembers the
version of the history that its rows belong to, and replays what has happened since then when it
is touched next. Inserting and removing columns renumbers them at once. What touches a bucket has no
answer if the rows of a removed band cannot be taken out of it.
-/

namespace GridFormula

/-- A key in a column. -/
structure Slot where
  sheet : SheetId
  column : Int
  key : LookupKey
deriving DecidableEq, Repr

/-- A value that takes the place of another one in a cell. -/
structure ValueChange where
  cell : Cell
  old : Value
  new : Value
deriving DecidableEq, Repr

/-- An index of values by their columns and keys, where texts are folded. -/
structure ColumnIndex (fold : Text → Text) where
  buckets : Table Slot Bucket
deriving DecidableEq, Repr

namespace ColumnIndex

variable {fold : Text → Text}

/-- The index of no values. -/
def empty : ColumnIndex fold := ⟨.empty⟩

/-- The slot of a value in a column, if it has a key. -/
def slot? (fold : Text → Text) (value : Value) (sheet : SheetId) (column : Int) : Option Slot :=
  (value.key? fold).map fun key => ⟨sheet, column, key⟩

/-- Stores a bucket; one without rows is taken out. -/
def store (i : ColumnIndex fold) (slot : Slot) (b : Bucket) : ColumnIndex fold :=
  { i with
    buckets := if b.rows = [] then i.buckets.erase slot else i.buckets.insert slot b }

/-- The rows of a slot as they are now; the bucket is brought up to date. -/
def touch? (i : ColumnIndex fold) (slot : Slot) (h : History) :
    Option (List Int × ColumnIndex fold) :=
  match i.buckets.get? slot with
  | none => some ([], i)
  | some b => (b.caughtUp? slot.sheet h).map fun b => (b.rows, i.store slot b)

/-! ## Values of cells -/

/-- Adds the value of a cell. -/
def add? (i : ColumnIndex fold) (value : Value) (cell : Cell) (h : History) :
    Option (ColumnIndex fold) :=
  match slot? fold value cell.sheet cell.column with
  | none => some i
  | some slot =>
    if cell.column < 0 then some i
    else do
      let (rows, i) ← i.touch? slot h
      return i.store slot ⟨h.version, Bucket.insertRow cell.row rows⟩

/-- Removes the value of a cell. -/
def remove? (i : ColumnIndex fold) (value : Value) (cell : Cell) (h : History) :
    Option (ColumnIndex fold) :=
  match slot? fold value cell.sheet cell.column with
  | none => some i
  | some slot => do
    let (rows, i) ← i.touch? slot h
    return i.store slot ⟨h.version, Bucket.eraseRow cell.row rows⟩

/-- Replaces the value of a cell. -/
def change? (i : ColumnIndex fold) (old new : Value) (cell : Cell) (h : History) :
    Option (ColumnIndex fold) :=
  if old.key? fold = new.key? fold then some i
  else do
    let i ← i.remove? old cell h
    i.add? new cell h

/-- Replaces the values of cells, one after the other. -/
def changeAll? (i : ColumnIndex fold) (changes : List ValueChange) (h : History) :
    Option (ColumnIndex fold) :=
  changes.foldlM (fun i c => i.change? c.old c.new c.cell h) i

/-- Removes the values of cells. -/
def removeAll? (i : ColumnIndex fold) (values : List (Value × Cell)) (h : History) :
    Option (ColumnIndex fold) :=
  values.foldlM (fun i (value, cell) => i.remove? value cell h) i

/-- Moves the values of cells. All are removed before the first one is added again, so that the
cells may move onto each other's places. -/
def moveAll? (i : ColumnIndex fold) (values : List (Value × Cell)) (right down : Int)
    (toSheet : SheetId) (h : History) : Option (ColumnIndex fold) := do
  let i ← i.removeAll? values h
  values.foldlM (fun i (value, cell) => i.add? value (cell.moved toSheet right down).narrow h) i

/-! ## Columns and sheets -/

/-- Inserts empty columns. -/
def insertColumns (i : ColumnIndex fold) (b : Band) : ColumnIndex fold :=
  { i with
    buckets := i.buckets.rekey fun s =>
      some { s with column := s.column + b.insertionShift s.sheet s.column } }

/-- Removes columns with all that stands in them. Nothing is done if the last one, cut down to 32
bits, comes before the first column. -/
def removeColumns (i : ColumnIndex fold) (b : Band) : ColumnIndex fold :=
  if b.narrowLast < 0 then i
  else
    { i with
      buckets := i.buckets.rekey fun s =>
        (b.narrowSurvivorShift? s.sheet s.column).map fun n =>
          { s with column := s.column + n } }

/-- Removes a sheet with all that stands on it. -/
def removeSheet (i : ColumnIndex fold) (sheet : SheetId) : ColumnIndex fold :=
  { i with buckets := i.buckets.rekey fun s => if s.sheet = sheet then none else some s }

/-! ## Lookup -/

/-- The rows of a column in which a value stands. -/
def rows? (i : ColumnIndex fold) (value : Value) (sheet : SheetId) (column : Int) (h : History) :
    Option (List Int × ColumnIndex fold) :=
  match slot? fold value sheet column with
  | none => some ([], i)
  | some slot => i.touch? slot h

/-- The row found of those between `first` and `last`. The first row from `first` on and the last
one up to `last` are found by halving; the other bound is checked afterwards. -/
def rowBetween? (rows : List Int) (first last : Int) (o : Occurrence) : Option Int :=
  match o with
  | .first => rows[upperBound rows first]?.filter fun row => row ≤ last
  | .last => ((lowerBound? rows last).bind fun n => rows[n]?).filter fun row => first ≤ row

/-- The place of a value in a range of cells with the given values. The index answers if the range
is a single column and the value stands in it; otherwise the fallback searches the values. If rows
out of order lead to one before the range, or the range is so long that the place needs more than 32
bits, no place is found. -/
def find? (i : ColumnIndex fold) (value : Value) (range : Option Rect) (values : List Value)
    (options : SearchOptions) (h : History) (fallback : Search) :
    Option (Option Nat × ColumnIndex fold) :=
  let searched := fallback value values options
  match range with
  | none => some (searched, i)
  | some range =>
    if options.preferSorted || range.width ≠ 1 then some (searched, i)
    else do
      let (rows, i) ← i.rows? value range.sheet range.first.column h
      match rowBetween? rows range.first.row range.last.row options.occurrence with
      | some row => return ((narrowed (row - range.first.row)).toNat?, i)
      | none => return (searched, i)

end ColumnIndex

end GridFormula
