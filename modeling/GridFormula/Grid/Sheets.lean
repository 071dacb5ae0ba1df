import GridFormula.Grid.SheetName
import GridFormula.Table
import GridFormula.Text.Normal
import GridFormula.Text.Upper

/-!
# The sheets of a workbook

Sheets are numbered in the order in which they are added; the number of a removed sheet is not
given again. Two names mean the same sheet if they fold to the same text, so the workbook keeps,
beside the names, a table from the folded names to the sheets.
-/

namespace GridFormula

/-- The text by which sheet names are compared: compatible characters are made one and the same,
and letters are put in upper case. -/
def SheetName.folded (name : Text) : Text :=
  (Text.composedCompatibility name).flatMap Text.upperForm

/-- The sheets of a workbook whose names are compared after folding. -/
structure Sheets (fold : Text → Text) where
  /-- The name of each sheet, or nothing where a sheet was removed. -/
  names : List (Option Text)
  /-- The sheet of each folded name. -/
  keys : Table Text SheetId

namespace Sheets

variable {fold : Text → Text}

/-- A workbook without sheets. -/
def empty : Sheets fold := ⟨[], .empty⟩

/-- The sheet that a name means. -/
def id? (s : Sheets fold) (name : Text) : Option SheetId :=
  s.keys.get? (fold name)

/-- The name of a sheet. -/
def name? (s : Sheets fold) (id : SheetId) : Option Text :=
  s.names[id]?.join

/-- The names under which formulas know the sheets. -/
def directory (s : Sheets fold) : SheetNames :=
  ⟨s.id?, s.name?⟩

/-- The number of sheets. -/
def size (s : Sheets fold) : Nat :=
  s.keys.size

/-- Adds a sheet, unless the name means one already. Gives the sheet that the name then means. -/
def add (s : Sheets fold) (name : Text) : SheetId × Sheets fold :=
  match s.id? name with
  | some id => (id, s)
  | none =>
    let id := s.names.length
    (id, ⟨s.names ++ [some name], s.keys.insert (fold name) id⟩)

/-- The sheets with the given names. -/
def ofNames (names : List Text) : Sheets fold :=
  names.foldl (fun s name => (s.add name).2) empty

/-- Removes a sheet; there is no answer if it does not exist. -/
def remove? (s : Sheets fold) (id : SheetId) : Option (Text × Sheets fold) :=
  (s.name? id).map fun name => (name, ⟨s.names.set id none, s.keys.erase (fold name)⟩)

/-- Gives a sheet another name; there is no answer if it does not exist or if the name means another
sheet. -/
def rename? (s : Sheets fold) (id : SheetId) (name : Text) : Option (Sheets fold) :=
  match s.name? id with
  | none => none
  | some old =>
    if (s.id? name).any fun other => other ≠ id then none
    else some ⟨s.names.set id (some name), (s.keys.erase (fold old)).insert (fold name) id⟩

end Sheets

end GridFormula
