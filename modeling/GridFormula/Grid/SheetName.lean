import GridFormula.Grid.Cell
import GridFormula.Text.Letter
import GridFormula.Text.Numeric

/-!
# Names in formulas

A name starts with a letter or an underscore and goes on with letters, numeric characters,
underscores and full stops. The name of a sheet may be any text; in front of a reference it is put
between single quotes unless it is a name in this sense and cannot be taken for a cell.
-/

namespace GridFormula

/-- Whether a name can start with the character. -/
def startsName (c : Char) : Bool :=
  c = '_' || Text.isLetter c

/-- Whether a name can go on with the character. -/
def continuesName (c : Char) : Bool :=
  c = '_' || c = '.' || Text.isLetter c || Text.isNumeric c

/-- What can start a name can also go on with it. -/
theorem continuesName_of_startsName {c : Char} (h : startsName c = true) :
    continuesName c = true := by
  simp only [startsName, Bool.or_eq_true] at h
  simp only [continuesName, Bool.or_eq_true]
  rcases h with h | h <;> simp [h]

namespace SheetName

/-- The number of columns of an ordinary sheet. -/
def ordinaryColumns : Nat := 16384

/-- Whether the text starts like a cell of an ordinary sheet: with one to three letters that name
a column, and a digit after them. -/
def startsLikeCell (name : Text) : Bool :=
  let letters := name.takeWhile Char.isAlpha
  let digits := (name.dropWhile Char.isAlpha).takeWhile Char.isDigit
  !letters.isEmpty && letters.length ≤ 3 && !digits.isEmpty &&
    ColumnName.value letters ≤ ordinaryColumns

/-- Whether a sheet name has to stand in quotes. -/
def needsQuotes : Text → Bool
  | [] => true
  | c :: s => !(startsName c && s.all continuesName) || startsLikeCell (c :: s)

/-- A sheet name as it is written in front of a reference. -/
def written (name : Text) : Text :=
  if needsQuotes name then Text.quoted '\'' name else name

/-- A name that needs quotes is written with them. -/
theorem written_of_needsQuotes {name : Text} (h : needsQuotes name = true) :
    written name = Text.quoted '\'' name := by
  simp [written, h]

/-- A name that needs no quotes is written as it is. -/
theorem written_of_not_needsQuotes {name : Text} (h : needsQuotes name = false) :
    written name = name := by
  simp [written, h]

end SheetName

/-- The names under which formulas know the sheets of a workbook. -/
structure SheetNames where
  /-- The sheet that a name means. -/
  id? : Text → Option SheetId
  /-- The name that a sheet is written with. -/
  name? : SheetId → Option Text

end GridFormula
