import GridFormula.Grid.Cell

/-!
# Defined names

A workbook defines names for its formulas, some for all sheets and some for a single one. In a
formula a name may be written in any case; it is shown as it was defined. A definition for the
sheet of the formula comes before one for all sheets.
-/

namespace GridFormula

/-- A name that the workbook defines. -/
structure DefinedName where
  name : Text
  /-- The sheet that the name is defined for; without one, it is defined for all. -/
  scope : Option SheetId
  /-- How the name is shown. -/
  display : Text
deriving DecidableEq, Repr

namespace DefinedName

/-- The first definition of a name with the given scope. -/
def inScope? (names : List DefinedName) (name : Text) (scope : Option SheetId) :
    Option DefinedName :=
  names.find? fun d => d.scope = scope && Text.sameLetters d.name name

/-- How a name is shown in a formula on a sheet, if it is defined there. -/
def shown? (names : List DefinedName) (name : Text) (sheet : SheetId) : Option Text :=
  ((inScope? names name (some sheet)).or (inScope? names name none)).map DefinedName.display

end DefinedName

end GridFormula
