import GridFormula.Value.ErrorValue
import GridFormula.Grid.Cell
import GridFormula.Text.Blank
import GridFormula.Text.Upper

/-!
# Locales

A locale says how formulas are written: which characters separate, how functions and error values
are called, which blanks may stand between the parts, and how large a sheet is. Functions have a
canonical name that is the same in every locale; a function without an entry in the table goes by
its canonical name everywhere.
-/

namespace GridFormula

/-- The blanks that may stand between the parts of a formula. -/
inductive Spacing where
  /-- The four blanks of plain text. -/
  | plain
  /-- The blanks of every script. -/
  | anyBlank
deriving DecidableEq, Repr

/-- Whether a character is a blank that may stand between the parts of a formula. -/
def Spacing.admits : Spacing → Char → Bool
  | .plain, c => Text.isPlainBlank c
  | .anyBlank, c => Text.isBlank c

/-- The jobs that a separating character can have. -/
inductive SeparatorRole where
  | decimal
  | argument
  | arrayColumn
  | arrayRow
deriving DecidableEq, Repr

/-- How a role is called in messages. -/
def SeparatorRole.title : SeparatorRole → Text
  | .decimal => "decimal separator".toList
  | .argument => "argument separator".toList
  | .arrayColumn => "array column separator".toList
  | .arrayRow => "array row separator".toList

/-- How formulas are written. Both tables ascend by the local name; where several local names stand
for the same thing, the first one is written. -/
structure Locale where
  decimal : Char
  argument : Char
  arrayColumn : Char
  arrayRow : Char
  /-- The number of rows of a sheet. -/
  rowCount : Nat
  /-- The number of columns of a sheet. -/
  columnCount : Nat
  spacing : Spacing
  /-- The local name of a function in upper case, and its canonical name. -/
  functionNames : List (Text × Text)
  /-- The local name of an error value in upper case, and the error value. -/
  errorNames : List (Text × ErrorValue)
  /-- Canonical names of the functions whose value can change by itself. -/
  volatileFunctions : List Text
  /-- Canonical names of the functions whose value depends on the shape of the sheet. -/
  structuralFunctions : List Text
deriving DecidableEq, Repr

/-- Why a locale cannot be used. -/
inductive Locale.Fault where
  /-- One character has two jobs. -/
  | collision (separator : Char) (first second : SeparatorRole)
  /-- A sheet has no cells. -/
  | noCells (rowCount columnCount : Nat)
  /-- The name of an error value does not start as such names do. -/
  | errorName (name : Text)
deriving DecidableEq, Repr

/-- The text that reports a locale that cannot be used. -/
def Locale.Fault.message : Locale.Fault → Text
  | .collision separator first second =>
    '`' :: separator :: "` cannot be used as both the ".toList ++ first.title ++
      " and the ".toList ++ second.title
  | .noCells rowCount columnCount =>
    "sheet limits must be positive (rows: ".toList ++ Text.ofNat rowCount ++
      ", columns: ".toList ++ Text.ofNat columnCount ++ [')']
  | .errorName name => "error literal `".toList ++ name ++ "` must start with `#`".toList

/-- The canonical name of the function that is resolved while a formula is read. -/
def offsetName : Text := "OFFSET".toList

namespace Locale

/-- The character that has a job. -/
def separator (l : Locale) : SeparatorRole → Char
  | .decimal => l.decimal
  | .argument => l.argument
  | .arrayColumn => l.arrayColumn
  | .arrayRow => l.arrayRow

/-- The jobs that no character may have together. -/
def exclusiveRoles : List (SeparatorRole × SeparatorRole) :=
  [(.decimal, .argument), (.decimal, .arrayColumn), (.decimal, .arrayRow),
    (.arrayColumn, .arrayRow)]

/-- The first reason why the locale cannot be used, if there is one. -/
def fault? (l : Locale) : Option Locale.Fault :=
  match exclusiveRoles.find? fun (a, b) => l.separator a = l.separator b with
  | some (a, b) => some (.collision (l.separator a) a b)
  | none =>
    if l.rowCount = 0 ∨ l.columnCount = 0 then some (.noCells l.rowCount l.columnCount)
    else
      (l.errorNames.find? fun entry => entry.1.head? ≠ some '#').map fun entry =>
        .errorName entry.1

/-- Whether a character is a blank in this locale. -/
def isBlank (l : Locale) (c : Char) : Bool :=
  l.spacing.admits c

/-- The number of rows or columns of a sheet. -/
def count (l : Locale) : Axis → Nat
  | .row => l.rowCount
  | .column => l.columnCount

/-- The canonical name of a function as it was written. -/
def canonicalName (l : Locale) (name : Text) : Text :=
  (l.functionNames.lookup (Text.upper name)).getD (Text.upper name)

/-- The name by which a function goes in this locale. -/
def localName (l : Locale) (canonical : Text) : Text :=
  ((l.functionNames.find? fun entry => entry.2 = canonical).map Prod.fst).getD canonical

/-- The error value with a name, in any case. -/
def errorValue? (l : Locale) (name : Text) : Option ErrorValue :=
  l.errorNames.lookup (Text.upper name)

/-- The name by which an error value goes in this locale. -/
def errorName (l : Locale) (e : ErrorValue) : Text :=
  ((l.errorNames.find? fun entry => entry.2 = e).map Prod.fst).getD e.code

/-- Whether the value of a function can change by itself. -/
def isVolatile (l : Locale) (canonical : Text) : Bool :=
  l.volatileFunctions.contains canonical

/-- Whether the value of a function depends on the shape of the sheet. -/
def isStructural (l : Locale) (canonical : Text) : Bool :=
  l.structuralFunctions.contains canonical

end Locale

end GridFormula
