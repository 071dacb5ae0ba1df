import GridFormula.Formula.Operator
import GridFormula.Reference.Coord
import GridFormula.Value.ErrorValue

/-!
# Lexemes

A formula is read as a list of lexemes. A reference is one lexeme together with the sheet in front
of it, and so is a pair of whole rows or columns with the colon between them; of an area of cells
each corner and the colon are lexemes of their own.
-/

namespace GridFormula

/-- A row or column as it is written, counted from zero. -/
structure WrittenIndex where
  anchor : Anchor
  index : Nat
deriving DecidableEq, Repr

/-- A cell as it is written, with the name of its sheet if that is written too. -/
structure WrittenCell where
  sheet : Option Text
  column : WrittenIndex
  row : WrittenIndex
deriving DecidableEq, Repr

/-- A whole row or column as it is written. -/
structure WrittenLine where
  sheet : Option Text
  position : WrittenIndex
deriving DecidableEq, Repr

/-- What a lexeme stands for. -/
inductive Symbol where
  /-- Blanks between the other lexemes. -/
  | blank
  /-- A number, with a point as decimal separator and an upper-case exponent. -/
  | number (numeral : Text)
  /-- A text, without its quotes. -/
  | string (content : Text)
  | errorValue (e : ErrorValue)
  | cell (c : WrittenCell)
  /-- A run of whole rows or columns. -/
  | lines (axis : Axis) (first last : WrittenLine)
  /-- The canonical name of a function and the parenthesis that opens its arguments. -/
  | call (function : Text)
  /-- The same for the function that is resolved while the formula is read. -/
  | offsetCall
  /-- A name, as it was written. -/
  | name (name : Text)
  | colon
  | argumentSeparator
  | columnSeparator
  | rowSeparator
  | openBrace
  | closeBrace
  | openParen
  | closeParen
  | operator (op : BinaryOp)
  | percent
deriving DecidableEq, Repr

/-- A part of a formula: what it stands for, and how it was written. -/
structure Lexeme where
  symbol : Symbol
  image : Text
deriving DecidableEq, Repr

/-- Whether the lexeme consists of blanks. -/
def Lexeme.isBlank (x : Lexeme) : Bool :=
  x.symbol = .blank

end GridFormula
