import GridFormula.Value.ErrorValue
import GridFormula.Number.Shortest
import GridFormula.Grid.Cell

/-!
# Cell values

What a cell holds: a number, a text, a truth value, nothing, or an error. An error may carry a
message and remember the cell that first produced it.
-/

namespace GridFormula

/-- An error in a cell. -/
structure CellError where
  kind : ErrorValue
  message : Option Text
  /-- The cell that first produced the error. -/
  origin : Option Cell
deriving DecidableEq, Repr

namespace CellError

/-- An error that no cell has been made responsible for. -/
def ofKind (kind : ErrorValue) (message : Option Text) : CellError :=
  ⟨kind, message, none⟩

/-- Makes a cell responsible for the error, unless another one already is. -/
def blame (e : CellError) (cell : Cell) : CellError :=
  { e with origin := e.origin.or (some cell) }

/-- The text that shows an error: its code, and its message in parentheses. -/
def display (e : CellError) : Text :=
  match e.message with
  | some message => e.kind.code ++ " (".toList ++ message ++ [')']
  | none => e.kind.code

/-- Only the first cell that is made responsible stays so. -/
theorem blame_blame (e : CellError) (a b : Cell) : (e.blame a).blame b = e.blame a := by
  cases h : e.origin <;> simp [blame, h]

end CellError

/-- The value of a cell. -/
inductive Value where
  | number (x : Binary64)
  | text (s : Text)
  | bool (b : Bool)
  | empty
  | error (e : CellError)
deriving DecidableEq, Repr

namespace Value

/-- Whether the value is an error. -/
def isError : Value → Bool
  | error _ => true
  | _ => false

/-- The text that shows a value. -/
def display : Value → Text
  | number x => x.display
  | text s => s
  | bool true => "TRUE".toList
  | bool false => "FALSE".toList
  | empty => []
  | error e => e.display

end Value

end GridFormula
