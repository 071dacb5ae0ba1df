import GridFormula.Formula.Tree

/-!
# The marks of a formula

Read from left to right, a formula is a list of marks: its atoms, operators, brackets, separators
and blanks. The marks of a tree say all that is written and nothing about who writes it: the text
of a formula, its key and its references are each read off them, mark by mark.
-/

namespace GridFormula

/-- One thing that stands in a formula. -/
inductive Mark where
  | space (blanks : Text)
  | atom (a : Atom)
  /-- A binary operator, or a sign. -/
  | operator (op : BinaryOp)
  | percent
  /-- The canonical name of a function and the parenthesis that opens its arguments. -/
  | call (function : Text)
  /-- The same for the function that is resolved while the formula is read. -/
  | offsetCall
  | colon
  | argumentSeparator
  | columnSeparator
  | rowSeparator
  | openParen
  | closeParen
  | openBrace
  | closeBrace
deriving DecidableEq, Repr

namespace Mark

/-- The mark of the blanks in front of something, if there are any. -/
def spaces : Option Text → List Mark
  | some blanks => [.space blanks]
  | none => []

/-- The atom that the mark is. -/
def atom? : Mark → Option Atom
  | .atom a => some a
  | _ => none

/-- The canonical name of the function that the mark calls. -/
def function? : Mark → Option Text
  | .call function => some function
  | _ => none

end Mark

namespace Tree

mutual

/-- The marks of a tree in their order. -/
def marks : Tree → List Mark
  | .atom lead a => Mark.spaces lead ++ [.atom a]
  | .signed lead sign t => Mark.spaces lead ++ .operator sign.operator :: marks t
  | .percent lead t => marks t ++ Mark.spaces lead ++ [.percent]
  | .binary lead op s t => marks s ++ Mark.spaces lead ++ .operator op :: marks t
  | .call lead function ts inner =>
    Mark.spaces lead ++ .call function ::
      ([.argumentSeparator].intercalate (marksOfEach ts) ++ Mark.spaces inner ++ [.closeParen])
  | .parens lead t inner =>
    Mark.spaces lead ++ .openParen :: (marks t ++ Mark.spaces inner ++ [.closeParen])
  | .array lead rows inner =>
    Mark.spaces lead ++ .openBrace ::
      ([.rowSeparator].intercalate (marksOfRows rows) ++ Mark.spaces inner ++ [.closeBrace])

/-- The marks of each tree of a list. -/
def marksOfEach : List Tree → List (List Mark)
  | [] => []
  | t :: ts => marks t :: marksOfEach ts

/-- The marks of each row of trees. -/
def marksOfRows : List (List Tree) → List (List Mark)
  | [] => []
  | row :: rows => [.columnSeparator].intercalate (marksOfEach row) :: marksOfRows rows

end

/-- The marks of several trees are those of each. -/
theorem marksOfEach_eq_map (ts : List Tree) : marksOfEach ts = ts.map marks := by
  induction ts with
  | nil => rfl
  | cons t ts ih => simp [marksOfEach, ih]

/-- The marks of rows are those of each row, with separators between its members. -/
theorem marksOfRows_eq_map (rows : List (List Tree)) :
    marksOfRows rows = rows.map fun row => [.columnSeparator].intercalate (row.map marks) := by
  induction rows with
  | nil => rfl
  | cons row rows ih => simp [marksOfRows, marksOfEach_eq_map, ih]

/-- A call is written with its arguments between separators. -/
theorem marks_call (lead : Option Text) (function : Text) (ts : List Tree) (inner : Option Text) :
    (call lead function ts inner).marks = Mark.spaces lead ++ .call function ::
      ([.argumentSeparator].intercalate (ts.map marks) ++ Mark.spaces inner ++ [.closeParen]) := by
  rw [marks, marksOfEach_eq_map]

/-- An array is written row by row, each with its elements between separators. -/
theorem marks_array (lead : Option Text) (rows : List (List Tree)) (inner : Option Text) :
    (array lead rows inner).marks = Mark.spaces lead ++ .openBrace ::
      ([.rowSeparator].intercalate
          (rows.map fun row => [.columnSeparator].intercalate (row.map marks)) ++
        Mark.spaces inner ++ [.closeBrace]) := by
  rw [marks, marksOfRows_eq_map]

/-- The atoms of a tree in their order. -/
def atoms (t : Tree) : List Atom :=
  t.marks.filterMap Mark.atom?

/-- The canonical names of the functions that a tree calls, in their order. -/
def functions (t : Tree) : List Text :=
  t.marks.filterMap Mark.function?

end Tree

end GridFormula
