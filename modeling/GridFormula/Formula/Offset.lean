import GridFormula.Formula.Site
import GridFormula.Grid.Narrow
import GridFormula.Number.Numeral

/-!
# Offsets

A call of the function `OFFSET` is not kept as a call: it is resolved while the formula is read.
It takes a cell, the number of rows and columns to go from there, and the height and the width of
the result, and stands for the reference to what lies there. All numbers must be written out.
-/

namespace GridFormula

/-- The arguments of an offset behind the cell that it starts from. -/
inductive OffsetArgument where
  | rows
  | columns
  | height
  | width
deriving DecidableEq, Repr

/-- Why an offset was refused. -/
inductive OffsetFault where
  /-- There are fewer than three arguments or more than five. -/
  | argumentCount (n : Nat)
  /-- The first argument is not a cell. -/
  | origin
  /-- An argument is not an integer that is written out. -/
  | notStatic (a : OffsetArgument)
  /-- The result would have no rows or no columns. -/
  | tooSmall (a : OffsetArgument)
deriving DecidableEq, Repr

/-- The place of an argument, as a word. -/
def OffsetArgument.ordinal : OffsetArgument → Text
  | rows => "Second".toList
  | columns => "Third".toList
  | height => "Fourth".toList
  | width => "Fifth".toList

/-- The text that reports a refused offset. -/
def OffsetFault.message : OffsetFault → Text
  | argumentCount n => "OFFSET expects 3 to 5 arguments, got ".toList ++ Text.ofNat n
  | origin => "First argument to OFFSET must be a cell reference".toList
  | notStatic a => a.ordinal ++ " argument to OFFSET is not a static number".toList
  | tooSmall a => a.ordinal ++ " argument to OFFSET is too small a number".toList

/-- Applies a sign to an integer. -/
def Sign.apply : Sign → Int → Int
  | plus, n => n
  | minus, n => -n

/-- The integer that a tree writes out, with any number of signs. -/
def Tree.staticInteger? : Tree → Option Int
  | .atom _ (.number numeral) => (Numeral.read? numeral).bind Binary64.smallInt?
  | .signed _ sign t => (staticInteger? t).map sign.apply
  | _ => none

namespace Site

/-- The reference to an area of `height` times `width` cells, the first of which lies `rows` below
and `columns` right of what `origin` refers to. An area that leaves the sheet is lost. The numbers
of steps are kept in 32 bits. -/
def offsetFrom (site : Site) (origin : CellRef) (rows columns height width : Int) : Atom :=
  let start := origin.resolve site.base
  let top := start.row + rows
  let left := start.column + columns
  if top < 0 ∨ left < 0 ∨ site.locale.rowCount ≤ top + height - 1 ∨
      site.locale.columnCount ≤ left + width - 1 then .errorValue .lostReference
  else
    let first := origin.shift (narrowed columns) (narrowed rows)
    if height = 1 ∧ width = 1 then .cell first
    else
      .cells
        { first
          last := first.shift (narrowed (width - 1)) (narrowed (height - 1))
          qualification := if origin.sheet.isSome then .first else .neither }

/-- The integer that an argument writes out; an argument that is not there counts as one. -/
def offsetNumber (a : OffsetArgument) : Option Tree → Except OffsetFault Int
  | none => .ok 1
  | some t =>
    match t.staticInteger? with
    | some n => .ok n
    | none => .error (.notStatic a)

/-- Resolves an offset with the given arguments. -/
def offset (site : Site) (arguments : List Tree) : Except OffsetFault Atom :=
  if arguments.length < 3 ∨ 5 < arguments.length then .error (.argumentCount arguments.length)
  else
    match arguments with
    | .atom _ (.cell origin) :: numbers => do
      let rows ← offsetNumber .rows numbers[0]?
      let columns ← offsetNumber .columns numbers[1]?
      let height ← offsetNumber .height numbers[2]?
      let width ← offsetNumber .width numbers[3]?
      if height < 1 then .error (.tooSmall .height)
      else if width < 1 then .error (.tooSmall .width)
      else .ok (site.offsetFrom origin rows columns height width)
    | _ => .error .origin

end Site

end GridFormula
