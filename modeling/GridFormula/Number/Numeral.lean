import GridFormula.Text.Basic
import GridFormula.Number.Binary64

/-!
# Numbers written in decimal

A numeral is an optional sign and either the name of a special value, in letters of any case, or
digits with at most one point among them and, after an `e`, an optional exponent. At least one
digit must stand before or after the point.
-/

namespace GridFormula.Numeral

/-- Takes an optional sign: whether it is a minus, and the text after it. -/
def splitSign : Text → Bool × Text
  | '+' :: s => (false, s)
  | '-' :: s => (true, s)
  | s => (false, s)

/-- The exponent that ends a numeral; an empty end is the exponent zero. -/
def exponent? : Text → Option Int
  | [] => some 0
  | c :: s =>
    let (negative, digits) := splitSign s
    if (c = 'e' ∨ c = 'E') ∧ digits ≠ [] ∧ digits.all Char.isDigit then
      some (if negative then -(Text.toNat digits : Int) else Text.toNat digits)
    else none

/-- The digits after the point, if the text starts with one, and what follows. -/
def splitFraction : Text → Text × Text
  | '.' :: s => (s.takeWhile Char.isDigit, s.dropWhile Char.isDigit)
  | s => ([], s)

/-- The number that a text writes, if the whole of it is a numeral. -/
def read? (s : Text) : Option Binary64 :=
  let (negative, s) := splitSign s
  if Text.sameLetters s "inf".toList ∨ Text.sameLetters s "infinity".toList then
    some ⟨negative, Binary64.infinite⟩
  else if Text.sameLetters s "nan".toList then
    some ⟨negative, Binary64.infinite + twoTo 51⟩
  else
    let whole := s.takeWhile Char.isDigit
    let (fraction, s) := splitFraction (s.dropWhile Char.isDigit)
    if whole = [] ∧ fraction = [] then none
    else
      (exponent? s).map fun e =>
        Binary64.ofDecimal negative (Text.toNat (whole ++ fraction)) (e - fraction.length)

example : (read? "-1.5E1".toList).map Binary64.smallInt? = some (some (-15)) := by decide +kernel

example : read? "1e".toList = none := by decide +kernel

end GridFormula.Numeral
