import GridFormula.Text.Basic
import GridFormula.Number.Binary64

/-!
# The shortest decimal of a number

A number is shown with the fewest digits that still tell it from every other number. The decimals
that read back as a finite number `x` fill an interval around it; its ends lie half way to the
neighbours of `x` and belong to it exactly if the mantissa of `x` is even. For one digit, two
digits and so on, the two decimals of that length around `x` are tried. The first length with a
decimal in the interval wins; of two such decimals the nearer one does, and at equal distance the
greater one.
-/

namespace GridFormula

/-- The decimal number `digits` times ten to the power `exponent`. -/
structure Decimal where
  /-- All digits, as one natural number. -/
  digits : Nat
  /-- The power of ten of the last digit. -/
  exponent : Int
deriving DecidableEq, Repr

namespace Decimal

/-- Compares a decimal with `n` times two to the power `e`. -/
def compareDyadic (d : Decimal) (n : Nat) (e : Int) : Ordering :=
  compare (d.digits * tenTo d.exponent.toNat * twoTo (-e).toNat)
    (n * twoTo e.toNat * tenTo (-d.exponent).toNat)

/-- Whether the decimal reads back as the finite number `x`. Below a power of two the gap is half
as wide as above it, except at the smallest numbers. -/
def readsBackAs (d : Decimal) (x : Binary64) : Bool :=
  let m := x.mantissa
  let e := x.exponent - 2
  let low := if m = twoTo 52 ∧ twoTo 53 ≤ x.magnitude then 4 * m - 1 else 4 * m - 2
  let low := d.compareDyadic low e
  let high := d.compareDyadic (4 * m + 2) e
  if m % 2 = 0 then low != .lt && high != .gt else low == .gt && high == .lt

/-- The number of digits in front of the decimal point of a finite number above zero; for numbers
below one tenth it is negative. -/
def leadingPlace (x : Binary64) : Int :=
  let below (k : Int) : Bool := (Decimal.mk 1 k).compareDyadic x.mantissa x.exponent == .gt
  -- The logarithm to base ten is 0.30103 times the one to base two, to five places.
  let guess := Int.fdiv ((x.mantissa.log2 + x.exponent) * 30103) 100000
  if below guess then guess else if below (guess + 1) then guess + 1 else guess + 2

/-- The better of the two decimals next to `x` whose last digit is at the power `place`, if one of
them reads back. -/
def atPlace? (x : Binary64) (place : Int) : Option Decimal :=
  let num := x.mantissa * twoTo x.exponent.toNat * tenTo (-place).toNat
  let den := twoTo (-x.exponent).toNat * tenTo place.toNat
  let down : Decimal := ⟨num / den, place⟩
  let up : Decimal := ⟨num / den + 1, place⟩
  match down.readsBackAs x, up.readsBackAs x with
  | true, true => some (if 2 * (num % den) < den then down else up)
  | true, false => some down
  | false, true => some up
  | false, false => none

/-- Moves the zeros at the end of the digits into the exponent. -/
def trimmed (d : Decimal) : Nat → Decimal
  | 0 => d
  | fuel + 1 =>
    if d.digits ≠ 0 ∧ d.digits % 10 = 0 then trimmed ⟨d.digits / 10, d.exponent + 1⟩ fuel else d

/-- The shortest decimal of a finite number. -/
def shortest (x : Binary64) : Decimal :=
  if x.mantissa = 0 then ⟨0, 0⟩
  else
    let first := leadingPlace x
    match (List.range 17).findSome? fun n => atPlace? x (first - (n + 1 : Nat)) with
    | some d => d.trimmed 18
    | none =>
      ⟨x.mantissa * twoTo x.exponent.toNat * Nat.pow 5 (-x.exponent).toNat, min x.exponent 0⟩

/-- A decimal written out in full, never with an exponent. -/
def positional (d : Decimal) : Text :=
  let digits := Text.ofNat d.digits
  if 0 ≤ d.exponent then digits ++ List.replicate d.exponent.toNat '0'
  else
    let places := (-d.exponent).toNat
    let padded := List.replicate (places + 1 - digits.length) '0' ++ digits
    padded.take (padded.length - places) ++ '.' :: padded.drop (padded.length - places)

end Decimal

/-- The text that shows a number. -/
def Binary64.display (x : Binary64) : Text :=
  if x.isNaN then "NaN".toList
  else
    let size :=
      if x.magnitude = infinite then "inf".toList else (Decimal.shortest x).positional
    if x.negative then '-' :: size else size

example : (Binary64.ofDecimal false 30000000000000004 (-17)).display =
    "0.30000000000000004".toList := by
  decide +kernel

example : (Binary64.ofWord 0x8000000000000001).display.length = 327 := by decide +kernel

end GridFormula
