/-!
# Numbers of 64 bits

A number in a cell has a sign and a magnitude of 63 bits. Read as a natural number, the magnitude
orders the numbers by their distance from zero: first the finite ones, then infinity, then the
words that stand for no number. No arithmetic is done on them here beyond rounding: a quotient of
natural numbers goes to the nearest finite number, a tie to the one with an even mantissa.
-/

namespace GridFormula

/-- Two to a power. -/
def twoTo (n : Nat) : Nat := Nat.pow 2 n

/-- Ten to a power. -/
def tenTo (n : Nat) : Nat := Nat.pow 10 n

/-- A number of 64 bits, as a sign and the remaining 63 bits. -/
structure Binary64 where
  /-- Whether the sign is a minus. -/
  negative : Bool
  /-- The bits below the sign. -/
  magnitude : Nat
deriving DecidableEq, Repr

namespace Binary64

/-- The magnitude of infinity. Smaller magnitudes are finite, greater ones are not a number. -/
def infinite : Nat := 0x7FF * twoTo 52

/-- The number whose 64 bits are those of `word`. -/
def ofWord (word : Nat) : Binary64 where
  negative := twoTo 63 ≤ word
  magnitude := word % twoTo 63

/-- The 64 bits as a natural number. -/
def toWord (x : Binary64) : Nat :=
  if x.negative then x.magnitude + twoTo 63 else x.magnitude

/-- Whether the word stands for no number. -/
def isNaN (x : Binary64) : Bool :=
  infinite < x.magnitude

/-- Whether the number is zero, of either sign. -/
def isZero (x : Binary64) : Bool :=
  x.magnitude = 0

/-- The number zero with a plus. -/
def zero : Binary64 := ⟨false, 0⟩

/-- Places a number in the order of all numbers: ranks compare as the numbers do. -/
def rank (x : Binary64) : Int :=
  if x.negative then -(x.magnitude : Int) else x.magnitude

/-- The mantissa of a finite number: the number is its mantissa times two to its exponent. -/
def mantissa (x : Binary64) : Nat :=
  if x.magnitude < twoTo 52 then x.magnitude else x.magnitude % twoTo 52 + twoTo 52

/-- The exponent of two that belongs to the mantissa. -/
def exponent (x : Binary64) : Int :=
  if x.magnitude < twoTo 52 then -1074 else (x.magnitude / twoTo 52 : Nat) - 1075

/-- The quotient of two natural numbers as a natural number: to nearest, a tie to even. -/
def roundedQuotient (num den : Nat) : Nat :=
  let q := num / den
  let twice := 2 * (num % den)
  if twice < den ∨ (twice = den ∧ q % 2 = 0) then q else q + 1

/-- The exponent of two at which the quotient has a mantissa of 53 bits, but no less than the
least exponent there is. -/
def quotientExponent (num den : Nat) : Int :=
  let guess : Int := (num.log2 : Int) - den.log2 - 52
  -- The logarithms are rounded down, so the guess is right or one too great.
  let scaled (e : Int) : Nat × Nat := (num * twoTo (-e).toNat, den * twoTo e.toNat)
  let (n, d) := scaled guess
  max (-1074) (if n < twoTo 52 * d then guess - 1 else guess)

/-- The magnitude nearest to the quotient of two natural numbers. A mantissa that rounding fills up
carries into the exponent by itself. -/
def nearestMagnitude (num den : Nat) : Nat :=
  if num = 0 then 0
  else
    let e := quotientExponent num den
    let m := roundedQuotient (num * twoTo (-e).toNat) (den * twoTo e.toNat)
    min infinite ((e + 1074).toNat * twoTo 52 + m)

/-- The number nearest to `digits` times ten to the power `exponent`. Powers far beyond the finite
numbers are not computed: they leave infinity or zero. -/
def ofDecimal (negative : Bool) (digits : Nat) (exponent : Int) : Binary64 where
  negative := negative
  magnitude :=
    let places := exponent + (Nat.toDigits 10 digits).length
    if digits = 0 ∨ places < -400 then 0
    else if 400 < places then infinite
    else nearestMagnitude (digits * tenTo exponent.toNat) (tenTo (-exponent).toNat)

/-- The number nearest to an integer. -/
def ofInt (n : Int) : Binary64 where
  negative := n < 0
  magnitude := nearestMagnitude n.natAbs 1

/-- The integer that a number is, if it is one and lies less than 10^15 away from zero. -/
def smallInt? (x : Binary64) : Option Int :=
  let size : Option Nat :=
    if infinite ≤ x.magnitude then none
    else if 0 ≤ x.exponent then some (x.mantissa * twoTo x.exponent.toNat)
    else
      let den := twoTo (-x.exponent).toNat
      if x.mantissa % den = 0 then some (x.mantissa / den) else none
  match size with
  | some n => if n < tenTo 15 then some (if x.negative then -n else n) else none
  | none => none

example : (ofDecimal false 1 (-1)).toWord = 0x3FB999999999999A := by decide +kernel

example : (ofDecimal false 9007199254740993 0).toWord = 0x4340000000000000 := by decide +kernel

example : (ofInt (-3)).smallInt? = some (-3) := by decide +kernel

end Binary64

end GridFormula
