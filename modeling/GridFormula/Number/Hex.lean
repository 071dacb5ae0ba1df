import GridFormula.Number.Binary64
import GridFormula.Text.CodePoint

/-!
# Numbers in hexadecimal

The sixteen hexadecimal digits of its word say exactly which number is meant, also where it is not
finite or differs from another one only in the sign of zero.
-/

namespace GridFormula.Binary64

/-- The last `k` hexadecimal digits of a natural number. -/
def hexDigits (k n : Nat) : Text :=
  match k with
  | 0 => []
  | k + 1 => hexDigits k (n / 16) ++ [Nat.digitChar (n % 16)]

/-- As many digits are written as are asked for. -/
theorem length_hexDigits (k n : Nat) : (hexDigits k n).length = k := by
  induction k generalizing n with
  | zero => rfl
  | succ k ih => simp [hexDigits, ih]

/-- The word of a number in hexadecimal. -/
def hex (x : Binary64) : Text :=
  hexDigits 16 x.toWord

/-- The number that hexadecimal digits of either case mean, read on from the word `n`. -/
def wordOfHex? (n : Nat) : Text → Option Nat
  | [] => some n
  | c :: s => (CodePoint.hexDigit? c.toUpper).bind fun d => wordOfHex? (16 * n + d) s

/-- The number whose word is written in hexadecimal. -/
def ofHex? (s : Text) : Option Binary64 :=
  if s.length = 16 then (wordOfHex? 0 s).map ofWord else none

example : (ofHex? "c008000000000000".toList).bind smallInt? = some (-3) ∧
    (ofInt (-3)).hex = "c008000000000000".toList := by decide +kernel

end GridFormula.Binary64
