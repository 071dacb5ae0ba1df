import GridFormula.Text.Basic

/-!
# Column names

Columns are named by letters: `A` to `Z`, then `AA`, `AB` and so on. A name is a number in base 26
whose digits run from one to twenty-six, so there is no zero digit and every number has exactly
one name. Columns count from zero, one less than the number that the name denotes.
-/

namespace GridFormula.ColumnName

/-- The letter for the digit `d + 1`. -/
def letter (d : Nat) : Char :=
  Char.ofNat ('A'.toNat + d)

/-- The digit that a letter of either case stands for, from one to twenty-six. -/
def digit (c : Char) : Nat :=
  c.toUpper.toNat - 'A'.toNat + 1

/-- The letters of a number; zero has none. -/
def letters (n : Nat) : Text :=
  if n = 0 then [] else letters ((n - 1) / 26) ++ [letter ((n - 1) % 26)]
termination_by n
decreasing_by omega

/-- Zero has no letters. -/
theorem letters_zero : letters 0 = [] := by
  rw [letters]; simp

/-- The last letter stands for the rest of a division by 26, and the others for its result. -/
theorem letters_succ (n : Nat) : letters (n + 1) = letters (n / 26) ++ [letter (n % 26)] := by
  rw [letters]; simp

/-- The number that letters denote. -/
def value (s : Text) : Nat :=
  s.foldl (fun n c => 26 * n + digit c) 0

/-- No letters have no value. -/
@[simp] theorem value_nil : value [] = 0 := rfl

/-- One more letter makes the value 26 times as great and adds that of the letter. -/
theorem value_concat (s : Text) (c : Char) : value (s ++ [c]) = 26 * value s + digit c := by
  simp [value]

/-- The greatest coordinate that an address can hold. -/
def greatestCoordinate : Nat := 0x7FFFFFFF

/-- A number, unless it is too great for a coordinate. -/
def checked? (n : Nat) : Option Nat :=
  if n ≤ greatestCoordinate then some n else none

/-- The number of a name with one letter more, where `n` is the number of the name so far and `b`
the byte of the letter. There is none if `b` is no letter, or if the product or the sum is too
great. -/
def append? (n : Nat) (b : UInt8) : Option Nat :=
  let c := Char.ofUInt8 b
  if c.isAlpha then do
    let shifted ← checked? (26 * n)
    checked? (shifted + digit c)
  else none

/-- The name of a column. Columns before the first have the empty name. -/
def ofIndex (column : Int) : Text :=
  if column < 0 then [] else letters (column.toNat + 1)

/-- The column with a name, in letters of either case. The name is read byte by byte, and reading
stops at the first byte that is no letter or makes the number too great. -/
def index? (s : Text) : Option Int :=
  if s = [] then none else (s.bytes.foldlM append? 0).map fun n : Nat => (n : Int) - 1

end GridFormula.ColumnName
