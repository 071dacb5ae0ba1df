import GridFormula.Text.Basic

/-!
# Tables of code points

A property of characters, or a map from characters to texts, is written down as a block of rows
of hexadecimal code points: the numbers of a row stand apart by blanks or line breaks, and a
semicolon ends the row. This file reads such blocks and looks characters up in them. The tables of
letters, numbers and case follow version 17.0 of the character database, those of marks and normal
forms the version after it. Characters below U+0080 are left to the functions that use the tables.
-/

namespace GridFormula.CodePoint

/-- The value of a hexadecimal digit with upper-case letters. -/
def hexDigit? (c : Char) : Option Nat :=
  if c.isDigit then some (c.toNat - '0'.toNat)
  else if 'A' ≤ c ∧ c ≤ 'F' then some (c.toNat - 'A'.toNat + 10)
  else none

/-- Appends the number read so far, if there is one, to the row read so far (last number first). -/
def endNumber (number : Option Nat) (row : List Nat) : List Nat :=
  match number with
  | some n => n :: row
  | none => row

/-- Reads on, with the number and the row (last number first) that are under way. -/
def readRows (number : Option Nat) (row : List Nat) : Text → List (List Nat)
  | [] => []
  | c :: s =>
    match hexDigit? c with
    | some d => readRows (some (number.getD 0 * 16 + d)) row s
    | none =>
      if c = ';' then (endNumber number row).reverse :: readRows none [] s
      else readRows none (endNumber number row) s

/-- The rows of a block. -/
def rows (block : String) : List (List Nat) :=
  readRows none [] block.toList

example : rows "C0 41 300; AA 61;" = [[0xC0, 0x41, 0x300], [0xAA, 0x61]] := by decide +kernel

/-- Whether a code point lies in one of the closed ranges that the rows give by their ends. -/
def inRanges (n : Nat) : List (List Nat) → Bool
  | [first, last] :: ranges => (first ≤ n && n ≤ last) || inRanges n ranges
  | _ :: ranges => inRanges n ranges
  | [] => false

/-- The rest of the row that starts with `n`. -/
def row? (n : Nat) : List (List Nat) → Option (List Nat)
  | (m :: image) :: rest => if m = n then some image else row? n rest
  | [] :: rest => row? n rest
  | [] => none

/-- The characters that the rows give as the image of `c`. -/
def image? (c : Char) (table : List (List Nat)) : Option Text :=
  (row? c.toNat table).map fun image => image.map Char.ofNat

end GridFormula.CodePoint
