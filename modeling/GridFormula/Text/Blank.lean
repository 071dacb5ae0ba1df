import GridFormula.Text.CodePoint

/-!
# Blanks

A formula may be spaced with the four blanks of plain text, or with every character that has the
property White_Space, such as the no-break space.
-/

namespace GridFormula.Text

/-- Space, tab, carriage return and line feed. -/
def isPlainBlank (c : Char) : Bool :=
  c = ' ' || c = '\t' || c = '\r' || c = '\n'

/-- The characters with the property White_Space, as closed ranges. -/
def blankRanges : List (List Nat) :=
  [[0x9, 0xD], [0x20, 0x20], [0x85, 0x85], [0xA0, 0xA0], [0x1680, 0x1680], [0x2000, 0x200A],
    [0x2028, 0x2029], [0x202F, 0x202F], [0x205F, 0x205F], [0x3000, 0x3000]]

/-- Whether a character is blank in any script. -/
def isBlank (c : Char) : Bool :=
  CodePoint.inRanges c.toNat blankRanges

/-- Every blank of plain text is blank. -/
theorem isBlank_of_isPlainBlank {c : Char} (h : isPlainBlank c = true) : isBlank c = true := by
  simp only [isPlainBlank, Bool.or_eq_true, decide_eq_true_eq] at h
  rcases h with ((h | h) | h) | h <;> subst h <;> decide

end GridFormula.Text
