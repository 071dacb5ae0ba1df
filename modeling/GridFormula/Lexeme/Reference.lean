import GridFormula.Lexeme.Basic
import GridFormula.Grid.SheetName

/-!
# Reading a reference

A reference may start with the name of a sheet and an exclamation mark. What follows is a run of
columns, a run of rows or a cell, tried in this order. None of them may go straight over into a
name or a parenthesis: `LOG10(` and `A1B` are not references.
-/

namespace GridFormula

/-- Why a text has no lexeme at its front. -/
inductive ScanFault where
  | unterminatedString
  | unknownErrorValue
  | unterminatedSheetName
  /-- The exclamation mark is missing behind a quoted sheet name. -/
  | missingMark
  /-- The reference is missing behind the name of a sheet. -/
  | missingReference
  | unexpected (c : Char)
deriving DecidableEq, Repr

namespace Scan

/-- What stands at the front of a text in the place of a sheet name. -/
inductive SheetFront where
  | absent
  | present (name rest : Text)
  | broken (fault : ScanFault) (rest : Text)
deriving DecidableEq, Repr

/-- Looks for the name of a sheet with the exclamation mark behind it. -/
def sheetFront : Text → SheetFront
  | [] => .absent
  | c :: s =>
    if c = '\'' then
      match Text.unquoted? '\'' s with
      | none => .broken .unterminatedSheetName []
      | some (name, rest) =>
        match rest with
        | '!' :: rest => .present name rest
        | rest => .broken .missingMark rest
    else if startsName c then
      match s.dropWhile continuesName with
      | '!' :: rest => .present (c :: s.takeWhile continuesName) rest
      | _ => .absent
    else .absent

/-- Takes a `$` off the front. -/
def anchor : Text → Anchor × Text
  | '$' :: s => (.absolute, s)
  | s => (.relative, s)

/-- Reads the letters of a column, one to three of them. -/
def columnPart (s : Text) : Option (WrittenIndex × Text) :=
  let (anchor, s) := anchor s
  let letters := s.takeWhile Char.isAlpha
  if letters = [] ∨ 3 < letters.length then none
  else some (⟨anchor, ColumnName.value letters - 1⟩, s.dropWhile Char.isAlpha)

/-- The greatest row number that is told apart from greater ones. No sheet is that long. -/
def greatestRowNumber : Nat := 0xFFFFFFFF

/-- Reads the number of a row, which counts from one. -/
def rowPart (s : Text) : Option (WrittenIndex × Text) :=
  let (anchor, s) := anchor s
  let number := min (Text.toNat (s.takeWhile Char.isDigit)) greatestRowNumber
  if number = 0 then none
  else some (⟨anchor, number - 1⟩, s.dropWhile Char.isDigit)

/-- Reads a row or a column. -/
def linePart : Axis → Text → Option (WrittenIndex × Text)
  | .column => columnPart
  | .row => rowPart

/-- Whether the text goes on in a way in which no reference ends. -/
def runsOn : Text → Bool
  | c :: _ => continuesName c || c = '(' || c = '$'
  | [] => false

/-- Reads a run of rows or of columns behind the name of a sheet, if there was one. The second end
may name a sheet too. -/
def linesReference (axis : Axis) (sheet : Option Text) (s : Text) : Option (Symbol × Text) :=
  match linePart axis s with
  | some (first, ':' :: s) =>
    let last? :=
      match sheetFront s with
      | .absent => (linePart axis s).map fun (last, rest) => (⟨none, last⟩, rest)
      | .present name s => (linePart axis s).map fun (last, rest) => (⟨some name, last⟩, rest)
      | .broken _ _ => none
    match last? with
    | some (last, rest) =>
      if runsOn rest then none else some (.lines axis ⟨sheet, first⟩ last, rest)
    | none => none
  | _ => none

/-- Reads a cell behind the name of a sheet, if there was one. -/
def cellReference (sheet : Option Text) (s : Text) : Option (Symbol × Text) :=
  match columnPart s with
  | some (column, s) =>
    match rowPart s with
    | some (row, rest) => if runsOn rest then none else some (.cell ⟨sheet, column, row⟩, rest)
    | none => none
  | none => none

/-- Reads what can stand behind the name of a sheet. -/
def bareReference (sheet : Option Text) (s : Text) : Option (Symbol × Text) :=
  (linesReference .column sheet s).or ((linesReference .row sheet s).or (cellReference sheet s))

/-- What stands at the front of a text in the place of a reference. -/
inductive ReferenceFront where
  | absent
  | present (symbol : Symbol) (rest : Text)
  | broken (fault : ScanFault) (rest : Text)
deriving DecidableEq, Repr

/-- Looks for a reference at the front of a text. -/
def referenceFront (s : Text) : ReferenceFront :=
  match sheetFront s with
  | .absent =>
    match bareReference none s with
    | some (symbol, rest) => .present symbol rest
    | none => .absent
  | .present name s =>
    match bareReference (some name) s with
    | some (symbol, rest) => .present symbol rest
    | none => .broken .missingReference s
  | .broken fault rest => .broken fault rest

/-! ## What is left is shorter -/

/-- Dropping characters does not make a text longer. -/
theorem length_dropWhile_le (p : Char → Bool) (s : Text) : (s.dropWhile p).length ≤ s.length :=
  (List.dropWhile_suffix p).length_le

/-- Reading a `$` does not make the text longer. -/
theorem length_anchor_le (s : Text) : (anchor s).2.length ≤ s.length := by
  unfold anchor
  split <;> simp

/-- Reading a column makes the text shorter. -/
theorem length_lt_of_columnPart {s rest : Text} {x : WrittenIndex}
    (h : columnPart s = some (x, rest)) : rest.length < s.length := by
  simp only [columnPart] at h
  split at h
  · simp at h
  · next hl =>
    simp only [Option.some.injEq, Prod.mk.injEq] at h
    have ha := length_anchor_le s
    generalize (anchor s).2 = t at *
    cases t with
    | nil => simp at hl
    | cons c t =>
      have hc : c.isAlpha = true := by
        apply Classical.byContradiction
        intro hc
        simp [hc] at hl
      have := length_dropWhile_le Char.isAlpha t
      simp only [List.dropWhile_cons, hc, if_true] at h
      simp only [List.length_cons] at ha
      rw [← h.2]
      omega

/-- Reading a row makes the text shorter. -/
theorem length_lt_of_rowPart {s rest : Text} {x : WrittenIndex}
    (h : rowPart s = some (x, rest)) : rest.length < s.length := by
  simp only [rowPart] at h
  split at h
  · simp at h
  · next hl =>
    simp only [Option.some.injEq, Prod.mk.injEq] at h
    have ha := length_anchor_le s
    generalize (anchor s).2 = t at *
    cases t with
    | nil => simp [Text.toNat] at hl
    | cons c t =>
      have hc : c.isDigit = true := by
        apply Classical.byContradiction
        intro hc
        simp [hc, Text.toNat] at hl
      have := length_dropWhile_le Char.isDigit t
      simp only [List.dropWhile_cons, hc, if_true] at h
      simp only [List.length_cons] at ha
      rw [← h.2]
      omega

/-- Reading a line makes the text shorter. -/
theorem length_lt_of_linePart {axis : Axis} {s rest : Text} {x : WrittenIndex}
    (h : linePart axis s = some (x, rest)) : rest.length < s.length := by
  cases axis with
  | row => exact length_lt_of_rowPart h
  | column => exact length_lt_of_columnPart h

/-- Reading a sheet makes the text shorter. -/
theorem length_lt_of_sheetFront {s name rest : Text} (h : sheetFront s = .present name rest) :
    rest.length < s.length := by
  unfold sheetFront at h
  split at h
  · simp at h
  · next c s =>
    split at h
    · split at h
      · simp at h
      · next name' rest' hu =>
        have := Text.length_lt_of_unquoted? hu
        split at h
        · cases h; simp only [List.length_cons] at *; omega
        · simp at h
    · split at h
      · have := length_dropWhile_le continuesName s
        split at h
        · next hd => cases h; rw [hd] at this; simp only [List.length_cons] at *; omega
        · simp at h
      · simp at h

/-- Reading a broken sheet makes the text shorter. -/
theorem length_lt_of_broken_sheetFront {s rest : Text} {fault : ScanFault}
    (h : sheetFront s = .broken fault rest) : rest.length < s.length := by
  unfold sheetFront at h
  split at h
  · simp at h
  · next c s =>
    split at h
    · split at h
      · cases h; simp
      · next name' rest' hu =>
        have := Text.length_lt_of_unquoted? hu
        split at h
        · simp at h
        · cases h; simp only [List.length_cons] at *; omega
    · split at h
      · split at h <;> simp at h
      · simp at h

/-- Reading a run of lines makes the text shorter. -/
theorem length_lt_of_linesReference {axis : Axis} {sheet : Option Text} {s rest : Text}
    {symbol : Symbol} (h : linesReference axis sheet s = some (symbol, rest)) :
    rest.length < s.length := by
  unfold linesReference at h
  split at h
  · next first t hf =>
    have h₁ := length_lt_of_linePart hf
    simp only at h
    split at h
    · next last rest' hl =>
      have h₂ : rest'.length < t.length := by
        split at hl
        · obtain ⟨⟨x, y⟩, hx, hy⟩ := Option.map_eq_some_iff.1 hl
          cases hy
          exact length_lt_of_linePart hx
        · next name u hs =>
          obtain ⟨⟨x, y⟩, hx, hy⟩ := Option.map_eq_some_iff.1 hl
          cases hy
          exact Nat.lt_trans (length_lt_of_linePart hx) (length_lt_of_sheetFront hs)
        · simp at hl
      split at h
      · simp at h
      · cases h
        simp only [List.length_cons] at h₁
        omega
    · simp at h
  · simp at h

/-- Reading a cell makes the text shorter. -/
theorem length_lt_of_cellReference {sheet : Option Text} {s rest : Text} {symbol : Symbol}
    (h : cellReference sheet s = some (symbol, rest)) : rest.length < s.length := by
  unfold cellReference at h
  split at h
  · next column t hc =>
    have h₁ := length_lt_of_columnPart hc
    split at h
    · next row rest' hr =>
      have h₂ := length_lt_of_rowPart hr
      split at h
      · simp at h
      · cases h; omega
    · simp at h
  · simp at h

/-- Reading a reference behind a sheet makes the text shorter. -/
theorem length_lt_of_bareReference {sheet : Option Text} {s rest : Text} {symbol : Symbol}
    (h : bareReference sheet s = some (symbol, rest)) : rest.length < s.length := by
  simp only [bareReference, Option.or_eq_some_iff] at h
  rcases h with h | ⟨_, h | ⟨_, h⟩⟩
  · exact length_lt_of_linesReference h
  · exact length_lt_of_linesReference h
  · exact length_lt_of_cellReference h

/-- Reading a reference makes the text shorter. -/
theorem length_lt_of_referenceFront {s rest : Text} {symbol : Symbol}
    (h : referenceFront s = .present symbol rest) : rest.length < s.length := by
  unfold referenceFront at h
  split at h
  · split at h
    · next hb => cases h; exact length_lt_of_bareReference hb
    · simp at h
  · next name t hs =>
    split at h
    · next hb =>
      cases h
      exact Nat.lt_trans (length_lt_of_bareReference hb) (length_lt_of_sheetFront hs)
    · simp at h
  · simp at h

/-- Reading a broken reference makes the text shorter. -/
theorem length_lt_of_broken_referenceFront {s rest : Text} {fault : ScanFault}
    (h : referenceFront s = .broken fault rest) : rest.length < s.length := by
  unfold referenceFront at h
  split at h
  · split at h <;> simp at h
  · next name t hs =>
    split at h
    · simp at h
    · cases h; exact length_lt_of_sheetFront hs
  · next hs => cases h; exact length_lt_of_broken_sheetFront hs

end Scan

end GridFormula
