import GridFormula.Proofs.Grid.ColumnName
import GridFormula.Proofs.Lexeme.ReferenceText
import Mathlib.Data.List.Induction

/-!
# The canonical spelling of a reference

A row may be written with zeros in front and a column in letters of either case. The canonical
spelling has neither zeros in front nor small letters, and so each row, each column and each cell
has exactly one. It can be found from the text alone: the part in front of the number is put in
upper case, and the zeros in front of the number are dropped. The name of a sheet is written as the
workbook shows it, with quotes only where they are needed.
-/

namespace GridFormula

/-- A row, a column or a cell in upper case and without zeros in front of its number. -/
def capitalized (t : Text) : Text :=
  (t.takeWhile fun c => !c.isDigit).map Char.toUpper ++
    (t.dropWhile fun c => !c.isDigit).dropWhile (· = '0')

/-- The name of a sheet in front of a reference, if there is one, and what stands behind it. -/
def cutSheet (s : Text) : Option Text × Text :=
  match Scan.sheetFront s with
  | .present name rest => (some name, rest)
  | _ => (none, s)

namespace SheetNames

/-- How the sheet of a reference is shown in front of it. -/
def shownFront (sheets : SheetNames) : Option Text → Text
  | some name => SheetName.written (((sheets.id? name).bind sheets.name?).getD name) ++ ['!']
  | none => []

/-- A cell, or one end of a run of rows or columns, in its canonical spelling. -/
def respelled (sheets : SheetNames) (s : Text) : Text :=
  let (sheet, rest) := cutSheet s
  sheets.shownFront sheet ++ capitalized rest

/-- A run of rows or columns in its canonical spelling. -/
def respelledLines (sheets : SheetNames) (s : Text) : Text :=
  let (sheet, rest) := cutSheet s
  sheets.shownFront sheet ++ capitalized (rest.takeWhile (· ≠ ':')) ++
    ':' :: sheets.respelled (rest.dropWhile (· ≠ ':')).tail

end SheetNames

/-! ## Numbers and letters -/

namespace Text

/-- One more digit makes the number ten times as great and adds the digit. -/
lemma toNat_concat (s : Text) (c : Char) : toNat (s ++ [c]) = 10 * toNat s + (c.toNat - 48) := by
  simp [toNat, Nat.ofDigitChars_append, Nat.ofDigitChars_cons]

/-- A digit stands for a number below ten, which is written as this digit. -/
lemma digit_spec {c : Char} (h : c.isDigit = true) :
    c.toNat - 48 < 10 ∧ ofNat (c.toNat - 48) = [c] ∧ (c.toNat - 48 = 0 ↔ c = '0') :=
  forall_ascii
    (p := fun c => c.isDigit = true →
      c.toNat - 48 < 10 ∧ ofNat (c.toNat - 48) = [c] ∧ (c.toNat - 48 = 0 ↔ c = '0'))
    (by decide) (toNat_lt_of_isDigit h) h

/-- Digits denote zero only if all of them are zeros. -/
lemma eq_zero_of_toNat_eq_zero {s : Text} (hs : ∀ c ∈ s, c.isDigit = true) (h : toNat s = 0) :
    ∀ c ∈ s, c = '0' := by
  induction s using List.reverseRecOn with
  | nil => exact fun c hc => absurd hc List.not_mem_nil
  | append_singleton s c ih =>
    obtain ⟨hs, hc⟩ := List.forall_mem_append.mp hs
    obtain ⟨-, -, hzero⟩ := digit_spec (hc c (List.mem_singleton.mpr rfl))
    rw [toNat_concat] at h
    refine List.forall_mem_append.mpr ⟨ih hs (by omega), fun d hd => ?_⟩
    rw [List.mem_singleton.mp hd]
    exact hzero.mp (by omega)

/-- The digits of the number that digits denote are these digits without the zeros in front. -/
theorem ofNat_toNat {s : Text} (hs : ∀ c ∈ s, c.isDigit = true) (h : toNat s ≠ 0) :
    ofNat (toNat s) = s.dropWhile (· = '0') := by
  induction s using List.reverseRecOn with
  | nil => exact absurd rfl h
  | append_singleton s c ih =>
    obtain ⟨hs, hc⟩ := List.forall_mem_append.mp hs
    obtain ⟨hlt, hdigit, hzero⟩ := digit_spec (hc c (List.mem_singleton.mpr rfl))
    rw [toNat_concat] at h ⊢
    by_cases hn : toNat s = 0
    · have hzeros : ∀ c ∈ s, decide (c = '0') = true := fun c hc =>
        decide_eq_true (eq_zero_of_toNat_eq_zero hs hn c hc)
      have hstop : StopsAt (· = '0') [c] :=
        stopsAt_cons (decide_eq_false fun hc => h (by rw [hn, hzero.mpr hc])) []
      rw [dropWhile_append hzeros hstop, hn, Nat.mul_zero, Nat.zero_add, hdigit]
    · have hne : s.dropWhile (· = '0') ≠ [] := ih hs hn ▸ ofNat_ne_nil _
      have happend : ofNat (toNat s) ++ ofNat (c.toNat - 48) = ofNat (10 * toNat s + (c.toNat - 48)) :=
        Nat.toDigits_append_toDigits (by decide) (Nat.pos_of_ne_zero hn) hlt
      rw [← happend, ih hs hn, hdigit, List.dropWhile_append, if_neg (by simpa using hne)]

end Text

namespace Scan

/-! ## Rows and columns -/

variable {axis : Axis} {w : WrittenIndex} {t : Text}

/-- The canonical spelling of a row or column. -/
def lineName (axis : Axis) (w : WrittenIndex) : Text :=
  anchorText w.anchor ++
    match axis with
    | .column => ColumnName.letters (w.index + 1)
    | .row => Text.ofNat (w.index + 1)

/-- A row or column is written by its canonical spelling, unless it lies beyond the rows that are
told apart or has more than three letters. -/
lemma indexText_lineName (axis : Axis) (w : WrittenIndex)
    (h : match axis with
      | .column => w.index < 18278
      | .row => w.index < greatestRowNumber) :
    IndexText axis w (lineName axis w) := by
  obtain ⟨anchor, index⟩ := w
  cases axis with
  | column =>
    have htext : IndexText .column ⟨anchor, _⟩ _ := .column (ColumnName.letters_ne_nil index)
      (ColumnName.length_letters_le h) ColumnName.isAlpha_of_mem_letters
    rwa [ColumnName.value_letters, Nat.add_sub_cancel] at htext
  | row =>
    have htext : IndexText .row ⟨anchor, _⟩ _ :=
      .row (Text.isDigit_ofNat (index + 1)) (by rw [Text.toNat_ofNat]; omega)
    have hmin : min (index + 1) greatestRowNumber - 1 = index := by
      dsimp only at h
      omega
    rwa [Text.toNat_ofNat, hmin] at htext

/-- Up to the first digit a text is in upper case. -/
lemma capitalized_append {s : Text} (hs : ∀ c ∈ s, c.isDigit = false) (t : Text) :
    capitalized (s ++ t) = s.map Char.toUpper ++ capitalized t := by
  have hs : ∀ c ∈ s, (!c.isDigit) = true := fun c hc => by rw [hs c hc]; rfl
  rw [capitalized, List.takeWhile_append_of_pos hs, List.dropWhile_append_of_pos hs,
    List.map_append, List.append_assoc]
  rfl

/-- Leading zeros are dropped from digits. -/
lemma capitalized_digits {s : Text} (hs : ∀ c ∈ s, c.isDigit = true) :
    capitalized s = s.dropWhile (· = '0') := by
  cases s with
  | nil => rfl
  | cons c s =>
    have hc := hs c List.mem_cons_self
    rw [capitalized, List.takeWhile_cons_of_neg (by simp [hc]),
      List.dropWhile_cons_of_neg (by simp [hc])]
    rfl

/-- A `$` is no digit. -/
lemma isDigit_of_mem_anchorText {anchor : Anchor} : ∀ c ∈ anchorText anchor, c.isDigit = false := by
  cases anchor with
  | relative => exact fun c hc => absurd hc List.not_mem_nil
  | absolute => exact List.forall_mem_singleton.mpr rfl

/-- A `$` is in upper case. -/
lemma map_toUpper_anchorText (anchor : Anchor) :
    (anchorText anchor).map Char.toUpper = anchorText anchor := by
  cases anchor <;> rfl

/-- A letter is no digit. -/
lemma isDigit_of_isAlpha {c : Char} (h : c.isAlpha = true) : c.isDigit = false := by
  by_contra hc
  exact absurd h (by simp [Text.isAlpha_of_isDigit (by simpa using hc)])

/-- A column in upper case is the canonical spelling of the column, whatever follows. -/
lemma IndexText.capitalized_column (h : IndexText .column w t) (s : Text) :
    capitalized (t ++ s) = lineName .column w ++ capitalized s := by
  cases h with
  | @column anchor letters hne _ hletters =>
    have hdigits : ∀ c ∈ anchorText anchor ++ letters, c.isDigit = false :=
      List.forall_mem_append.mpr ⟨isDigit_of_mem_anchorText,
        fun c hc => isDigit_of_isAlpha (hletters c hc)⟩
    have hpos : ColumnName.value letters ≠ 0 := ColumnName.value_ne_zero hletters hne
    have hsucc : ColumnName.value letters - 1 + 1 = ColumnName.value letters := by omega
    rw [capitalized_append hdigits, List.map_append, map_toUpper_anchorText, lineName, hsucc,
      ColumnName.letters_value hletters]

/-- A row without zeros in front is the canonical spelling of the row. -/
lemma IndexText.capitalized_row (h : IndexText .row w t) (hw : w.index + 1 < greatestRowNumber) :
    capitalized t = lineName .row w := by
  cases h with
  | @row anchor digits hdigits hne =>
    have hsucc : min (Text.toNat digits) greatestRowNumber - 1 + 1 = Text.toNat digits := by
      dsimp only at hw
      omega
    rw [capitalized_append isDigit_of_mem_anchorText, map_toUpper_anchorText,
      capitalized_digits hdigits, lineName, hsucc, Text.ofNat_toNat hdigits hne]

/-- A written index is capitalized to the name of its line. -/
lemma IndexText.capitalized (h : IndexText axis w t)
    (hw : axis = .row → w.index + 1 < greatestRowNumber) :
    capitalized t = lineName axis w := by
  cases axis with
  | row => exact h.capitalized_row (hw rfl)
  | column =>
    have hcolumn := h.capitalized_column []
    rwa [List.append_nil, show GridFormula.capitalized [] = [] from rfl, List.append_nil] at hcolumn

/-- There is no colon in a written index. -/
lemma ne_colon_of_mem_index (h : IndexText axis w t) : ∀ c ∈ t, c ≠ ':' := by
  obtain ⟨c, body, rfl, hbody⟩ := h.exists_body
  rintro d hd rfl
  rcases List.mem_append.mp hd with hd | hd
  · cases hanchor : w.anchor with
    | absolute => simp [hanchor, anchorText] at hd
    | relative => simp [hanchor, anchorText] at hd
  · cases axis <;> cases hbody _ hd

/-! ## Behind a sheet -/

/-- A sheet in front of what names none is cut off. -/
lemma cutSheet_append {sheet : Option Text} {p s : Text} (hp : SheetText sheet p)
    (hs : sheetFront s = .absent) : cutSheet (p ++ s) = (sheet, s) := by
  cases sheet with
  | none =>
    cases hp
    rw [List.nil_append, cutSheet, hs]
  | some name => rw [cutSheet, sheetFront_append hp]

/-- Nothing that a name goes on with stands between a column and its row but the row itself. -/
lemma head_dropWhile_row {d : Text} (h : IndexText .row w d) :
    (d.dropWhile continuesName).head? ≠ some '!' := by
  obtain ⟨c, body, rfl, hbody⟩ := h.exists_body
  cases w.anchor with
  | absolute =>
    rw [anchorText, List.singleton_append, List.dropWhile_cons_of_neg (by decide)]
    simp
  | relative =>
    have hdrop := Text.dropWhile_append (fun d hd => continuesName_of_part (hbody d hd))
      (Text.stopsAt_nil continuesName)
    rw [List.append_nil] at hdrop
    rw [anchorText, List.nil_append, hdrop]
    simp

/-- The canonical spelling of a cell. -/
def cellName (sheets : SheetNames) (w : WrittenCell) : Text :=
  sheets.shownFront w.sheet ++ (lineName .column w.column ++ lineName .row w.row)

/-- The canonical spelling of one end of a run of lines. -/
def endName (sheets : SheetNames) (axis : Axis) (w : WrittenLine) : Text :=
  sheets.shownFront w.sheet ++ lineName axis w.position

/-- A cell is respelled to the name of its column and the name of its row. -/
theorem respelled_cell (sheets : SheetNames) {w : WrittenCell} (h : CellText w t)
    (hw : w.row.index + 1 < greatestRowNumber) : sheets.respelled t = cellName sheets w := by
  cases h with
  | mk hp hc hd =>
    have hcut := cutSheet_append hp (sheetFront_index hc (head_dropWhile_row hd))
    rw [SheetNames.respelled, hcut]
    dsimp only
    rw [hc.capitalized_column, hd.capitalized_row hw, cellName]

/-- A run of lines is respelled end by end. -/
theorem respelledLines_lines (sheets : SheetNames) {a b : WrittenLine} (h : LinesText axis a b t)
    (ha : axis = .row → a.position.index + 1 < greatestRowNumber)
    (hb : axis = .row → b.position.index + 1 < greatestRowNumber) :
    sheets.respelledLines t = endName sheets axis a ++ ':' :: endName sheets axis b := by
  cases h with
  | @mk sheet sheet' first last p c q d hp hc hq hd =>
    have hcolon : ∀ e ∈ c, decide (e ≠ ':') = true := fun e he =>
      decide_eq_true (ne_colon_of_mem_index hc e he)
    have hstop : Text.StopsAt (fun e => decide (e ≠ ':')) (':' :: (q ++ d)) :=
      Text.stopsAt_cons (by decide) _
    have hfirst : sheetFront (c ++ ':' :: (q ++ d)) = .absent :=
      sheetFront_index hc (endsReference_colon (q ++ d)).dropWhile
    have hlast : sheetFront (d ++ []) = .absent := sheetFront_index hd endsReference_nil.dropWhile
    rw [List.append_nil] at hlast
    rw [SheetNames.respelledLines, cutSheet_append hp hfirst]
    dsimp only
    rw [Text.takeWhile_append hcolon hstop, Text.dropWhile_append hcolon hstop, List.tail_cons,
      SheetNames.respelled, cutSheet_append hq hlast, hc.capitalized ha]
    dsimp only
    rw [hd.capitalized hb, endName, endName]

end Scan

end GridFormula
