import GridFormula.Lexeme.Spacing
import GridFormula.Proofs.Formula.Fronts
import GridFormula.Proofs.Formula.WrittenReference

/-!
# Every name of a sheet is read back

Any text can be the name of a sheet: the empty one, one with blanks or quotes in it, or one that
looks like a cell. In front of a reference it is written with quotes where it needs them, and there
it is read back, whichever reference follows. A formula that consists of a reference is cut into the
equals sign and the reference.
-/

namespace GridFormula

open Scan

/-- The name of a sheet with the exclamation mark, as it is written in front of a reference. -/
def sheetPrefix (name : Text) : Text :=
  SheetName.written name ++ ['!']

/-- The formula that consists of the text is cut into the equals sign and the symbol. -/
def ReadsAlone (l : Locale) (t : Text) (symbol : Symbol) : Prop :=
  lex l ('=' :: t) = .ok [⟨.operator .equal, ['=']⟩, ⟨symbol, t⟩]

/-- A written reference is read alone as this reference. -/
lemma readsAlone_of_referenceText {l : Locale} (hl : l.IsPreset) {symbol : Symbol} {t : Text}
    (h : ReferenceText symbol t) : ReadsAlone l t symbol := by
  have hreference : ReadsFront l .empty t [] symbol .empty :=
    readsFront_reference hl h endsReference_nil
  have hequal : ReadsFront l .empty ['='] (t ++ []) (.operator .equal) .empty :=
    readsFront_operator hl rfl
  have hscans := hequal.scans (hreference.scans .nil)
  rw [List.append_nil, List.singleton_append] at hscans
  have hblank : symbol ≠ .blank := by
    rintro rfl
    cases h
  rw [ReadsAlone, lex, scan_eq_ok_iff.mpr hscans]
  simp [Except.map, dropIdleBlanks, Lexeme.isBlank, hblank]

/-- In front of a cell, or of a run of rows or columns, the name of every sheet is read back, and so
is the reference. In a run of lines the name may stand in front of the second end too. -/
theorem readsAlone_sheetPrefix {l : Locale} (hl : l.IsPreset) (name : Text) :
    (∀ column row : WrittenIndex, column.index < l.columnCount → row.index < l.rowCount →
      ReadsAlone l (sheetPrefix name ++ (lineName .column column ++ lineName .row row))
        (.cell ⟨some name, column, row⟩)) ∧
    ∀ (axis : Axis) (first last : WrittenIndex),
      first.index < l.count axis → last.index < l.count axis →
        ReadsAlone l (sheetPrefix name ++ (lineName axis first ++ ':' :: lineName axis last))
          (.lines axis ⟨some name, first⟩ ⟨none, last⟩) ∧
        ReadsAlone l
          (sheetPrefix name ++ (lineName axis first ++ ':' :: (sheetPrefix name ++ lineName axis last)))
          (.lines axis ⟨some name, first⟩ ⟨some name, last⟩) := by
  have hname : SheetText (some name) (sheetPrefix name) := sheetText_written name
  constructor
  · intro column row hcolumn hrow
    have hcolumn : IndexText .column column (lineName .column column) :=
      hl.indexText_lineName hcolumn
    have hrow : IndexText .row row (lineName .row row) := hl.indexText_lineName hrow
    exact readsAlone_of_referenceText hl (.cell (.mk hname hcolumn hrow))
  · intro axis first last hfirst hlast
    have hfirst := hl.indexText_lineName hfirst
    have hlast := hl.indexText_lineName hlast
    have hone : LinesText axis ⟨some name, first⟩ ⟨none, last⟩
        (sheetPrefix name ++ (lineName axis first ++ ':' :: ([] ++ lineName axis last))) :=
      .mk hname hfirst .absent hlast
    exact ⟨readsAlone_of_referenceText hl (.lines hone),
      readsAlone_of_referenceText hl (.lines (.mk hname hfirst hname hlast))⟩

/-- The name of the sheet looks like a cell and has a quote in it, and the cell is the last one. -/
theorem readsAlone_sheetPrefix_last_cell :
    Locale.germany.IsPreset ∧ 16383 < Locale.germany.columnCount ∧
      1048575 < Locale.germany.rowCount ∧
      ReadsAlone .germany "'A1''s'!XFD$1048576".toList
        (.cell ⟨some "A1's".toList, ⟨.relative, 16383⟩, ⟨.absolute, 1048575⟩⟩) := by
  have hl : Locale.germany.IsPreset := Or.inr rfl
  have hcolumn : 16383 < Locale.germany.columnCount := by decide
  have hrow : 1048575 < Locale.germany.rowCount := by decide
  have hread := (readsAlone_sheetPrefix hl "A1's".toList).1 ⟨.relative, 16383⟩
    ⟨.absolute, 1048575⟩ hcolumn hrow
  have htext : sheetPrefix "A1's".toList ++ (lineName .column ⟨.relative, 16383⟩ ++
      lineName .row ⟨.absolute, 1048575⟩) = "'A1''s'!XFD$1048576".toList := by
    decide +kernel
  rw [htext] at hread
  exact ⟨hl, hcolumn, hrow, hread⟩

end GridFormula
