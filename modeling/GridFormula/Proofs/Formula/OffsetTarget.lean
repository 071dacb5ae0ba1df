import GridFormula.Proofs.Formula.OffsetText
import GridFormula.Proofs.Formula.OnSheet
import GridFormula.Proofs.Formula.Reproducing

/-!
# What an offset leads to

Where an offset leads is found from the cell that is written, wherever the formula stands. Inside
the sheet the offset becomes a reference to just these cells, with the sheet and the kinds of
coordinates of the written cell, and beyond it the reference is lost. On sheets of at most 2³¹ rows
and columns nothing is lost by keeping the steps in 32 bits. Two cells of one sheet are the corners
of the area between them, whichever of them comes first.
-/

namespace GridFormula

/-! ## The target -/

/-- Whether the rectangle lies inside a sheet. -/
def Locale.encloses (l : Locale) (r : Rect) : Bool :=
  0 ≤ r.first.row && 0 ≤ r.first.column && r.last.row < l.rowCount && r.last.column < l.columnCount

namespace Site

variable {site : Site} {w : WrittenCell} {o : OffsetSteps}

/-- The sheet in front of a written cell, if there is one. -/
def namedSheet (site : Site) (w : WrittenCell) : Option SheetId :=
  (site.writtenSheet w.sheet).join

/-- The cell that is written. -/
def namedCell (site : Site) (w : WrittenCell) : Cell where
  sheet := (site.namedSheet w).getD site.base.sheet
  column := w.column.index
  row := w.row.index

/-- The cells that an offset from a written cell leads to. -/
def offsetTarget (site : Site) (w : WrittenCell) (o : OffsetSteps) : Rect :=
  let start := site.namedCell w
  let top := start.row + o.rows
  let left := start.column + o.columns
  { first := ⟨start.sheet, left, top⟩
    last := ⟨start.sheet, left + o.width - 1, top + o.height - 1⟩ }

/-- The reference has the kinds of coordinates and the sheet with which a cell is written. -/
structure IsWrittenLike (site : Site) (w : WrittenCell) (r : CellRef) : Prop where
  column : r.column.anchor = w.column.anchor
  row : r.row.anchor = w.row.anchor
  sheet : r.sheet = site.namedSheet w

/-- The atom that an offset from a written cell becomes. Inside the sheet it refers to the cells
that the offset leads to, in the way in which the written cell does. -/
structure IsOffset (site : Site) (w : WrittenCell) (o : OffsetSteps) (a : Atom) : Prop where
  cell : site.locale.encloses (site.offsetTarget w o) = true → o.height = 1 ∧ o.width = 1 →
    ∃ r, a = .cell r ∧ site.IsWrittenLike w r ∧
      r.resolve site.base = (site.offsetTarget w o).first
  cells : site.locale.encloses (site.offsetTarget w o) = true → ¬(o.height = 1 ∧ o.width = 1) →
    ∃ r, a = .cells r ∧ site.IsWrittenLike w r.first ∧ site.IsWrittenLike w r.last ∧
      r.qualification = (if w.sheet.isSome then .first else .neither) ∧
        r.rect site.base = site.offsetTarget w o
  lost : site.locale.encloses (site.offsetTarget w o) = false → a = .errorValue .lostReference

/-- A written cell is found if its sheet is known, where it names one, and its indices are in the
limits. -/
lemma findsCell_iff : site.findsCell w = true ↔ site.writtenSheet w.sheet ≠ some none ∧
    w.column.index < site.locale.columnCount ∧ w.row.index < site.locale.rowCount := by
  simp only [findsCell, hasCell, hasLine, Bool.and_eq_true, decide_eq_true_eq]
  exact Iff.rfl

/-- A sheet that is written is found. -/
lemma isSome_namedSheet (h : site.findsCell w = true) :
    (site.namedSheet w).isSome = w.sheet.isSome := by
  obtain ⟨hsheet, -⟩ := findsCell_iff.mp h
  unfold namedSheet
  unfold writtenSheet at hsheet ⊢
  cases hname : w.sheet with
  | none => rfl
  | some name =>
    rw [hname, Option.map_some] at hsheet
    rw [Option.map_some]
    cases hid : site.sheets.id? name with
    | none => exact absurd (congrArg some hid) hsheet
    | some id => rfl

/-- A cell of a sheet with at most 2³¹ rows and columns is read as the reference to it. -/
lemma cell_of_findsCell (hrows : site.locale.rowCount ≤ 0x80000000)
    (hcolumns : site.locale.columnCount ≤ 0x80000000) (h : site.findsCell w = true) (raw : Text) :
    site.cell w raw = .cell (site.cellRef w (site.namedSheet w)) := by
  have hcount : ∀ axis, site.locale.count axis ≤ ColumnName.greatestCoordinate + 1 := by
    intro axis
    cases axis
    · exact hrows
    · exact hcolumns
  obtain ⟨hsheet, hhas⟩ := (Bool.and_eq_true _ _).mp h
  unfold cell
  split
  · next hnone => exact absurd hnone (of_decide_eq_true hsheet)
  · rw [cellRef?_eq hcount, if_pos hhas]
    rfl

/-- The reference of a written cell means the cell that is named. -/
@[simp] lemma resolve_cellRef (site : Site) (w : WrittenCell) :
    (site.cellRef w (site.namedSheet w)).resolve site.base = site.namedCell w :=
  Cell.ext rfl (site.resolve_coord .column w.column) (site.resolve_coord .row w.row)

/-- The reference of a written cell has its `$` signs. -/
lemma isWrittenLike_cellRef (site : Site) (w : WrittenCell) :
    site.IsWrittenLike w (site.cellRef w (site.namedSheet w)) :=
  ⟨rfl, rfl, rfl⟩

/-- A step within the sheet changes neither the kinds of the coordinates nor the sheet. -/
lemma IsWrittenLike.shift {r : CellRef} (h : site.IsWrittenLike w r) (right down : Int) :
    site.IsWrittenLike w (r.shift right down) :=
  ⟨h.column, h.row, h.sheet⟩

/-- Moving a reference moves the cell that it means. -/
lemma resolve_shift (r : CellRef) (base : Cell) (right down : Int) :
    (r.shift right down).resolve base =
      ⟨(r.resolve base).sheet, (r.resolve base).column + right, (r.resolve base).row + down⟩ :=
  Cell.ext rfl (Coord.resolve_shift _ _ _) (Coord.resolve_shift _ _ _)

/-- An offset from a written cell leads to its target, as long as the steps are kept in 32 bits. -/
lemma isOffset_offsetFrom (hrows : site.locale.rowCount ≤ 0x80000000)
    (hcolumns : site.locale.columnCount ≤ 0x80000000) (hw : site.findsCell w = true)
    (hheight : 1 ≤ o.height) (hwidth : 1 ≤ o.width) :
    site.IsOffset w o (site.offsetFrom (site.cellRef w (site.namedSheet w)) o.rows o.columns o.height
      o.width) := by
  obtain ⟨-, hcolumn, hrow⟩ := findsCell_iff.mp hw
  have hin : site.locale.encloses (site.offsetTarget w o) = true ↔
      0 ≤ (w.row.index : Int) + o.rows ∧ 0 ≤ (w.column.index : Int) + o.columns ∧
        w.row.index + o.rows + o.height - 1 < site.locale.rowCount ∧
          w.column.index + o.columns + o.width - 1 < site.locale.columnCount := by
    simp only [Locale.encloses, Bool.and_eq_true, decide_eq_true_eq, and_assoc]
    exact Iff.rfl
  -- Either the target leaves the sheet, or every step is shorter than the sheet and fits in 32
  -- bits.
  have hstart := site.resolve_cellRef w
  unfold offsetFrom
  rw [hstart]
  dsimp only
  split
  · next hout =>
    have hout : site.locale.encloses (site.offsetTarget w o) = false := by
      rw [Bool.eq_false_iff, Ne, hin]
      simp only [namedCell] at hout
      omega
    exact ⟨fun h => absurd h (by simp [hout]), fun h => absurd h (by simp [hout]), fun _ => rfl⟩
  · next hinside =>
    simp only [namedCell] at hinside
    have hinside' : site.locale.encloses (site.offsetTarget w o) = true := hin.mpr (by omega)
    rw [narrowed_eq_self (n := o.rows) ⟨by omega, by omega⟩,
      narrowed_eq_self (n := o.columns) ⟨by omega, by omega⟩,
      narrowed_eq_self (n := o.width - 1) ⟨by omega, by omega⟩,
      narrowed_eq_self (n := o.height - 1) ⟨by omega, by omega⟩]
    have hlike := (site.isWrittenLike_cellRef w).shift o.columns o.rows
    have hfirst : ((site.cellRef w (site.namedSheet w)).shift o.columns o.rows).resolve site.base =
        (site.offsetTarget w o).first := by
      rw [resolve_shift, hstart]
      rfl
    split
    · next hsize =>
      exact ⟨fun _ _ => ⟨_, rfl, hlike, hfirst⟩, fun _ h => absurd hsize h,
        fun h => absurd hinside' (by simp [h])⟩
    · next hsize =>
      refine ⟨fun _ h => absurd h hsize, fun _ _ => ⟨_, rfl, hlike, hlike.shift _ _, ?_, ?_⟩,
        fun h => absurd hinside' (by simp [h])⟩
      · have hsheet : ((site.cellRef w (site.namedSheet w)).sheet).isSome = w.sheet.isSome :=
          isSome_namedSheet hw
        rw [hsheet]
      · have hlast : (((site.cellRef w (site.namedSheet w)).shift o.columns o.rows).shift
            (o.width - 1) (o.height - 1)).resolve site.base = (site.offsetTarget w o).last := by
          rw [resolve_shift, hfirst]
          refine Cell.ext rfl ?_ ?_
          · simp only [offsetTarget]
            omega
          · simp only [offsetTarget]
            omega
        rw [Area.rect, hfirst, hlast]
        refine Rect.spanned_eq_self rfl ?_ ?_
        · simp only [offsetTarget]
          omega
        · simp only [offsetTarget]
          omega

end Site

/-! ## Areas between two ends -/

section

open Reader

variable {site : Site} {e e' : AreaEnd}

/-- Two cells of one sheet are joined to the area between them. -/
lemma Site.exists_joined {a b : CellRef} (hsheet : a.sheet = b.sheet) :
    ∃ r, (∀ raw, joined site raw (.cell a) (.cell b) = .ok (.cells r)) ∧
      r.rect site.base = .spanned (a.resolve site.base) (b.resolve site.base) := by
  have hrect := fun q => Area.rect_ofCells q site.base hsheet
  obtain ⟨column, row, sheet⟩ := a
  obtain ⟨column', row', sheet'⟩ := b
  obtain rfl : sheet = sheet' := hsheet
  cases sheet with
  | none => exact ⟨_, fun _ => rfl, hrect .neither⟩
  | some s =>
    have hagree : EndSheets.compare (some (some s)) (some (some s)) = .agreed (some s) .both :=
      if_pos rfl
    refine ⟨_, fun raw => ?_, hrect .both⟩
    simp only [joined, Option.map_some, hagree]

/-- Where one of two ends is an offset, what they mean is joined. -/
lemma Site.area_eq_joined {a : Atom} (h : e = .resolved a ∨ e' = .resolved a) (raw : Text) :
    area site raw e e' = joined site raw (e.atom site) (e'.atom site) := by
  rcases h with rfl | rfl
  · rfl
  · cases e <;> rfl

end

end GridFormula
