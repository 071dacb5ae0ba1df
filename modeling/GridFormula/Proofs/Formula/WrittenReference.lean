import GridFormula.Formula.Writer
import GridFormula.Proofs.Formula.Legible
import GridFormula.Proofs.Lexeme.CanonicalReference

/-!
# Written references mean what they meant

A reference is written as it reads in a certain cell. Read in that cell it is the same reference
again, if what it means lies on the sheet and the ends of an area are in order. The sheet in front
is found again where the name of each sheet means this sheet.
-/

namespace GridFormula

open Scan

namespace SheetNames

/-- The name of each sheet means this sheet. -/
def IsConsistent (sheets : SheetNames) : Prop :=
  ∀ id name, sheets.name? id = some name → sheets.id? name = some id

/-- The sheet has a name, if there is one. -/
def Knows (sheets : SheetNames) (sheet : Option SheetId) : Prop :=
  ∀ id ∈ sheet, (sheets.name? id).isSome = true

instance (sheets : SheetNames) (sheet : Option SheetId) : Decidable (sheets.Knows sheet) :=
  Option.decidableForallMem sheet

end SheetNames

/-- Seen from a cell, all that the atom refers to lies on sheets of the workbook, and the ends of an
area are in order. -/
def Atom.IsPlaced (w : Wording) (base : Cell) : Atom → Prop
  | .cell r => w.reachesCell base r = true ∧ w.sheets.Knows r.sheet
  | .cells r =>
    w.reachesCell base r.first = true ∧ w.reachesCell base r.last = true ∧
      r.first.column.resolve base.column ≤ r.last.column.resolve base.column ∧
      r.first.row.resolve base.row ≤ r.last.row.resolve base.row ∧
      w.sheets.Knows r.first.sheet ∧ w.sheets.Knows r.last.sheet
  | .lines axis r =>
    w.reaches base axis r.first.position = true ∧ w.reaches base axis r.last.position = true ∧
      r.first.position.resolve (base.along axis) ≤ r.last.position.resolve (base.along axis) ∧
      w.sheets.Knows r.first.sheet ∧ w.sheets.Knows r.last.sheet
  | _ => True

instance (w : Wording) (base : Cell) : (a : Atom) → Decidable (a.IsPlaced w base)
  | .cell _ => inferInstanceAs (Decidable (_ ∧ _))
  | .cells _ => inferInstanceAs (Decidable (_ ∧ _))
  | .lines _ _ => inferInstanceAs (Decidable (_ ∧ _))
  | .omitted | .number _ | .string _ | .name _ | .errorValue _ | .unreadable _ _ => .isTrue trivial

/-! ## Coordinates -/

/-- The rows and columns of a sheet are written by their canonical spelling. -/
lemma Locale.IsPreset.indexText_lineName {l : Locale} (hl : l.IsPreset) {axis : Axis}
    {w : WrittenIndex} (h : w.index < l.count axis) : IndexText axis w (lineName axis w) := by
  refine Scan.indexText_lineName axis w ?_
  cases axis with
  | column =>
    have hcolumns : l.count .column ≤ 16384 := by rcases hl with rfl | rfl <;> decide
    dsimp only
    omega
  | row =>
    have hrows : l.count .row ≤ 1048576 := by rcases hl with rfl | rfl <;> decide
    dsimp only [greatestRowNumber]
    omega

namespace Coord

/-- A coordinate that is made to point at its own line is the same. -/
lemma pointingAt_resolve (c : Coord) (origin : Int) :
    pointingAt c.anchor (c.resolve origin) origin = c := by
  obtain ⟨anchor, value⟩ := c
  cases anchor with
  | absolute => rfl
  | relative => simp [pointingAt, resolve]

/-- How the coordinate is written in a formula at index `origin`. -/
def toWritten (c : Coord) (origin : Int) : WrittenIndex :=
  ⟨c.anchor, (c.resolve origin).toNat⟩

/-- A coordinate that is not in front of the sheet is written in its canonical spelling. -/
lemma written_eq {c : Coord} {axis : Axis} {origin : Int} (h : 0 ≤ c.resolve origin) :
    c.written axis origin = lineName axis (c.toWritten origin) := by
  obtain ⟨index, hindex⟩ := Int.eq_ofNat_of_zero_le h
  have hcolumn : ColumnName.ofIndex index = ColumnName.letters (index + 1) := by
    rw [ColumnName.ofIndex, if_neg (by omega), Int.toNat_natCast]
  have hrow : Text.ofInt ((index : Int) + 1) = Text.ofNat (index + 1) := rfl
  unfold written toWritten
  dsimp only
  rw [hindex, hcolumn, hrow, Int.toNat_natCast]
  obtain ⟨anchor, value⟩ := c
  cases anchor <;> cases axis <;> rfl

/-- A coordinate on the sheet is written as a row or column. -/
lemma indexText_written {l : Locale} (hl : l.IsPreset) {c : Coord} {axis : Axis} {origin : Int}
    (h : 0 ≤ c.resolve origin) (hcount : c.resolve origin < l.count axis) :
    IndexText axis (c.toWritten origin) (c.written axis origin) := by
  rw [written_eq h]
  refine hl.indexText_lineName ?_
  dsimp only [toWritten]
  omega

end Coord

namespace Site

variable {site : Site}

/-- A written coordinate is read as what was written. -/
lemma coord?_toWritten (hl : site.locale.IsPreset) {c : Coord} {axis : Axis}
    (h : 0 ≤ c.resolve (site.base.along axis))
    (hcount : c.resolve (site.base.along axis) < site.locale.count axis) :
    site.coord? axis (c.toWritten (site.base.along axis)) = some c := by
  have hnat : ((c.resolve (site.base.along axis)).toNat : Int) = c.resolve (site.base.along axis) :=
    Int.toNat_of_nonneg h
  have hlt : (c.resolve (site.base.along axis)).toNat < site.locale.count axis := by omega
  have hgreatest : (c.resolve (site.base.along axis)).toNat ≤ ColumnName.greatestCoordinate :=
    Nat.le_of_lt_succ (Nat.lt_of_lt_of_le hlt (hl.count_le_greatestCoordinate axis))
  rw [coord?, Coord.toWritten, if_pos ⟨hlt, hgreatest⟩, hnat, Coord.pointingAt_resolve]

end Site

namespace Wording

variable {w : Wording} {base : Cell}

/-- A coordinate can be written if its line is on the sheet. -/
lemma reaches_iff {axis : Axis} {c : Coord} : w.reaches base axis c = true ↔
    0 ≤ c.resolve (base.along axis) ∧ c.resolve (base.along axis) < w.locale.count axis := by
  simp [reaches]

/-! ## Sheets -/

/-- A sheet that has a name is written as one, and the name means it. -/
lemma sheetFront_eq_ok (hnames : w.sheets.IsConsistent) {sheet : Option SheetId}
    (h : w.sheets.Knows sheet) (isWritten : Bool) :
    ∃ name p, w.sheetFront isWritten sheet = .ok p ∧ SheetText name p ∧
      name.map w.sheets.id? = (if isWritten then sheet else none).map some := by
  cases isWritten with
  | false => exact ⟨none, [], rfl, .absent, rfl⟩
  | true =>
    cases sheet with
    | none => exact ⟨none, [], rfl, .absent, rfl⟩
    | some id =>
      obtain ⟨name, hname⟩ := Option.isSome_iff_exists.mp (h id rfl)
      exact ⟨some name, SheetName.written name ++ ['!'], by rw [sheetFront, hname],
        sheetText_written name, congrArg some (hnames id name hname)⟩

/-! ## Cells and lines -/

/-- A cell is written as one, and what is written means it. -/
lemma cell_eq_ok (hl : w.locale.IsPreset) (hnames : w.sheets.IsConsistent) {r : CellRef}
    (hreaches : w.reachesCell base r = true) (hknown : w.sheets.Knows r.sheet)
    (isWritten : Bool) :
    ∃ c t, w.cell base isWritten r = .ok t ∧ CellText c t ∧
      c.sheet.map w.sheets.id? = (if isWritten then r.sheet else none).map some ∧
      ∀ sheet, Site.cellRef? ⟨w.locale, w.sheets, base⟩ c sheet = some { r with sheet } := by
  obtain ⟨name, p, hfront, hp, hname⟩ := sheetFront_eq_ok hnames hknown isWritten
  obtain ⟨hcolumn, hrow⟩ := (Bool.and_eq_true _ _).mp hreaches
  obtain ⟨hcolumn, hcolumn'⟩ := reaches_iff.mp hcolumn
  obtain ⟨hrow, hrow'⟩ := reaches_iff.mp hrow
  refine ⟨⟨name, r.column.toWritten base.column, r.row.toWritten base.row⟩,
    p ++ (r.column.written .column base.column ++ r.row.written .row base.row), ?_, ?_, hname, ?_⟩
  · rw [cell, hfront]
    exact congrArg Except.ok (List.append_assoc _ _ _)
  · exact .mk hp (Coord.indexText_written hl hcolumn hcolumn') (Coord.indexText_written hl hrow hrow')
  · intro sheet
    have hc : Site.coord? ⟨w.locale, w.sheets, base⟩ .column (r.column.toWritten base.column) =
        some r.column := Site.coord?_toWritten hl hcolumn hcolumn'
    have hr : Site.coord? ⟨w.locale, w.sheets, base⟩ .row (r.row.toWritten base.row) =
        some r.row := Site.coord?_toWritten hl hrow hrow'
    rw [Site.cellRef?, hc, hr]

/-- An end of a run of lines is written as one, and what is written means it. -/
lemma line_eq_ok (hl : w.locale.IsPreset) (hnames : w.sheets.IsConsistent) {axis : Axis}
    {r : LineRef} (hreaches : w.reaches base axis r.position = true)
    (hknown : w.sheets.Knows r.sheet) (isWritten : Bool) :
    ∃ name p c, w.line base axis isWritten r = .ok (p ++ c) ∧ SheetText name p ∧
      IndexText axis (r.position.toWritten (base.along axis)) c ∧
      name.map w.sheets.id? = (if isWritten then r.sheet else none).map some ∧
      ∀ sheet, Site.lineRef? ⟨w.locale, w.sheets, base⟩ axis
        ⟨name, r.position.toWritten (base.along axis)⟩ sheet = some { r with sheet } := by
  obtain ⟨name, p, hfront, hp, hname⟩ := sheetFront_eq_ok hnames hknown isWritten
  obtain ⟨h, hcount⟩ := reaches_iff.mp hreaches
  refine ⟨name, p, r.position.written axis (base.along axis), ?_, hp,
    Coord.indexText_written hl h hcount, hname, ?_⟩
  · rw [line, hfront]
    rfl
  · intro sheet
    have hc : Site.coord? ⟨w.locale, w.sheets, base⟩ axis
        (r.position.toWritten (base.along axis)) = some r.position :=
      Site.coord?_toWritten hl h hcount
    rw [Site.lineRef?, hc]
    rfl

/-! ## Areas -/

/-- The sheets written in front of the ends of an area come to its sheet. -/
lemma compare_of_isCoherent {α : Type} [Qualified α] {r : Area α} (h : r.IsCoherent) :
    EndSheets.compare ((if r.qualification ≠ .neither then Qualified.sheet r.first else none).map some)
      ((if r.qualification = .both then Qualified.sheet r.last else none).map some) =
      .agreed (Qualified.sheet r.first) r.qualification := by
  rw [h.sheets]
  cases hq : r.qualification with
  | neither =>
    rw [h.qualified.mp hq]
    rfl
  | first =>
    cases hsheet : Qualified.sheet r.first with
    | none => cases hq.symm.trans (h.qualified.mpr hsheet)
    | some id => rfl
  | both =>
    cases hsheet : Qualified.sheet r.first with
    | none => cases hq.symm.trans (h.qualified.mpr hsheet)
    | some id => simp [EndSheets.compare]

end Wording

namespace Area

/-- A coherent area of cells with its ends in order is put together from them. -/
lemma ofCells_eq_self {r : Area CellRef} {base : Cell} (h : r.IsCoherent)
    (hcolumns : r.first.column.resolve base.column ≤ r.last.column.resolve base.column)
    (hrows : r.first.row.resolve base.row ≤ r.last.row.resolve base.row) :
    ofCells r.first r.last r.qualification base = r := by
  obtain ⟨⟨column, row, sheet⟩, ⟨column', row', sheet'⟩, q⟩ := r
  obtain rfl : sheet' = sheet := h.sheets
  have hcolumns := inOrder_eq_self (fun c : Coord => c.resolve base.column) hcolumns
  have hrows := inOrder_eq_self (fun c : Coord => c.resolve base.row) hrows
  simp only [ofCells, hcolumns, hrows, sheetsInOrder_self]

/-- Coherent rows or columns with their ends in order are put together from them. -/
lemma ofLines_eq_self {axis : Axis} {r : Area LineRef} {base : Cell} (h : r.IsCoherent)
    (hpositions : r.first.position.resolve (base.along axis) ≤
      r.last.position.resolve (base.along axis)) :
    ofLines axis r.first r.last r.qualification base = r := by
  obtain ⟨⟨position, sheet⟩, ⟨position', sheet'⟩, q⟩ := r
  obtain rfl : sheet' = sheet := h.sheets
  have hpositions := inOrder_eq_self (fun c : Coord => c.resolve (base.along axis)) hpositions
  simp only [ofLines, hpositions, sheetsInOrder_self]

end Area

namespace Wording

variable {w : Wording} {base : Cell}

/-- A reference to a cell is written as a cell that is read as the reference. -/
theorem atom_cell (hl : w.locale.IsPreset) (hnames : w.sheets.IsConsistent) {r : CellRef}
    (h : (Atom.cell r).IsPlaced w base) :
    ∃ c t, w.atom base (.cell r) = .ok t ∧ CellText c t ∧
      Site.cell ⟨w.locale, w.sheets, base⟩ c t = .cell r := by
  obtain ⟨hreaches, hknown⟩ := h
  obtain ⟨c, t, hwrite, ht, hsheet, href⟩ := cell_eq_ok hl hnames hreaches hknown true
  refine ⟨c, t, by rw [atom, if_pos hreaches, hwrite], ht, ?_⟩
  have hwritten : Site.writtenSheet ⟨w.locale, w.sheets, base⟩ c.sheet = r.sheet.map some := hsheet
  have hjoin : (r.sheet.map some).join = r.sheet := by cases r.sheet <;> rfl
  rw [Site.cell, hwritten]
  split
  · next heq => cases hr : r.sheet <;> rw [hr] at heq <;> cases heq
  · rw [hjoin, href]

/-- A reference to an area of cells is written as two cells with a colon between them, which are
read as the reference. -/
theorem atom_cells (hl : w.locale.IsPreset) (hnames : w.sheets.IsConsistent) {r : Area CellRef}
    (hcoherent : r.IsCoherent) (h : (Atom.cells r).IsPlaced w base) :
    ∃ c d s t, w.atom base (.cells r) = .ok (s ++ ':' :: t) ∧ CellText c s ∧ CellText d t ∧
      Site.cells? ⟨w.locale, w.sheets, base⟩ c d (s ++ ':' :: t) = some (.cells r) := by
  obtain ⟨hfirst, hlast, hcolumns, hrows, hknown, hknown'⟩ := h
  obtain ⟨c, s, hwrite, hs, hsheet, href⟩ :=
    cell_eq_ok hl hnames hfirst hknown (r.qualification ≠ .neither)
  obtain ⟨d, t, hwrite', ht, hsheet', href'⟩ :=
    cell_eq_ok hl hnames hlast hknown' (r.qualification = .both)
  have hreaches : (w.reachesCell base r.first && w.reachesCell base r.last) = true := by
    rw [hfirst, hlast]
    rfl
  refine ⟨c, d, s, t, ?_, hs, ht, ?_⟩
  · rw [atom, if_pos hreaches, area, hwrite, hwrite']
    rfl
  · have hcompare : EndSheets.compare (Site.writtenSheet ⟨w.locale, w.sheets, base⟩ c.sheet)
        (Site.writtenSheet ⟨w.locale, w.sheets, base⟩ d.sheet) =
        .agreed r.first.sheet r.qualification := by
      simp only [decide_eq_true_eq] at hsheet hsheet'
      rw [Site.writtenSheet, Site.writtenSheet, hsheet, hsheet']
      exact compare_of_isCoherent hcoherent
    have hsheets : r.first.sheet = r.last.sheet := hcoherent.sheets.symm
    have hlast' := (href' r.first.sheet).trans (show _ = some r.last by rw [hsheets])
    refine (Site.area?_eq_some_iff.mpr (.found hcompare (href _) hlast')).trans ?_
    rw [Area.ofCells_eq_self hcoherent hcolumns hrows]

/-- A reference to a run of lines is written as one that is read as the reference. -/
theorem atom_lines (hl : w.locale.IsPreset) (hnames : w.sheets.IsConsistent) {axis : Axis}
    {r : Area LineRef} (hcoherent : r.IsCoherent) (h : (Atom.lines axis r).IsPlaced w base) :
    ∃ c d t, w.atom base (.lines axis r) = .ok t ∧ LinesText axis c d t ∧
      Site.lines? ⟨w.locale, w.sheets, base⟩ axis c d t = some (.lines axis r) := by
  obtain ⟨hfirst, hlast, hpositions, hknown, hknown'⟩ := h
  obtain ⟨name, p, s, hwrite, hp, hs, hsheet, href⟩ :=
    line_eq_ok hl hnames hfirst hknown (r.qualification ≠ .neither)
  obtain ⟨name', q, t, hwrite', hq, ht, hsheet', href'⟩ :=
    line_eq_ok hl hnames hlast hknown' (r.qualification = .both)
  have hreaches : (w.reaches base axis r.first.position && w.reaches base axis r.last.position) =
      true := by
    rw [hfirst, hlast]
    rfl
  refine ⟨_, _, p ++ (s ++ ':' :: (q ++ t)), ?_, .mk hp hs hq ht, ?_⟩
  · rw [atom, if_pos hreaches, area, hwrite, hwrite']
    exact congrArg Except.ok (List.append_assoc _ _ _)
  · have hcompare : EndSheets.compare (Site.writtenSheet ⟨w.locale, w.sheets, base⟩ name)
        (Site.writtenSheet ⟨w.locale, w.sheets, base⟩ name') =
        .agreed r.first.sheet r.qualification := by
      simp only [decide_eq_true_eq] at hsheet hsheet'
      rw [Site.writtenSheet, Site.writtenSheet, hsheet, hsheet']
      exact compare_of_isCoherent hcoherent
    have hsheets : r.first.sheet = r.last.sheet := hcoherent.sheets.symm
    have hlast' := (href' r.first.sheet).trans (show _ = some r.last by rw [hsheets])
    refine (Site.area?_eq_some_iff.mpr (.found hcompare (href _) hlast')).trans ?_
    rw [Area.ofLines_eq_self hcoherent hpositions]

end Wording

end GridFormula
