import GridFormula.Proofs.Edit.Frame
import GridFormula.Proofs.Formula.Canonical
import GridFormula.Proofs.Formula.Contents
import GridFormula.Proofs.Formula.Legible

/-!
# What is read lies on the sheet

A reference that is written beyond the sheet is not read as a reference, and an offset that leads
beyond it is lost. So all that a formula refers to when it has been read lies on the sheet. The two
ends of an area are put in order, and they are on one sheet, which is written if and only if there
is one. Offsets are kept in 32 bits; on a sheet of at most 2³¹ rows and columns these suffice.
-/

namespace GridFormula

/-- A line that does not come before the first one and, if a locale is given, not behind the last
one of its sheets. -/
def OnSheet (limit : Option Locale) (axis : Axis) (i : Int) : Prop :=
  0 ≤ i ∧ ∀ l ∈ limit, i < l.count axis

/-- A line between two on the sheet is on the sheet. -/
lemma OnSheet.of_between {limit : Option Locale} {axis : Axis} {i j k : Int}
    (hi : OnSheet limit axis i) (hk : OnSheet limit axis k) (hij : i ≤ j) (hjk : j ≤ k) :
    OnSheet limit axis j :=
  ⟨hi.1.trans hij, fun l hl => lt_of_le_of_lt hjk (hk.2 l hl)⟩

/-- A line within the limits is within fewer of them. -/
lemma OnSheet.mono {limit limit' : Option Locale} {axis : Axis} {i : Int}
    (h : OnSheet limit axis i) (hle : ∀ l ∈ limit', l ∈ limit) : OnSheet limit' axis i :=
  ⟨h.1, fun l hl => h.2 l (hle l hl)⟩

/-- Seen from `base`, the reference means a cell on the sheet. -/
def CellRef.IsSound (limit : Option Locale) (base : Cell) (r : CellRef) : Prop :=
  ∀ axis, OnSheet limit axis ((r.resolve base).along axis)

/-- The ends of the area lie on one sheet, which is written if and only if there is one, and seen
from `base` they are in order and on the sheet. -/
structure Area.IsSound {α : Type} [Qualified α] (fr : Frame α) (limit : Option Locale)
    (base : Cell) (r : Area α) : Prop where
  coherent : r.IsCoherent
  ordered : ∀ axis, ∀ g ∈ fr.grip? axis,
    g.index r.first (base.along axis) ≤ g.index r.last (base.along axis)
  first : ∀ axis, ∀ g ∈ fr.grip? axis, OnSheet limit axis (g.index r.first (base.along axis))
  last : ∀ axis, ∀ g ∈ fr.grip? axis, OnSheet limit axis (g.index r.last (base.along axis))

/-- A sound area is proper. -/
lemma Area.IsSound.isProper {α : Type} [Qualified α] {fr : Frame α} {limit : Option Locale}
    {base : Cell} {r : Area α} (h : r.IsSound fr limit base) : r.IsProper fr base :=
  ⟨h.coherent.sheets, h.ordered⟩

/-- An area between two cells on the sheet, one of which is above and left of the other. -/
lemma Area.isSound_cells {limit : Option Locale} {base : Cell} {r : Area CellRef}
    (hcoherent : r.IsCoherent)
    (hrow : (r.first.resolve base).row ≤ (r.last.resolve base).row)
    (hcolumn : (r.first.resolve base).column ≤ (r.last.resolve base).column)
    (hfirst : r.first.IsSound limit base) (hlast : r.last.IsSound limit base) :
    r.IsSound CellRef.frame limit base := by
  refine ⟨hcoherent, ?_, ?_, ?_⟩
  all_goals rintro axis _ ⟨⟩
  · cases axis with
    | row => exact hrow
    | column => exact hcolumn
  · have h := hfirst axis
    rwa [CellRef.along_resolve] at h
  · have h := hlast axis
    rwa [CellRef.along_resolve] at h

/-- Rows or columns are sound if they are coherent, in order and on the sheet. -/
lemma Area.isSound_lines {limit : Option Locale} {base : Cell} {axis : Axis} {r : Area LineRef}
    (hcoherent : r.IsCoherent)
    (hle : (r.first.resolve axis base).index ≤ (r.last.resolve axis base).index)
    (hfirst : OnSheet limit axis (r.first.resolve axis base).index)
    (hlast : OnSheet limit axis (r.last.resolve axis base).index) :
    r.IsSound (LineRef.frame axis) limit base := by
  refine ⟨hcoherent, ?_, ?_, ?_⟩
  all_goals
    intro other g hg
    obtain ⟨rfl, ⟨⟩⟩ := Option.ite_none_right_eq_some.mp hg
  · exact hle
  · exact hfirst
  · exact hlast

/-- The references in the atom are sound. -/
def Atom.IsSound (limit : Option Locale) (base : Cell) : Atom → Prop
  | .cell r => r.IsSound limit base
  | .cells r => r.IsSound CellRef.frame limit base
  | .lines axis r => r.IsSound (LineRef.frame axis) limit base
  | _ => True

/-- The references in the tree are sound. -/
def Tree.IsSound (limit : Option Locale) (base : Cell) (t : Tree) : Prop :=
  ∀ a ∈ t.atoms, a.IsSound limit base

namespace Site

variable {site : Site} {limit : Option Locale}

/-- A written index that means something means a line on the sheet. -/
lemma onSheet_coord? {axis : Axis} {w : WrittenIndex} {c : Coord}
    (h : site.coord? axis w = some c) :
    OnSheet (some site.locale) axis (c.resolve (site.base.along axis)) := by
  unfold coord? at h
  split at h
  · next hw =>
    cases h
    rw [Coord.resolve_pointingAt]
    refine ⟨Int.natCast_nonneg _, ?_⟩
    rintro l ⟨⟩
    exact Int.ofNat_lt.mpr hw.1
  · cases h

/-- A written cell that means something means a cell on the sheet. -/
lemma isSound_cellRef? {w : WrittenCell} {sheet : Option SheetId} {r : CellRef}
    (h : site.cellRef? w sheet = some r) : r.IsSound (some site.locale) site.base := by
  unfold cellRef? at h
  split at h
  · next hcolumn hrow =>
    cases h
    intro axis
    cases axis with
    | row => exact onSheet_coord? hrow
    | column => exact onSheet_coord? hcolumn
  · cases h

/-- A written line that means something means a line on the sheet. -/
lemma onSheet_lineRef? {axis : Axis} {w : WrittenLine} {sheet : Option SheetId} {r : LineRef}
    (h : site.lineRef? axis w sheet = some r) :
    OnSheet (some site.locale) axis (r.position.resolve (site.base.along axis)) := by
  obtain ⟨position, hposition, rfl⟩ := Option.map_eq_some_iff.mp h
  exact onSheet_coord? hposition

/-- An area put together from two sound references on one sheet is sound. -/
lemma isSound_ofCells {a b : CellRef} {q : Qualification} {base : Cell} {sheet : Option SheetId}
    (ha : a.sheet = sheet) (hb : b.sheet = sheet) (hq : q = .neither ↔ sheet = none)
    (hsa : a.IsSound limit base) (hsb : b.IsSound limit base) :
    (Area.ofCells a b q base).IsSound CellRef.frame limit base := by
  obtain ⟨hrow, hrow'⟩ := Area.inOrder_of (fun c : Coord => c.resolve base.row)
    (P := fun c => OnSheet limit .row (c.resolve base.row)) (hsa .row) (hsb .row)
  obtain ⟨hcolumn, hcolumn'⟩ := Area.inOrder_of (fun c : Coord => c.resolve base.column)
    (P := fun c => OnSheet limit .column (c.resolve base.column)) (hsa .column) (hsb .column)
  have hrows := Area.inOrder_le (fun c : Coord => c.resolve base.row) a.row b.row
  have hcolumns := Area.inOrder_le (fun c : Coord => c.resolve base.column) a.column b.column
  refine Area.isSound_cells (isCoherent_ofCells ha hb hq) hrows hcolumns ?_ ?_
  · intro axis
    cases axis with
    | row => exact hrow
    | column => exact hcolumn
  · intro axis
    cases axis with
    | row => exact hrow'
    | column => exact hcolumn'

/-- Rows or columns put together from two references to lines on one sheet are sound. -/
lemma isSound_ofLines {axis : Axis} {a b : LineRef} {q : Qualification} {base : Cell}
    {sheet : Option SheetId} (ha : a.sheet = sheet) (hb : b.sheet = sheet)
    (hq : q = .neither ↔ sheet = none)
    (hsa : OnSheet limit axis (a.position.resolve (base.along axis)))
    (hsb : OnSheet limit axis (b.position.resolve (base.along axis))) :
    (Area.ofLines axis a b q base).IsSound (LineRef.frame axis) limit base := by
  obtain ⟨hfirst, hlast⟩ := Area.inOrder_of (fun c : Coord => c.resolve (base.along axis))
    (P := fun c => OnSheet limit axis (c.resolve (base.along axis))) hsa hsb
  have hle := Area.inOrder_le (fun c : Coord => c.resolve (base.along axis)) a.position b.position
  exact Area.isSound_lines (isCoherent_ofLines ha hb hq) hle hfirst hlast

/-! ## Offsets -/

/-- A cell whose indices lie on the sheet. -/
lemma isSound_of_bounds {r : CellRef} (hrow : 0 ≤ (r.resolve site.base).row)
    (hrow' : (r.resolve site.base).row < site.locale.rowCount)
    (hcolumn : 0 ≤ (r.resolve site.base).column)
    (hcolumn' : (r.resolve site.base).column < site.locale.columnCount) :
    r.IsSound (some site.locale) site.base := by
  intro axis
  cases axis with
  | row =>
    refine ⟨hrow, ?_⟩
    rintro l ⟨⟩
    exact hrow'
  | column =>
    refine ⟨hcolumn, ?_⟩
    rintro l ⟨⟩
    exact hcolumn'

/-- What an offset from a sound reference comes to is sound. -/
lemma isSound_offsetFrom (hrows : site.locale.rowCount ≤ 0x80000000)
    (hcolumns : site.locale.columnCount ≤ 0x80000000) {origin : CellRef}
    (horigin : origin.IsSound (some site.locale) site.base) (rows columns : Int)
    {height width : Int} (hheight : 1 ≤ height) (hwidth : 1 ≤ width) :
    (site.offsetFrom origin rows columns height width).IsSound (some site.locale) site.base := by
  have hrow : 0 ≤ (origin.resolve site.base).row := (horigin .row).1
  have hrow' : (origin.resolve site.base).row < site.locale.rowCount := (horigin .row).2 _ rfl
  have hcolumn : 0 ≤ (origin.resolve site.base).column := (horigin .column).1
  have hcolumn' : (origin.resolve site.base).column < site.locale.columnCount :=
    (horigin .column).2 _ rfl
  unfold offsetFrom
  dsimp only
  split
  · trivial
  · next hin =>
    obtain ⟨htop, hin⟩ := not_or.mp hin
    obtain ⟨hleft, hin⟩ := not_or.mp hin
    obtain ⟨hbottom, hright⟩ := not_or.mp hin
    rw [narrowed_eq_self (n := rows) ⟨by omega, by omega⟩,
      narrowed_eq_self (n := columns) ⟨by omega, by omega⟩,
      narrowed_eq_self (n := width - 1) ⟨by omega, by omega⟩,
      narrowed_eq_self (n := height - 1) ⟨by omega, by omega⟩]
    have hshift : ∀ (r : CellRef) right down,
        ((r.shift right down).resolve site.base).row = (r.resolve site.base).row + down ∧
          ((r.shift right down).resolve site.base).column =
            (r.resolve site.base).column + right :=
      fun r right down => ⟨Coord.resolve_shift _ _ _, Coord.resolve_shift _ _ _⟩
    obtain ⟨hfirstRow, hfirstColumn⟩ := hshift origin columns rows
    obtain ⟨hlastRow, hlastColumn⟩ :=
      hshift (origin.shift columns rows) (width - 1) (height - 1)
    have hfirst : (origin.shift columns rows).IsSound (some site.locale) site.base := by
      apply isSound_of_bounds <;> omega
    have hlast : ((origin.shift columns rows).shift (width - 1) (height - 1)).IsSound
        (some site.locale) site.base := by
      apply isSound_of_bounds <;> omega
    split
    · exact hfirst
    · refine Area.isSound_cells ⟨rfl, ?_⟩ ?_ ?_ hfirst hlast
      · have hsheet : Qualified.sheet (origin.shift columns rows) = origin.sheet := rfl
        rw [hsheet]
        cases origin.sheet <;> simp
      · dsimp only
        omega
      · dsimp only
        omega

/-- An offset from sound arguments comes to a sound atom. -/
lemma isSound_offset (hrows : site.locale.rowCount ≤ 0x80000000)
    (hcolumns : site.locale.columnCount ≤ 0x80000000) {ts : List Tree} {a : Atom}
    (hts : ∀ t ∈ ts, t.IsSound (some site.locale) site.base) (h : site.offset ts = .ok a) :
    a.IsSound (some site.locale) site.base := by
  obtain ⟨lead, origin, numbers, rows, columns, height, width, rfl, hheight, hwidth, rfl⟩ :=
    Reader.offset_eq_ok h
  have horigin : (Atom.cell origin).IsSound (some site.locale) site.base :=
    hts _ List.mem_cons_self _ (by simp)
  exact isSound_offsetFrom hrows hcolumns horigin rows columns hheight hwidth

/-! ## Formulas -/

/-- What is read at the site is sound. -/
lemma ensures_isSound (site : Site) (hrows : site.locale.rowCount ≤ 0x80000000)
    (hcolumns : site.locale.columnCount ≤ 0x80000000) :
    site.Ensures (Atom.IsSound (some site.locale) site.base) where
  constant a ha := by
    cases a with
    | cell _ | cells _ | lines _ _ => exact absurd trivial ha
    | _ => trivial
  cell hr := isSound_cellRef? hr
  cells hr hr' hsheet hq := isSound_ofCells hsheet rfl hq hr hr'
  lines hr hr' hq := isSound_ofLines (sheet_of_lineRef? hr) (sheet_of_lineRef? hr') hq
    (onSheet_lineRef? hr) (onSheet_lineRef? hr')
  offset := isSound_offset hrows hcolumns

/-- Whatever is read, all that it refers to lies on the sheet. -/
theorem isSound_read (site : Site) (hrows : site.locale.rowCount ≤ 0x80000000)
    (hcolumns : site.locale.columnCount ≤ 0x80000000) (text : Text) :
    (site.read text).tree.IsSound (some site.locale) site.base :=
  forall_atoms_read (site.ensures_isSound hrows hcolumns) text

end Site

end GridFormula
