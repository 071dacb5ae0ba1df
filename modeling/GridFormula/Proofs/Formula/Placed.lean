import GridFormula.Proofs.Formula.OnSheet
import GridFormula.Proofs.Formula.WrittenReference
import GridFormula.Proofs.Grid.Sheets

/-!
# What is read can be written in its cell

A reference names a sheet by a name that means one. Where every such sheet has a name of its own,
all that a formula refers to when it has been read lies on sheets with names, as far as they reach.
So nothing of it is lost when it is written in the same cell, in any locale with sheets of the same
size.
-/

namespace GridFormula

/-- Every name that means a sheet means one with a name. -/
def SheetNames.IsComplete (sheets : SheetNames) : Prop :=
  ∀ name id, sheets.id? name = some id → (sheets.name? id).isSome = true

/-- It is so in every workbook that comes about by adding, removing and renaming sheets. -/
lemma Sheets.IsReachable.isComplete_directory {fold : Text → Text} {s : Sheets fold}
    (h : s.IsReachable) : s.directory.IsComplete := by
  intro name id hid
  obtain ⟨own, hown, -⟩ := h.isComplete id name hid
  exact Option.isSome_iff_exists.mpr ⟨own, hown⟩

/-- The sheets that the atom refers to have names. -/
def Atom.IsKnown (sheets : SheetNames) : Atom → Prop
  | .cell r => sheets.Knows r.sheet
  | .cells r => sheets.Knows r.first.sheet ∧ sheets.Knows r.last.sheet
  | .lines _ r => sheets.Knows r.first.sheet ∧ sheets.Knows r.last.sheet
  | _ => True

/-- What can be written at a cell lies on sheets with names. -/
lemma Atom.IsPlaced.isKnown {w : Wording} {base : Cell} {a : Atom} (h : a.IsPlaced w base) :
    a.IsKnown w.sheets := by
  cases a with
  | cell r => exact h.2
  | cells r => exact h.2.2.2.2
  | lines axis r => exact h.2.2.2
  | _ => trivial

/-! ## Writing -/

namespace Wording

variable {w : Wording} {base : Cell}

/-- The front of a sheet with a name can be written. -/
lemma exists_sheetFront_eq_ok {sheet : Option SheetId} (h : w.sheets.Knows sheet)
    (isWritten : Bool) : ∃ s, w.sheetFront isWritten sheet = .ok s := by
  unfold sheetFront
  split
  · next id =>
    obtain ⟨name, hname⟩ := Option.isSome_iff_exists.mp (h id rfl)
    rw [hname]
    exact ⟨_, rfl⟩
  · exact ⟨_, rfl⟩

/-- A reference to a cell of a sheet with a name can be written. -/
lemma exists_cell_eq_ok {r : CellRef} (h : w.sheets.Knows r.sheet) (isWritten : Bool) :
    ∃ s, w.cell base isWritten r = .ok s := by
  obtain ⟨front, hfront⟩ := exists_sheetFront_eq_ok h isWritten
  rw [cell, hfront]
  exact ⟨_, rfl⟩

/-- A reference to a line of a sheet with a name can be written. -/
lemma exists_line_eq_ok {axis : Axis} {r : LineRef} (h : w.sheets.Knows r.sheet)
    (isWritten : Bool) : ∃ s, w.line base axis isWritten r = .ok s := by
  obtain ⟨front, hfront⟩ := exists_sheetFront_eq_ok h isWritten
  rw [line, hfront]
  exact ⟨_, rfl⟩

/-- An area can be written if both of its ends can. -/
lemma exists_area_eq_ok {α : Type} {write : Bool → α → Except WriteFault Text} {r : Area α}
    (hfirst : ∀ isWritten, ∃ s, write isWritten r.first = .ok s)
    (hlast : ∀ isWritten, ∃ s, write isWritten r.last = .ok s) : ∃ s, area write r = .ok s := by
  obtain ⟨s, hs⟩ := hfirst (r.qualification ≠ .neither)
  obtain ⟨t, ht⟩ := hlast (r.qualification = .both)
  rw [area, hs, ht]
  exact ⟨_, rfl⟩

/-- An atom that refers to sheets with names can be written in any cell. -/
lemma exists_atom_eq_ok {a : Atom} (h : a.IsKnown w.sheets) (base : Cell) :
    ∃ s, w.atom base a = .ok s := by
  cases a with
  | cell r =>
    rw [atom]
    split
    · exact exists_cell_eq_ok h true
    · exact ⟨_, rfl⟩
  | cells r =>
    rw [atom]
    split
    · exact exists_area_eq_ok (exists_cell_eq_ok h.1) (exists_cell_eq_ok h.2)
    · exact ⟨_, rfl⟩
  | lines axis r =>
    rw [atom]
    split
    · exact exists_area_eq_ok (exists_line_eq_ok h.1) (exists_line_eq_ok h.2)
    · exact ⟨_, rfl⟩
  | _ => exact ⟨_, rfl⟩

/-- Marks each of which can be written can be written one after the other. -/
lemma exists_marks_eq_ok {ms : List Mark} (h : ∀ m ∈ ms, ∃ s, w.mark base m = .ok s) :
    ∃ s, w.marks base ms = .ok s := by
  induction ms with
  | nil => exact ⟨[], rfl⟩
  | cons m ms ih =>
    obtain ⟨⟨s, hs⟩, hms⟩ := List.forall_mem_cons.mp h
    obtain ⟨t, ht⟩ := ih hms
    exact ⟨s ++ t, by rw [marks, hs, ht]; rfl⟩

/-- A formula that refers to sheets with names can be written in any cell. -/
theorem exists_write_eq_ok {t : Tree} (h : ∀ a ∈ t.atoms, a.IsKnown w.sheets) (base : Cell) :
    ∃ s, w.write t base = .ok s := by
  have hmarks : ∀ m ∈ t.marks, ∃ s, w.mark base m = .ok s := by
    intro m hm
    cases m with
    | atom a => exact exists_atom_eq_ok (h a (List.mem_filterMap.mpr ⟨_, hm, rfl⟩)) base
    | _ => exact ⟨_, rfl⟩
  obtain ⟨s, hs⟩ := exists_marks_eq_ok hmarks
  rw [write, hs]
  exact ⟨_, rfl⟩

end Wording

/-! ## Reading -/

/-- Sound references to sheets with names can be written in their cell. -/
lemma Atom.IsSound.isPlaced {w : Wording} {l : Locale} {base : Cell} {a : Atom}
    (h : a.IsSound (some l) base) (hcount : ∀ axis, l.count axis = w.locale.count axis)
    (hknown : a.IsKnown w.sheets) : a.IsPlaced w base := by
  have hreaches : ∀ {axis : Axis} {c : Coord}, OnSheet (some l) axis (c.resolve (base.along axis)) →
      w.reaches base axis c = true := fun {axis} {c} hc =>
    Wording.reaches_iff.mpr ⟨hc.1, hcount axis ▸ hc.2 l rfl⟩
  have hreachesCell : ∀ {r : CellRef}, r.IsSound (some l) base → w.reachesCell base r = true := by
    intro r hr
    rw [Wording.reachesCell, Bool.and_eq_true]
    exact ⟨hreaches (hr .column), hreaches (hr .row)⟩
  cases a with
  | cell r => exact ⟨hreachesCell h, hknown⟩
  | cells r =>
    have hfirst : r.first.IsSound (some l) base := fun axis => by
      rw [CellRef.along_resolve]
      exact h.first axis _ rfl
    have hlast : r.last.IsSound (some l) base := fun axis => by
      rw [CellRef.along_resolve]
      exact h.last axis _ rfl
    exact ⟨hreachesCell hfirst, hreachesCell hlast, h.ordered .column _ rfl, h.ordered .row _ rfl,
      hknown⟩
  | lines axis r =>
    exact ⟨hreaches (h.first axis _ (if_pos rfl)), hreaches (h.last axis _ (if_pos rfl)),
      h.ordered axis _ (if_pos rfl), hknown⟩
  | _ => trivial

namespace Site

variable {site : Site}

/-- A sheet that is looked up has a name. -/
lemma knows_writtenSheet (hnames : site.sheets.IsComplete) (name : Option Text) :
    site.sheets.Knows (site.writtenSheet name).join := by
  intro id hid
  cases name with
  | none => cases hid
  | some word => exact hnames word id hid

/-- An area put together from references on a sheet with a name lies on such a sheet. -/
lemma isKnown_ofCells {a b : CellRef} {q : Qualification} {base : Cell} {sheet : Option SheetId}
    (ha : a.sheet = sheet) (hb : b.sheet = sheet) (h : site.sheets.Knows sheet) :
    (Atom.cells (.ofCells a b q base)).IsKnown site.sheets := by
  simpa [Atom.IsKnown, Area.ofCells, ha, hb, Area.sheetsInOrder_self] using h

/-- Rows or columns put together from references on a sheet with a name lie on such a sheet. -/
lemma isKnown_ofLines {axis : Axis} {a b : LineRef} {q : Qualification} {base : Cell}
    {sheet : Option SheetId} (ha : a.sheet = sheet) (hb : b.sheet = sheet)
    (h : site.sheets.Knows sheet) :
    (Atom.lines axis (.ofLines axis a b q base)).IsKnown site.sheets := by
  simpa [Atom.IsKnown, Area.ofLines, ha, hb, Area.sheetsInOrder_self] using h

/-- An offset stays on the sheet that it starts from. -/
lemma isKnown_offset {ts : List Tree} {a : Atom}
    (hts : ∀ t ∈ ts, ∀ a ∈ t.atoms, a.IsKnown site.sheets) (h : site.offset ts = .ok a) :
    a.IsKnown site.sheets := by
  obtain ⟨lead, origin, numbers, rows, columns, height, width, rfl, -, -, rfl⟩ :=
    Reader.offset_eq_ok h
  have horigin : site.sheets.Knows origin.sheet :=
    hts _ List.mem_cons_self (.cell origin) (by simp)
  unfold offsetFrom
  dsimp only
  split
  · trivial
  · split
    · exact horigin
    · exact ⟨horigin, horigin⟩

/-- All references that are read lie on sheets with names. -/
lemma ensures_isKnown (hnames : site.sheets.IsComplete) :
    site.Ensures (Atom.IsKnown site.sheets) where
  constant a ha := by
    cases a with
    | cell _ | cells _ | lines _ _ => exact absurd trivial ha
    | _ => trivial
  cell hr := by
    have hsheet := sheet_of_cellRef? hr
    rw [Atom.IsKnown, hsheet]
    exact knows_writtenSheet hnames _
  cells hr _ hsheet _ := isKnown_ofCells hsheet rfl (hsheet ▸ hr)
  lines hr hr' _ := isKnown_ofLines (sheet_of_lineRef? hr) (sheet_of_lineRef? hr')
    (knows_writtenSheet hnames _)
  offset := isKnown_offset

/-- Whatever is read, all that it refers to can be written in its cell. -/
theorem isPlaced_read (site : Site) {w : Wording} (hsheets : w.sheets = site.sheets)
    (hnames : site.sheets.IsComplete)
    (hcount : ∀ axis, site.locale.count axis = w.locale.count axis)
    (hrows : site.locale.rowCount ≤ 0x80000000) (hcolumns : site.locale.columnCount ≤ 0x80000000)
    (text : Text) : ∀ a ∈ (site.read text).tree.atoms, a.IsPlaced w site.base := by
  intro a ha
  have hsound := site.isSound_read hrows hcolumns text a ha
  have hknown : a.IsKnown w.sheets := by
    rw [hsheets]
    exact forall_atoms_read (ensures_isKnown hnames) text a ha
  exact hsound.isPlaced hcount hknown

end Site

end GridFormula
