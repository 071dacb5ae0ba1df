import GridFormula.Locale.Presets
import GridFormula.Proofs.Formula.AreaReading
import GridFormula.Proofs.Formula.OffsetFlow
import GridFormula.Proofs.Lexeme.Images
import GridFormula.Proofs.Reference.Ordering

/-!
# What the marks of a formula consist of

A tree could hold any texts as numbers, names and functions. The tree of a formula holds only such
as can be written and read again, and of what cannot be made sense of it keeps just how a reference
was written. This is said here mark by mark, for formulas in the locales of the United States and
of Germany.
-/

namespace GridFormula

open Scan

/-- The two locales with a name. -/
def Locale.IsPreset (l : Locale) : Prop :=
  l = unitedStates ∨ l = germany

/-- In the presets the dollar sign has no other job. -/
lemma Locale.IsPreset.noDollar {l : Locale} (h : l.IsPreset) : NoDollar l := by
  rcases h with rfl | rfl
  · exact ⟨by decide, by decide, by decide⟩
  · exact ⟨by decide, by decide, by decide⟩

/-- Every row and every column of a sheet has an index that a reference can hold. -/
lemma Locale.IsPreset.count_le_greatestCoordinate {l : Locale} (h : l.IsPreset) (axis : Axis) :
    l.count axis ≤ ColumnName.greatestCoordinate + 1 := by
  rcases h with rfl | rfl <;> cases axis <;> decide

/-- Both ends of an area lie on one sheet, which is written if and only if it is named. -/
structure Area.IsCoherent {α : Type} [Qualified α] (r : Area α) : Prop where
  sheets : Qualified.sheet r.last = Qualified.sheet r.first
  qualified : r.qualification = .neither ↔ Qualified.sheet r.first = none

/-- A reference that means nothing in a workbook, and the error value that stands for it. -/
inductive Unreadable (l : Locale) (sheets : SheetNames) (raw : Text) (e : ErrorValue) : Prop where
  | cell {w : WrittenCell} :
    CellText w raw → (∀ base, Site.cell ⟨l, sheets, base⟩ w raw = .unreadable raw e) →
      Unreadable l sheets raw e
  | cells {a b : WrittenCell} {s t : Text} :
    CellText a s → CellText b t → raw = s ++ ':' :: t →
      (∀ base, Site.cells? ⟨l, sheets, base⟩ a b raw = some (.unreadable raw e)) →
        Unreadable l sheets raw e
  | lines {axis : Axis} {a b : WrittenLine} :
    LinesText axis a b raw →
      (∀ base, Site.lines? ⟨l, sheets, base⟩ axis a b raw = some (.unreadable raw e)) →
        Unreadable l sheets raw e

/-- The atom can be written and read again. -/
def Atom.Legible (l : Locale) (sheets : SheetNames) : Atom → Prop
  | .number numeral => NumeralText numeral
  | .name word => NameText word ∧ ∀ w, ¬CellText w word
  | .unreadable raw e => Unreadable l sheets raw e
  | .cells r => r.IsCoherent
  | .lines _ r => r.IsCoherent
  | _ => True

/-- The mark can be written and read again. -/
def Mark.Legible (l : Locale) (sheets : SheetNames) : Mark → Prop
  | .space blanks => AreBlanks l blanks
  | .atom a => a ≠ .omitted ∧ a.Legible l sheets
  | .call function =>
    ∃ word, NameText word ∧ function = l.canonicalName word ∧ function ≠ offsetName
  | _ => True

namespace Site

variable {site : Site}

/-- The ends of an area whose sheets agree. -/
lemma agreed_of_compare {s t : Option (Option SheetId)} {sheet : Option SheetId}
    {q : Qualification} (h : EndSheets.compare s t = .agreed sheet q) :
    q = .neither ↔ sheet = none := by
  unfold EndSheets.compare at h
  split at h
  · cases h
    simp
  · cases h
  · cases h
    simp
  · split at h
    · cases h
      simp
    · cases h
  · cases h

/-- The reference of a written cell names the sheet that it is given. -/
lemma sheet_of_cellRef? {w : WrittenCell} {sheet : Option SheetId} {r : CellRef}
    (h : site.cellRef? w sheet = some r) : r.sheet = sheet := by
  unfold cellRef? at h
  split at h
  · cases h
    rfl
  · cases h

/-- The reference of a written line names the sheet that it is given. -/
lemma sheet_of_lineRef? {axis : Axis} {w : WrittenLine} {sheet : Option SheetId} {r : LineRef}
    (h : site.lineRef? axis w sheet = some r) : r.sheet = sheet := by
  obtain ⟨position, -, rfl⟩ := Option.map_eq_some_iff.mp h
  rfl

/-- An area put together from two references on one sheet is coherent. -/
lemma isCoherent_ofCells {a b : CellRef} {q : Qualification} {base : Cell} {sheet : Option SheetId}
    (ha : a.sheet = sheet) (hb : b.sheet = sheet) (hq : q = .neither ↔ sheet = none) :
    (Area.ofCells a b q base).IsCoherent := by
  constructor
  · simp [Area.ofCells, Qualified.sheet, ha, hb, Area.sheetsInOrder_self]
  · simpa [Area.ofCells, Qualified.sheet, ha, hb, Area.sheetsInOrder_self] using hq

/-- Rows or columns put together from two references on one sheet are coherent. -/
lemma isCoherent_ofLines {axis : Axis} {a b : LineRef} {q : Qualification} {base : Cell}
    {sheet : Option SheetId} (ha : a.sheet = sheet) (hb : b.sheet = sheet)
    (hq : q = .neither ↔ sheet = none) : (Area.ofLines axis a b q base).IsCoherent := by
  constructor
  · simp [Area.ofLines, Qualified.sheet, ha, hb, Area.sheetsInOrder_self]
  · simpa [Area.ofLines, Qualified.sheet, ha, hb, Area.sheetsInOrder_self] using hq

/-! ### What means nothing in one cell means nothing in any -/

/-- An index that is too great is so in every cell. -/
lemma coord?_eq_none {axis : Axis} {w : WrittenIndex} (h : site.coord? axis w = none)
    (base : Cell) : coord? { site with base } axis w = none := by
  unfold coord? at h ⊢
  split at h
  · cases h
  · next hreach => exact if_neg hreach

/-- A written cell that means nothing in one cell means nothing in any. -/
lemma cellRef?_eq_none {w : WrittenCell} {sheet : Option SheetId}
    (h : site.cellRef? w sheet = none) (base : Cell) :
    cellRef? { site with base } w sheet = none := by
  cases hcolumn : site.coord? .column w.column with
  | none => simp [cellRef?, coord?_eq_none hcolumn base]
  | some column =>
    cases hrow : site.coord? .row w.row with
    | none => simp [cellRef?, coord?_eq_none hrow base]
    | some row => simp [cellRef?, hcolumn, hrow] at h

/-- A written line that means nothing in one cell means nothing in any. -/
lemma lineRef?_eq_none {axis : Axis} {w : WrittenLine} {sheet : Option SheetId}
    (h : site.lineRef? axis w sheet = none) (base : Cell) :
    lineRef? { site with base } axis w sheet = none := by
  rw [lineRef?, Option.map_eq_none_iff] at h ⊢
  exact coord?_eq_none h base

/-- A written cell makes a legible atom. -/
lemma legible_cell {w : WrittenCell} {raw : Text} (hw : CellText w raw) :
    (site.cell w raw).Legible site.locale site.sheets := by
  unfold cell
  split
  · next hsheet =>
    have hsheet : w.sheet.map site.sheets.id? = some none := hsheet
    exact .cell hw fun base => by simp [cell, writtenSheet, hsheet]
  · next hsheet =>
    split
    · trivial
    · next hr =>
      refine .cell hw fun base => ?_
      have hr' : cellRef? ⟨site.locale, site.sheets, base⟩ w
          (writtenSheet ⟨site.locale, site.sheets, base⟩ w.sheet).join = none :=
        cellRef?_eq_none hr base
      unfold cell
      split
      · next hnone => exact absurd hnone hsheet
      · rw [hr']

/-- An area of cells can be written and read again. If it means nothing, it does so in all cells,
for the same reason. -/
lemma legible_cells? {a b : WrittenCell} {s t : Text} {atom : Atom} (ha : CellText a s)
    (hb : CellText b t) (h : site.cells? a b (s ++ ':' :: t) = some atom) :
    atom ≠ .omitted ∧ atom.Legible site.locale site.sheets := by
  cases area?_eq_some_iff.mp h with
  | lost hcompare =>
    exact ⟨by simp, .cells ha hb rfl fun base => area?_eq_some_iff.mpr (.lost hcompare)⟩
  | found hcompare hr hr' =>
    exact ⟨by simp, isCoherent_ofCells (sheet_of_cellRef? hr) (sheet_of_cellRef? hr')
      (agreed_of_compare hcompare)⟩
  | beyond hcompare hnone =>
    refine ⟨by simp, .cells ha hb rfl fun base => area?_eq_some_iff.mpr (.beyond hcompare ?_)⟩
    exact hnone.imp (cellRef?_eq_none · base) (cellRef?_eq_none · base)

/-- The same of rows or columns. -/
lemma legible_lines? {axis : Axis} {a b : WrittenLine} {raw : Text} {atom : Atom}
    (hraw : LinesText axis a b raw) (h : site.lines? axis a b raw = some atom) :
    atom ≠ .omitted ∧ atom.Legible site.locale site.sheets := by
  cases area?_eq_some_iff.mp h with
  | lost hcompare =>
    exact ⟨by simp, .lines hraw fun base => area?_eq_some_iff.mpr (.lost hcompare)⟩
  | found hcompare hr hr' =>
    exact ⟨by simp, isCoherent_ofLines (sheet_of_lineRef? hr) (sheet_of_lineRef? hr')
      (agreed_of_compare hcompare)⟩
  | beyond hcompare hnone =>
    refine ⟨by simp, .lines hraw fun base => area?_eq_some_iff.mpr (.beyond hcompare ?_)⟩
    exact hnone.imp (lineRef?_eq_none · base) (lineRef?_eq_none · base)

/-- A lexeme makes a legible mark. A name must not look like a cell. -/
lemma legible_mark? {x : Spaced} {m : Mark} (hx : x.IsWritten site.locale)
    (hword : ∀ word, x.symbol = .name word → ∀ w, ¬CellText w word) (h : site.mark? x = some m) :
    m.Legible site.locale site.sheets := by
  obtain ⟨-, hx⟩ := hx
  unfold mark? at h
  split at h
  case h_1 hs =>
    cases h
    rwa [hs] at hx
  case h_2 hs =>
    cases h
    rw [hs] at hx
    exact ⟨nofun, hx⟩
  case h_5 w hs =>
    cases h
    rw [hs] at hx
    exact ⟨Reader.cell_ne_omitted _ _, legible_cell hx⟩
  case h_6 axis a b hs =>
    obtain ⟨atom, hatom, rfl⟩ := Option.map_eq_some_iff.mp h
    rw [hs] at hx
    exact legible_lines? hx hatom
  case h_7 hs =>
    cases h
    rwa [hs] at hx
  case h_9 word hs =>
    cases h
    have hnotCell := hword word hs
    rw [hs] at hx
    exact ⟨nofun, hx, hnotCell⟩
  all_goals
    cases h
    first
      | exact ⟨nofun, trivial⟩
      | trivial

/-- Legible marks with blanks in front are legible marks. -/
lemma legible_spaces {l : Locale} {sheets : SheetNames} {lead : Option Text} {m : Mark}
    {ms : List Mark} (hlead : ∀ blanks ∈ lead, AreBlanks l blanks) (hm : m.Legible l sheets)
    (hms : ∀ m ∈ ms, m.Legible l sheets) :
    ∀ m' ∈ Mark.spaces lead ++ m :: ms, m'.Legible l sheets := by
  have htail := List.forall_mem_cons.mpr ⟨hm, hms⟩
  cases lead with
  | none => exact htail
  | some blanks => exact List.forall_mem_cons.mpr ⟨hlead blanks rfl, htail⟩

/-- A lexeme with a reference in it makes an atom, by itself or with those behind it. -/
lemma next_of_isReference {x : Spaced} {xs : List Spaced} {ms : List Mark} (hlead : x.lead = none)
    (hx : x.symbol.isReference = true) (h : site.marks? (x :: xs) = some ms) :
    ∃ a, Mark.next ms = some (.atom a) := by
  have hatom : ∀ m, site.mark? x = some m → ∃ a, m = .atom a := by
    intro m hm
    unfold mark? at hm
    split at hm
    case h_5 =>
      cases hm
      exact ⟨_, rfl⟩
    case h_6 =>
      obtain ⟨atom, -, rfl⟩ := Option.map_eq_some_iff.mp hm
      exact ⟨atom, rfl⟩
    all_goals
      next hs =>
        rw [hs] at hx
        cases hx
  unfold marks? at h
  split at h
  · next hnil => cases hnil
  · next heq =>
    cases heq
    split at h
    · cases h
      exact ⟨_, Mark.next_spaces_append _ _ _ rfl⟩
    · cases h
  · next y ys _ heq =>
    cases heq
    split at h
    · next m ms' hm _ =>
      cases h
      obtain ⟨a, rfl⟩ := hatom m hm
      exact ⟨a, Mark.next_spaces_append _ _ _ rfl⟩
    · cases h

/-- A name that could be a cell is followed by a reference, which nothing in a formula is. -/
lemma not_cellText_of_flows {n : Nesting} {x : Spaced} {xs : List Spaced} {ms : List Mark}
    (hguard : Guarded (x :: xs)) {word : Text} (hx : x.symbol = .name word)
    (h : site.marks? xs = some ms) (hflows : FlowsWithOffsets n (.atom (.name word) :: ms)) :
    ∀ w, ¬CellText w word := by
  intro w hw
  obtain ⟨y, hy, hlead, href⟩ := hguard.1 word w hx hw
  cases xs with
  | nil => cases hy
  | cons z xs =>
    cases hy
    obtain ⟨a, ha⟩ := next_of_isReference hlead href h
    rcases hflows.2.1 with hend | ⟨⟨r, hr⟩ | ⟨w', raw, e, hraw, -⟩, -⟩
    · cases hend _ ha
    · cases hr
    · cases hraw

end Site

/-- Lexemes that are written as they should make legible marks, if the marks flow. -/
lemma legible_of_marks? {site : Site} {xs : List Spaced} {ms : List Mark} {n : Nesting}
    (hxs : ∀ x ∈ xs, x.IsWritten site.locale) (hguard : Guarded xs)
    (h : site.marks? xs = some ms) (hflows : FlowsWithOffsets n ms) :
    ∀ m ∈ ms, m.Legible site.locale site.sheets := by
  fun_induction Site.marks? site xs generalizing ms n with
  | case1 =>
    cases h
    exact fun m hm => absurd hm List.not_mem_nil
  | case2 lead a image lead' image' lead'' b image'' xs atom ms' hms' hatom ih =>
    cases h
    obtain ⟨hx, hxs⟩ := List.forall_mem_cons.mp hxs
    obtain ⟨-, hxs⟩ := List.forall_mem_cons.mp hxs
    obtain ⟨hz, hxs⟩ := List.forall_mem_cons.mp hxs
    exact Site.legible_spaces hx.1 (Site.legible_cells? hx.2 hz.2 hatom)
      (ih hxs hguard.2.2.2 hms' hflows.of_spaces_append.2.2)
  | case3 => cases h
  | case4 x xs _ m ms' hms' hm ih =>
    cases h
    obtain ⟨hx, hxs⟩ := List.forall_mem_cons.mp hxs
    have hflows := hflows.of_spaces_append
    refine Site.legible_spaces hx.1 (Site.legible_mark? hx ?_ hm) (ih hxs hguard.2 hms' hflows.2.2)
    intro word hword
    have hm' : m = .atom (.name word) := by simpa [Site.mark?, hword] using hm.symm
    subst hm'
    exact Site.not_cellText_of_flows hguard hword hms' hflows
  | case5 => cases h

/-- The marks of a formula without offsets are legible. -/
theorem legible_of_formula (site : Site) {text : Text} {xs : List Lexeme} {t : Tree}
    (hl : site.locale.IsPreset) (hlex : lex site.locale text = .ok xs)
    (ht : Reader.formula site (spaced xs) = .ok t) (hfree : ∀ x ∈ xs, x.symbol ≠ .offsetCall) :
    ∀ m ∈ t.spelling, m.Legible site.locale site.sheets := by
  obtain ⟨ms, hmarks, hms⟩ := Reader.marks?_of_formula ht (neat_spaced hlex)
  obtain rfl : ms = t.spelling := by
    refine hms fun y hy hoffset => ?_
    obtain ⟨x, hx, hsymbol⟩ := exists_mem_of_mem_spaced hy
    exact hfree x hx (hsymbol.trans hoffset)
  have hcanonical := Reader.canonical_of_formula ht
  have hnext := hcanonical.next_spelling []
  rw [List.append_nil] at hnext
  have hflows : Flows .empty (.operator .equal :: t.spelling) := ⟨rfl, hnext, hcanonical.flows⟩
  obtain ⟨hwritten, hguard⟩ := isWritten_spaced hl.noDollar hlex
  exact (List.forall_mem_cons.mp (legible_of_marks? hwritten hguard hmarks hflows.withOffsets)).2

end GridFormula
