import GridFormula.Proofs.Formula.Placed
import GridFormula.Proofs.Formula.Respacing
import GridFormula.Proofs.Formula.WrittenMarks
import GridFormula.Proofs.Lexeme.CanonicalReference

/-!
# A formula is written as it was read

A formula that is written in the cell that it was read in is the text that it was read from, in the
canonical spelling of each of its lexemes. Only blanks that no mark has a place for are missing. The
spelling of a lexeme is found from its text: numbers have an upper-case exponent, functions and
error values their name in the locale, references are in upper case and without zeros in front of
their rows, behind the name that the workbook shows for their sheet. What has no meaning stays as it
was written.
-/

namespace GridFormula

open Scan

/-! ## The canonical spelling -/

/-- The lexemes without the blanks next to a colon and those in front of a separator of array parts.
There is a colon in front of the first lexeme or not. -/
def tidied (afterColon : Bool) : List Lexeme → List Lexeme
  | [] => []
  | x :: xs =>
    if x.isBlank && (afterColon || xs.head?.any fun y => y.symbol.isTight) then
      tidied (x.symbol = .colon) xs
    else x :: tidied (x.symbol = .colon) xs

/-- A number with an upper-case exponent. -/
def withCapitalExponent (s : Text) : Text :=
  s.map fun c => if c = 'e' then 'E' else c

namespace Site

/-- Whether the sheets have the line that is written. -/
def hasLine (site : Site) (axis : Axis) (w : WrittenIndex) : Bool :=
  w.index < site.locale.count axis

/-- Whether the sheets have the cell that is written. -/
def hasCell (site : Site) (w : WrittenCell) : Bool :=
  site.hasLine .column w.column && site.hasLine .row w.row

/-- Whether a written cell lies on a sheet of the workbook. -/
def findsCell (site : Site) (w : WrittenCell) : Bool :=
  site.writtenSheet w.sheet ≠ some none && site.hasCell w

/-- Whether the sheets in front of the two ends of an area come to one. -/
def findsSheet (site : Site) (a b : Option Text) : Bool :=
  match EndSheets.compare (site.writtenSheet a) (site.writtenSheet b) with
  | .agreed _ _ => true
  | _ => false

/-- Whether the area between two written cells lies on a sheet of the workbook. -/
def findsCells (site : Site) (a b : WrittenCell) : Bool :=
  site.findsSheet a.sheet b.sheet && (site.hasCell a && site.hasCell b)

/-- Whether a written run of lines lies on a sheet of the workbook. -/
def findsLines (site : Site) (axis : Axis) (a b : WrittenLine) : Bool :=
  site.findsSheet a.sheet b.sheet && (site.hasLine axis a.position && site.hasLine axis b.position)

/-- The canonical spelling of one lexeme. -/
def spelled (site : Site) (x : Lexeme) : Text :=
  match x.symbol with
  | .number _ => withCapitalExponent x.image
  | .errorValue e => site.locale.errorName e
  | .call function => site.locale.localName function ++ ['(']
  | .cell w => if site.findsCell w then site.sheets.respelled x.image else x.image
  | .lines axis a b =>
    if site.findsLines axis a b then site.sheets.respelledLines x.image else x.image
  | _ => x.image

/-- The canonical spelling of lexemes one behind the other. The two ends of an area of cells are in
their canonical spelling only if the whole area means something. -/
def spelling (site : Site) : List Lexeme → Text
  | [] => []
  | ⟨.cell a, image⟩ :: ⟨.colon, colon⟩ :: ⟨.cell b, image'⟩ :: xs =>
    (if site.findsCells a b then
      site.sheets.respelled image ++ (colon ++ site.sheets.respelled image')
    else image ++ (colon ++ image')) ++ site.spelling xs
  | x :: xs => site.spelled x ++ site.spelling xs

end Site

/-- Whether each area among symbols is written with its first row and column in front. -/
def areInOrder : List Symbol → Bool
  | [] => true
  | .cell a :: .colon :: .cell b :: xs =>
    a.column.index ≤ b.column.index && a.row.index ≤ b.row.index && areInOrder xs
  | .lines _ a b :: xs => a.position.index ≤ b.position.index && areInOrder xs
  | _ :: xs => areInOrder xs

/-- Whether each area of a formula is written with its first row and column in front. -/
def areasInOrder (xs : List Lexeme) : Bool :=
  areInOrder ((xs.filter fun x => !x.isBlank).map Lexeme.symbol)

/-! ## Blanks -/

/-- The lexeme behind its blanks. -/
def Spaced.lexemes (x : Spaced) : List Lexeme :=
  (x.lead.map (Lexeme.mk .blank)).toList ++ [x.lexeme]

/-- A lexeme that is no blank is kept. -/
lemma tidied_cons {x : Lexeme} (hx : x.isBlank = false) (afterColon : Bool) (xs : List Lexeme) :
    tidied afterColon (x :: xs) = x :: tidied (x.symbol = .colon) xs := by
  rw [tidied, hx, Bool.false_and, if_neg Bool.false_ne_true]

/-- Where blanks come one at a time, the lexemes of a formula with their blanks are all lexemes but
for the blanks that no lexeme has a place for. -/
lemma flatMap_lexemes_attach : ∀ (before : Option Lexeme) (xs : List Lexeme), BlanksApart xs →
    ∀ afterColon, (attach afterColon none (dropIdleBlanks before xs)).flatMap Spaced.lexemes =
      tidied afterColon (dropIdleBlanks before xs)
  | _, [], _, _ => rfl
  | before, [x], _, afterColon => by
    rw [dropIdleBlanks]
    split
    · rfl
    · next hx =>
      have hx : x.isBlank = false := by simpa [isIdleBetween] using hx
      rw [tidied_cons hx, attach_of_not_blank hx]
      simp [dropIdleBlanks, attach, tidied, Spaced.lexemes, Spaced.lexeme]
  | before, x :: y :: ys, happart, afterColon => by
    obtain ⟨hxy, htail⟩ := List.isChain_cons_cons.mp happart
    by_cases hx : x.isBlank = true
    · have hy := hxy hx
      have hrest := flatMap_lexemes_attach (some y) ys htail.tail (y.symbol = .colon)
      rw [dropIdleBlanks, hx, Bool.true_and, dropIdleBlanks_cons hy]
      split
      · rw [attach_of_not_blank hy, tidied_cons hy, List.flatMap_cons, hrest]
        simp [Spaced.lexemes, Spaced.lexeme]
      · have hsymbol : x.symbol = .blank := of_decide_eq_true hx
        rw [attach, if_pos hx, attach_of_not_blank hy, List.flatMap_cons, hrest, tidied, hx,
          tidied_cons hy]
        by_cases hplace : (afterColon || y.symbol.isTight) = true
        · simp [Spaced.lexemes, Spaced.lexeme, hplace]
        · simp [Spaced.lexemes, Spaced.lexeme, hplace, ← hsymbol]
    · have hx : x.isBlank = false := by simpa using hx
      have hrest := flatMap_lexemes_attach (some x) (y :: ys) htail (x.symbol = .colon)
      rw [dropIdleBlanks_cons hx, attach_of_not_blank hx, tidied_cons hx, List.flatMap_cons, hrest]
      simp [Spaced.lexemes, Spaced.lexeme]

/-! ## References -/

namespace Site

variable {site : Site}

/-- The coordinate that means a written line. -/
def coord (site : Site) (axis : Axis) (i : WrittenIndex) : Coord :=
  .pointingAt i.anchor i.index (site.base.along axis)

/-- The reference that means a written cell, on a sheet that has been looked up. -/
def cellRef (site : Site) (c : WrittenCell) (sheet : Option SheetId) : CellRef where
  column := site.coord .column c.column
  row := site.coord .row c.row
  sheet := sheet

/-- The reference that means a written line, on a sheet that has been looked up. -/
def lineRef (site : Site) (axis : Axis) (i : WrittenLine) (sheet : Option SheetId) : LineRef where
  position := site.coord axis i.position
  sheet := sheet

/-- The words in which formulas are written where they are read, with all names as they are. -/
def wording (site : Site) : Wording :=
  ⟨site.locale, site.sheets, fun _ _ => none⟩

/-- A written index means a coordinate if the sheet has the line. -/
lemma coord?_eq (hcount : ∀ axis, site.locale.count axis ≤ ColumnName.greatestCoordinate + 1)
    (axis : Axis) (i : WrittenIndex) :
    site.coord? axis i = if site.hasLine axis i then some (site.coord axis i) else none := by
  by_cases hi : i.index < site.locale.count axis
  · have hhas : site.hasLine axis i = true := decide_eq_true hi
    have hgreatest : i.index ≤ ColumnName.greatestCoordinate :=
      Nat.le_of_lt_succ (Nat.lt_of_lt_of_le hi (hcount axis))
    rw [coord?, if_pos ⟨hi, hgreatest⟩, if_pos hhas]
    rfl
  · have hhas : site.hasLine axis i ≠ true := fun h => hi (of_decide_eq_true h)
    rw [coord?, if_neg fun h => hi h.1, if_neg hhas]

/-- A written cell means a reference if the sheet has the cell. -/
lemma cellRef?_eq (hcount : ∀ axis, site.locale.count axis ≤ ColumnName.greatestCoordinate + 1)
    (c : WrittenCell) (sheet : Option SheetId) :
    site.cellRef? c sheet = if site.hasCell c then some (site.cellRef c sheet) else none := by
  rw [cellRef?, coord?_eq hcount, coord?_eq hcount, hasCell]
  cases site.hasLine .column c.column <;> cases site.hasLine .row c.row <;> rfl

/-- A written line means a reference if the sheet has the line. -/
lemma lineRef?_eq (hcount : ∀ axis, site.locale.count axis ≤ ColumnName.greatestCoordinate + 1)
    (axis : Axis) (i : WrittenLine) (sheet : Option SheetId) :
    site.lineRef? axis i sheet =
      if site.hasLine axis i.position then some (site.lineRef axis i sheet) else none := by
  rw [lineRef?, coord?_eq hcount]
  cases site.hasLine axis i.position <;> rfl

/-! ### Coordinates and sheets -/

/-- The coordinate of a written index means this index. -/
@[simp] lemma resolve_coord (axis : Axis) (i : WrittenIndex) :
    (site.coord axis i).resolve (site.base.along axis) = i.index :=
  Coord.resolve_pointingAt _ _ _

/-- The coordinate of a written index can be written if the sheet has the line. -/
lemma reaches_coord (axis : Axis) (i : WrittenIndex) :
    site.wording.reaches site.base axis (site.coord axis i) = site.hasLine axis i := by
  rw [Wording.reaches, resolve_coord]
  simp [hasLine, wording]

/-- The reference of a written cell can be written if the sheet has the cell. -/
lemma reachesCell_cellRef (c : WrittenCell) (sheet : Option SheetId) :
    site.wording.reachesCell site.base (site.cellRef c sheet) = site.hasCell c := by
  rw [Wording.reachesCell, hasCell, ← reaches_coord, ← reaches_coord]
  rfl

/-- A coordinate is written as the line that it means. -/
lemma written_coord (axis : Axis) (i : WrittenIndex) :
    (site.coord axis i).written axis (site.base.along axis) = lineName axis i := by
  have hresolve := site.resolve_coord axis i
  rw [Coord.written_eq (by omega), Coord.toWritten, hresolve, Int.toNat_natCast]
  rfl

/-- The sheet of a reference is written as the workbook shows it. -/
lemma sheetFront_written (hnames : site.sheets.IsComplete) {name : Text} {id : SheetId}
    (h : site.sheets.id? name = some id) :
    site.wording.sheetFront true (some id) = .ok (site.sheets.shownFront (some name)) := by
  obtain ⟨own, hown⟩ := Option.isSome_iff_exists.mp (hnames name id h)
  simp [wording, Wording.sheetFront, SheetNames.shownFront, h, hown]

/-- The sheets of an area are written in front of the ends that they were written in front of. -/
lemma sheetFront_of_compare (hnames : site.sheets.IsComplete) {a b : Option Text}
    {sheet : Option SheetId} {q : Qualification}
    (h : EndSheets.compare (site.writtenSheet a) (site.writtenSheet b) = .agreed sheet q) :
    site.wording.sheetFront (q ≠ .neither) sheet = .ok (site.sheets.shownFront a) ∧
      site.wording.sheetFront (q = .both) sheet = .ok (site.sheets.shownFront b) := by
  cases a with
  | none =>
    cases b with
    | none =>
      obtain ⟨rfl, rfl⟩ := EndSheets.agreed.inj h
      exact ⟨rfl, rfl⟩
    | some b => cases h
  | some a =>
    cases ha : site.sheets.id? a with
    | none => simp [writtenSheet, ha, EndSheets.compare] at h
    | some s =>
      have hfirst := sheetFront_written hnames ha
      cases b with
      | none =>
        rw [writtenSheet, writtenSheet, Option.map_some, ha] at h
        obtain ⟨rfl, rfl⟩ := EndSheets.agreed.inj h
        exact ⟨hfirst, rfl⟩
      | some b =>
        cases hb : site.sheets.id? b with
        | none => simp [writtenSheet, ha, hb, EndSheets.compare] at h
        | some t =>
          have hlast := sheetFront_written hnames hb
          rw [writtenSheet, writtenSheet, Option.map_some, Option.map_some, ha, hb,
            EndSheets.compare] at h
          split at h
          · next hst =>
            obtain ⟨rfl, rfl⟩ := EndSheets.agreed.inj h
            rw [← hst] at hlast
            exact ⟨hfirst, hlast⟩
          · cases h

/-! ### Cells and lines -/

/-- The reference of a written cell is written as the canonical name of the cell. -/
lemma write_cellRef {isWritten : Bool} {sheet : Option SheetId} {c : WrittenCell}
    (h : site.wording.sheetFront isWritten sheet = .ok (site.sheets.shownFront c.sheet)) :
    site.wording.cell site.base isWritten (site.cellRef c sheet) = .ok (cellName site.sheets c) := by
  have hcolumn : (site.coord .column c.column).written .column site.base.column = _ :=
    written_coord .column c.column
  have hrow : (site.coord .row c.row).written .row site.base.row = _ := written_coord .row c.row
  simp only [Wording.cell, cellRef, h, Except.map, hcolumn, hrow, cellName, List.append_assoc]

/-- The reference of a written line is written as the canonical name of the line. -/
lemma write_lineRef {isWritten : Bool} {sheet : Option SheetId} {axis : Axis} {i : WrittenLine}
    (h : site.wording.sheetFront isWritten sheet = .ok (site.sheets.shownFront i.sheet)) :
    site.wording.line site.base axis isWritten (site.lineRef axis i sheet) =
      .ok (endName site.sheets axis i) := by
  simp only [Wording.line, lineRef, h, Except.map, written_coord, endName]

/-- A cell is written in its canonical spelling, or as it was written if it means nothing. -/
lemma write_cell (hl : site.locale.IsPreset) (hnames : site.sheets.IsComplete) (c : WrittenCell)
    (raw : Text) :
    site.wording.atom site.base (site.cell c raw) =
      .ok (if site.findsCell c then cellName site.sheets c else raw) := by
  by_cases hsheet : site.writtenSheet c.sheet = some none
  · have hcell : site.cell c raw = .unreadable raw .lostReference := by rw [cell, hsheet]
    have hfinds : site.findsCell c = false := by simp [findsCell, hsheet]
    rw [hcell, hfinds]
    rfl
  · have hfinds : site.findsCell c = site.hasCell c := by simp [findsCell, hsheet]
    have hfront : site.wording.sheetFront true (site.writtenSheet c.sheet).join =
        .ok (site.sheets.shownFront c.sheet) := by
      cases hname : c.sheet with
      | none => rfl
      | some name =>
        cases hid : site.sheets.id? name with
        | none => exact absurd (by rw [hname, writtenSheet, Option.map_some, hid]) hsheet
        | some id =>
          rw [writtenSheet, Option.map_some, hid]
          exact sheetFront_written hnames hid
    unfold cell
    split
    · next h => exact absurd h hsheet
    · rw [cellRef?_eq hl.count_le_greatestCoordinate, hfinds]
      by_cases hhas : site.hasCell c = true
      · rw [if_pos hhas, if_pos hhas, Wording.atom, reachesCell_cellRef, if_pos hhas]
        exact write_cellRef hfront
      · rw [if_neg hhas, if_neg hhas]
        rfl

/-! ### Areas -/

/-- Sheets that agree come to one. -/
lemma findsSheet_of_compare {a b : Option Text} {sheet : Option SheetId} {q : Qualification}
    (h : EndSheets.compare (site.writtenSheet a) (site.writtenSheet b) = .agreed sheet q) :
    site.findsSheet a b = true := by
  rw [findsSheet, h]

/-- An area is written as its ends with a colon between them. -/
lemma write_area {α : Type} {write : Bool → α → Except WriteFault Text} {first last : α}
    {q : Qualification} {s t : Text} (hfirst : write (q ≠ .neither) first = .ok s)
    (hlast : write (q = .both) last = .ok t) :
    Wording.area write ⟨first, last, q⟩ = .ok (s ++ ':' :: t) := by
  rw [Wording.area, hfirst, hlast]
  rfl

/-- Two written cells in order are the ends of their area. -/
lemma ofCells_cellRef {a b : WrittenCell} (hcolumns : a.column.index ≤ b.column.index)
    (hrows : a.row.index ≤ b.row.index) (q : Qualification) (sheet : Option SheetId) :
    Area.ofCells (site.cellRef a sheet) (site.cellRef b sheet) q site.base =
      ⟨site.cellRef a sheet, site.cellRef b sheet, q⟩ := by
  have hcolumns := Area.inOrder_eq_self (fun c : Coord => c.resolve (site.base.along .column))
    (a := site.coord .column a.column) (b := site.coord .column b.column) (by simpa)
  have hrows := Area.inOrder_eq_self (fun c : Coord => c.resolve (site.base.along .row))
    (a := site.coord .row a.row) (b := site.coord .row b.row) (by simpa)
  simp only [Cell.along] at hcolumns hrows
  simp only [Area.ofCells, cellRef, hcolumns, hrows, Area.sheetsInOrder_self]

/-- Two written lines in order are the ends of their run. -/
lemma ofLines_lineRef {axis : Axis} {a b : WrittenLine} (h : a.position.index ≤ b.position.index)
    (q : Qualification) (sheet : Option SheetId) :
    Area.ofLines axis (site.lineRef axis a sheet) (site.lineRef axis b sheet) q site.base =
      ⟨site.lineRef axis a sheet, site.lineRef axis b sheet, q⟩ := by
  have hpositions := Area.inOrder_eq_self (fun c : Coord => c.resolve (site.base.along axis))
    (a := site.coord axis a.position) (b := site.coord axis b.position) (by simpa)
  simp only [Area.ofLines, lineRef, hpositions, Area.sheetsInOrder_self]

/-- An area of cells is written in its canonical spelling, or as it was written. -/
lemma write_cells (hl : site.locale.IsPreset) (hnames : site.sheets.IsComplete) {a b : WrittenCell}
    {raw : Text} {atom : Atom} (h : site.cells? a b raw = some atom)
    (hcolumns : a.column.index ≤ b.column.index) (hrows : a.row.index ≤ b.row.index) :
    site.wording.atom site.base atom =
      .ok (if site.findsCells a b then
        cellName site.sheets a ++ ':' :: cellName site.sheets b else raw) := by
  have hcount := hl.count_le_greatestCoordinate
  cases area?_eq_some_iff.mp h with
  | lost hcompare =>
    have hfinds : site.findsCells a b = false := by simp [findsCells, findsSheet, hcompare]
    rw [hfinds]
    rfl
  | found hcompare hr hr' =>
    rw [cellRef?_eq hcount] at hr hr'
    obtain ⟨ha, ⟨⟩⟩ := Option.ite_none_right_eq_some.mp hr
    obtain ⟨hb, ⟨⟩⟩ := Option.ite_none_right_eq_some.mp hr'
    obtain ⟨hfirst, hlast⟩ := sheetFront_of_compare hnames hcompare
    have hhas : (site.hasCell a && site.hasCell b) = true := (Bool.and_eq_true _ _).mpr ⟨ha, hb⟩
    rw [findsCells, findsSheet_of_compare hcompare, Bool.true_and, if_pos hhas,
      ofCells_cellRef hcolumns hrows, Wording.atom, reachesCell_cellRef, reachesCell_cellRef,
      if_pos hhas]
    exact write_area (write_cellRef hfirst) (write_cellRef hlast)
  | beyond hcompare hnone =>
    have hhas : (site.hasCell a && site.hasCell b) = false :=
      Bool.and_eq_false_iff.mpr (by simpa [cellRef?_eq hcount] using hnone)
    rw [findsCells, hhas, Bool.and_false]
    rfl

/-- A run of lines is written in its canonical spelling, or as it was written. -/
lemma write_lines (hl : site.locale.IsPreset) (hnames : site.sheets.IsComplete) {axis : Axis}
    {a b : WrittenLine} {raw : Text} {atom : Atom} (h : site.lines? axis a b raw = some atom)
    (horder : a.position.index ≤ b.position.index) :
    site.wording.atom site.base atom =
      .ok (if site.findsLines axis a b then
        endName site.sheets axis a ++ ':' :: endName site.sheets axis b else raw) := by
  have hcount := hl.count_le_greatestCoordinate
  cases area?_eq_some_iff.mp h with
  | lost hcompare =>
    have hfinds : site.findsLines axis a b = false := by simp [findsLines, findsSheet, hcompare]
    rw [hfinds]
    rfl
  | found hcompare hr hr' =>
    rw [lineRef?_eq hcount] at hr hr'
    obtain ⟨ha, ⟨⟩⟩ := Option.ite_none_right_eq_some.mp hr
    obtain ⟨hb, ⟨⟩⟩ := Option.ite_none_right_eq_some.mp hr'
    obtain ⟨hfirst, hlast⟩ := sheetFront_of_compare hnames hcompare
    have hhas : (site.hasLine axis a.position && site.hasLine axis b.position) = true :=
      (Bool.and_eq_true _ _).mpr ⟨ha, hb⟩
    rw [findsLines, findsSheet_of_compare hcompare, Bool.true_and, if_pos hhas,
      ofLines_lineRef horder, Wording.atom, lineRef, lineRef, reaches_coord, reaches_coord,
      if_pos hhas]
    exact write_area (write_lineRef hfirst) (write_lineRef hlast)
  | beyond hcompare hnone =>
    have hhas : (site.hasLine axis a.position && site.hasLine axis b.position) = false :=
      Bool.and_eq_false_iff.mpr (by simpa [lineRef?_eq hcount] using hnone)
    rw [findsLines, hhas, Bool.and_false]
    rfl

end Site

/-! ## Numbers -/

/-- A text without a small e has no exponent to capitalize. -/
lemma withCapitalExponent_eq_self {s : Text} (h : ∀ c ∈ s, c ≠ 'e') : withCapitalExponent s = s :=
  (List.map_congr_left fun c hc => if_neg (h c hc)).trans (List.map_id s)

/-- Digits have no exponent to capitalize. -/
lemma withCapitalExponent_digits {s : Text} (h : ∀ c ∈ s, c.isDigit = true) :
    withCapitalExponent s = s := by
  refine withCapitalExponent_eq_self ?_
  rintro c hc rfl
  cases h _ hc

/-- A fraction has no exponent to capitalize. -/
lemma withCapitalExponent_fraction {decimal : Char} (hdecimal : decimal ≠ 'e') {s : Text}
    (h : FractionText s) : withCapitalExponent (localized decimal s) = localized decimal s := by
  cases h with
  | absent => rfl
  | @present d s hd hs =>
    have hdigits : ∀ c ∈ d :: s, c.isDigit = true := List.forall_mem_cons.mpr ⟨hd, hs⟩
    have hlocal : localized decimal ('.' :: d :: s) = decimal :: d :: s :=
      congrArg _ (localized_digits decimal hdigits)
    rw [hlocal]
    refine withCapitalExponent_eq_self (List.forall_mem_cons.mpr ⟨hdecimal, ?_⟩)
    rintro c hc rfl
    cases hdigits _ hc

/-- The exponent of a number is capitalized. -/
lemma withCapitalExponent_exponent {exponent image : Text} (h : ExponentImage exponent image) :
    withCapitalExponent image = exponent := by
  cases h with
  | absent => rfl
  | @present e sign digits he hsign _ hdigits =>
    have hsign : withCapitalExponent sign = sign := by cases hsign <;> rfl
    have hdigits := withCapitalExponent_digits hdigits
    have he : (if e = 'e' then 'E' else e) = 'E' := by rcases he with rfl | rfl <;> rfl
    unfold withCapitalExponent at hsign hdigits ⊢
    rw [List.map_cons, List.map_append, hsign, hdigits, he]

/-- A number with an upper-case exponent is the number that is read, with the decimal separator of
the locale. -/
lemma withCapitalExponent_number {decimal : Char} (hdecimal : decimal ≠ 'e')
    {numeral image : Text} (h : NumeralImage decimal numeral image) :
    withCapitalExponent image = localized decimal numeral := by
  cases h with
  | @mk whole fraction exponent image hwhole hfraction hexponent _ =>
    have happend : ∀ s t : Text,
        localized decimal (s ++ t) = localized decimal s ++ localized decimal t :=
      fun s t => List.map_append
    have happend' : ∀ s t : Text,
        withCapitalExponent (s ++ t) = withCapitalExponent s ++ withCapitalExponent t :=
      fun s t => List.map_append
    rw [happend, happend, happend', happend', localized_digits decimal hwhole,
      localized_exponent decimal hexponent.exponentText, withCapitalExponent_digits hwhole,
      withCapitalExponent_fraction hdecimal hfraction, withCapitalExponent_exponent hexponent,
      List.append_assoc]

/-! ## Lexemes -/

namespace Site

variable {site : Site}

/-- No sheet has so many rows that the number of one of them could not be told apart. -/
lemma index_lt_of_hasLine (hl : site.locale.IsPreset) {axis : Axis} {i : WrittenIndex}
    (h : site.hasLine axis i = true) : i.index + 1 < greatestRowNumber := by
  have hlt : i.index < site.locale.count axis := of_decide_eq_true h
  have hcount : site.locale.count axis ≤ 1048576 := by
    rcases hl with h | h <;> rw [h] <;> cases axis <;> decide
  unfold greatestRowNumber
  omega

/-- The text of a cell of the sheet is respelled as its canonical name. -/
lemma respelled_of_hasCell (hl : site.locale.IsPreset) {c : WrittenCell} {image : Text}
    (h : CellText c image) (hc : site.hasCell c = true) :
    site.sheets.respelled image = cellName site.sheets c :=
  respelled_cell site.sheets h (index_lt_of_hasLine hl ((Bool.and_eq_true _ _).mp hc).2)

/-- A cell that is found is spelled by its canonical name, and any other one is left as it is. -/
lemma spelled_cell (hl : site.locale.IsPreset) {c : WrittenCell} {image : Text}
    (h : CellText c image) :
    site.spelled ⟨.cell c, image⟩ = if site.findsCell c then cellName site.sheets c else image := by
  have hspelled : site.spelled ⟨.cell c, image⟩ =
    if site.findsCell c then site.sheets.respelled image else image := rfl
  rw [hspelled]
  split
  · next hfinds => exact respelled_of_hasCell hl h ((Bool.and_eq_true _ _).mp hfinds).2
  · rfl

/-- A run of lines that is found is spelled by the canonical names of its ends, and any other one is
left as it is. -/
lemma spelled_lines (hl : site.locale.IsPreset) {axis : Axis} {a b : WrittenLine} {image : Text}
    (h : LinesText axis a b image) :
    site.spelled ⟨.lines axis a b, image⟩ =
      if site.findsLines axis a b then endName site.sheets axis a ++ ':' :: endName site.sheets axis b
      else image := by
  have hspelled : site.spelled ⟨.lines axis a b, image⟩ =
    if site.findsLines axis a b then site.sheets.respelledLines image else image := rfl
  rw [hspelled]
  split
  · next hfinds =>
    simp only [findsLines, Bool.and_eq_true] at hfinds
    exact respelledLines_lines site.sheets h (fun _ => index_lt_of_hasLine hl hfinds.2.1)
      fun _ => index_lt_of_hasLine hl hfinds.2.2
  · rfl

/-- The mark of a lexeme is written in the canonical spelling of the lexeme. -/
lemma write_mark? (hl : site.locale.IsPreset) (hnames : site.sheets.IsComplete) {x : Spaced}
    {m : Mark} (h : site.mark? x = some m) (htext : SymbolText site.locale x.symbol x.image)
    (hfree : x.symbol ≠ .offsetCall) (horder : areInOrder [x.symbol] = true) :
    site.wording.mark site.base m = .ok (site.spelled x.lexeme) := by
  obtain ⟨lead, symbol, image⟩ := x
  dsimp only at htext hfree horder
  cases htext with
  | blank =>
    cases h
    rfl
  | number hnumber =>
    cases h
    have hdecimal : site.locale.decimal ≠ 'e' := by rcases hl with h | h <;> rw [h] <;> decide
    exact congrArg _ (withCapitalExponent_number hdecimal hnumber).symm
  | string content =>
    cases h
    rfl
  | errorValue =>
    cases h
    rfl
  | reference href =>
    cases href with
    | cell hcell =>
      cases h
      exact (write_cell hl hnames _ _).trans (congrArg _ (spelled_cell hl hcell).symm)
    | @lines axis a b _ hlines =>
      obtain ⟨atom, hatom, rfl⟩ := Option.map_eq_some_iff.mp h
      have hle : a.position.index ≤ b.position.index := by simpa [areInOrder] using horder
      exact (write_lines hl hnames hatom hle).trans (congrArg _ (spelled_lines hl hlines).symm)
  | name =>
    cases h
    rfl
  | call =>
    cases h
    rfl
  | offsetCall => exact absurd rfl hfree
  | fixed hfixed =>
    cases symbol <;> cases hfixed <;> cases h <;> rfl

/-! ## Lists of lexemes -/

/-- A lexeme that does not start an area is spelled by itself. -/
lemma spelling_cons {x : Lexeme} {xs : List Lexeme}
    (h : ∀ a b image colon image' ys, x = ⟨.cell a, image⟩ →
      xs ≠ ⟨.colon, colon⟩ :: ⟨.cell b, image'⟩ :: ys) :
    site.spelling (x :: xs) = site.spelled x ++ site.spelling xs := by
  rw [spelling]
  exact fun a image colon b image' ys => h a b image colon image' ys

/-- A symbol that does not start an area is in order by itself. -/
lemma areInOrder_cons {s : Symbol} {ss : List Symbol}
    (h : ∀ a b ts, s = .cell a → ss ≠ .colon :: .cell b :: ts) :
    areInOrder (s :: ss) = (areInOrder [s] && areInOrder ss) := by
  cases s with
  | cell a =>
    have hskip : areInOrder (.cell a :: ss) = areInOrder ss := by
      rw [areInOrder]
      · exact fun _ b ts ha => h _ b ts ha
      · exact nofun
    rw [hskip]
    rfl
  | lines axis a b => simp [areInOrder]
  | _ => simp [areInOrder]

/-- Blanks are spelled as they are. -/
lemma spelling_lexemes (x : Spaced) (xs : List Lexeme) :
    site.spelling (x.lexemes ++ xs) = x.lead.getD [] ++ site.spelling (x.lexeme :: xs) := by
  cases hlead : x.lead with
  | none => simp [Spaced.lexemes, hlead]
  | some blanks =>
    have hblank : site.spelling (⟨.blank, blanks⟩ :: x.lexeme :: xs) =
        blanks ++ site.spelling (x.lexeme :: xs) := spelling_cons nofun
    simpa [Spaced.lexemes, hlead] using hblank

/-- The first lexeme, if it is no blank, is a lexeme without blanks in front. -/
lemma exists_cons_of_lexemes {zs : List Spaced} {y : Lexeme} {ys : List Lexeme}
    (h : zs.flatMap Spaced.lexemes = y :: ys) (hy : y.symbol ≠ .blank) :
    ∃ z zs', zs = z :: zs' ∧ z.lexeme = y ∧ zs'.flatMap Spaced.lexemes = ys := by
  cases zs with
  | nil => cases h
  | cons z zs =>
    rw [List.flatMap_cons, Spaced.lexemes] at h
    cases hlead : z.lead with
    | none =>
      rw [hlead] at h
      obtain ⟨hz, hys⟩ := List.cons.inj h
      exact ⟨z, zs, rfl, hz, hys⟩
    | some blanks =>
      rw [hlead] at h
      obtain ⟨rfl, -⟩ := List.cons.inj h
      exact absurd rfl hy

/-- A mark is written behind the blanks in front of it. -/
lemma write_spaces {lead : Option Text} {m : Mark} {ms : List Mark} {s t : Text}
    (hm : site.wording.mark site.base m = .ok s) (hms : site.wording.marks site.base ms = .ok t) :
    site.wording.marks site.base (Mark.spaces lead ++ m :: ms) = .ok (lead.getD [] ++ (s ++ t)) := by
  have hcons : site.wording.marks site.base (m :: ms) = .ok (s ++ t) := by
    rw [Wording.marks, hm, hms]
    rfl
  cases lead with
  | none => exact hcons
  | some blanks =>
    rw [Mark.spaces, List.singleton_append, Wording.marks, hcons]
    rfl

/-- An area of cells is written in the canonical spelling of its three lexemes. -/
lemma spelled_area (hl : site.locale.IsPreset) {a b : WrittenCell} {image image' : Text}
    (ha : CellText a image) (hb : CellText b image') :
    (if site.findsCells a b then site.sheets.respelled image ++ ([':'] ++ site.sheets.respelled image')
      else image ++ ([':'] ++ image')) =
    if site.findsCells a b then cellName site.sheets a ++ ':' :: cellName site.sheets b
      else image ++ ':' :: image' := by
  split
  · next hfinds =>
    obtain ⟨-, hhas⟩ := (Bool.and_eq_true _ _).mp hfinds
    obtain ⟨hhas, hhas'⟩ := (Bool.and_eq_true _ _).mp hhas
    rw [respelled_of_hasCell hl ha hhas, respelled_of_hasCell hl hb hhas']
    rfl
  · rfl

/-- The marks of lexemes are written in the canonical spelling of the lexemes. -/
lemma write_marks? (hl : site.locale.IsPreset) (hnames : site.sheets.IsComplete) {b : Bool}
    {zs : List Spaced} {ms : List Mark} (h : site.marks? zs = some ms) (hneat : Neat b zs)
    (htexts : ∀ z ∈ zs, SymbolText site.locale z.symbol z.image)
    (hfree : ∀ z ∈ zs, z.symbol ≠ .offsetCall)
    (horder : areInOrder (zs.map Spaced.symbol) = true) :
    site.wording.marks site.base ms = .ok (site.spelling (zs.flatMap Spaced.lexemes)) := by
  fun_induction site.marks? zs generalizing b ms with
  | case1 =>
    cases h
    rfl
  | case2 lead a image lead' colon lead'' b' image' zs atom ms' hms' hatom ih =>
    obtain rfl := Option.some.inj h
    obtain ⟨-, hcolon, -, hneat⟩ := hneat
    obtain ⟨rfl, hlead''⟩ := hcolon.colon rfl
    obtain rfl : lead' = none := hcolon.tight rfl
    obtain rfl : lead'' = none := hlead'' _ rfl
    simp only [List.forall_mem_cons] at htexts hfree
    obtain ⟨ha, -, hb, htexts⟩ := htexts
    obtain ⟨-, -, -, hfree⟩ := hfree
    simp only [List.map_cons, areInOrder, Bool.and_eq_true, decide_eq_true_eq] at horder
    obtain ⟨⟨hcolumns, hrows⟩, horder⟩ := horder
    have hwrite : site.wording.mark site.base (.atom atom) = _ :=
      write_cells hl hnames hatom hcolumns hrows
    rw [← spelled_area hl ha.cellText hb.cellText] at hwrite
    rw [write_spaces hwrite (ih hms' hneat htexts hfree horder), List.flatMap_cons, spelling_lexemes]
    rfl
  | case3 => cases h
  | case4 x zs hne m ms' hms' hm ih =>
    obtain rfl := Option.some.inj h
    obtain ⟨-, hneat⟩ := hneat
    obtain ⟨hx, htexts⟩ := List.forall_mem_cons.mp htexts
    obtain ⟨hxfree, hfree⟩ := List.forall_mem_cons.mp hfree
    -- No area of cells starts here.
    have hnoArea : ∀ a b ss, x.symbol = .cell a → zs.map Spaced.symbol ≠ .colon :: .cell b :: ss := by
      intro a b ss hcell harea
      obtain ⟨y, ys, rfl, hy, hys⟩ := List.map_eq_cons_iff.mp harea
      obtain ⟨z, zs, rfl, hz, -⟩ := List.map_eq_cons_iff.mp hys
      obtain ⟨xlead, _, ximage⟩ := x
      obtain ⟨ylead, _, yimage⟩ := y
      obtain ⟨zlead, _, zimage⟩ := z
      obtain rfl := hcell
      obtain rfl := hy
      obtain rfl := hz
      exact hne _ _ _ _ _ _ _ _ _ rfl rfl
    have hspelling : site.spelling (x.lexeme :: zs.flatMap Spaced.lexemes) =
        site.spelled x.lexeme ++ site.spelling (zs.flatMap Spaced.lexemes) := by
      refine spelling_cons fun a b' image colon image' ys hcell harea => ?_
      obtain ⟨y, zs', rfl, hy, hzs'⟩ := exists_cons_of_lexemes harea (by simp)
      obtain ⟨z, zs'', rfl, hz, -⟩ := exists_cons_of_lexemes hzs' (by simp)
      refine hnoArea a b' (zs''.map Spaced.symbol) (congrArg Lexeme.symbol hcell) ?_
      exact congrArg₂ (fun s t => s :: t :: _) (congrArg Lexeme.symbol hy) (congrArg Lexeme.symbol hz)
    rw [List.map_cons, areInOrder_cons hnoArea, Bool.and_eq_true] at horder
    have hwrite := write_mark? hl hnames hm hx hxfree horder.1
    rw [write_spaces hwrite (ih hms' hneat htexts hfree horder.2), List.flatMap_cons,
      spelling_lexemes, hspelling]
  | case5 => cases h

/-! ## Formulas -/

/-- A formula without offsets whose areas are written with their first row and column in front is
written, in the cell that it was read in, as its lexemes in their canonical spelling. Only blanks
next to a colon and in front of a separator of array parts are missing. -/
theorem write_read {fold : Text → Text} {book : Sheets fold} {l : Locale} {base : Cell} {text : Text}
    (hbook : book.IsReachable) (hl : l.IsPreset) (hfree : hasOffset l text = false)
    (hformula : (Site.read ⟨l, book.directory, base⟩ text).isFormula = true) :
    ∃ xs, lex l text = .ok xs ∧ (areasInOrder xs = true →
      Wording.write ⟨l, book.directory, fun _ _ => none⟩
          (Site.read ⟨l, book.directory, base⟩ text).tree base =
        .ok (Site.spelling ⟨l, book.directory, base⟩ (tidied false xs))) := by
  let site : Site := ⟨l, book.directory, base⟩
  have hnames : site.sheets.IsComplete := hbook.isComplete_directory
  rcases site.read_eq_cases hfree with ⟨xs, t, hlex, ht, hread⟩ | hfault
  · refine ⟨xs, hlex, fun horder => ?_⟩
    obtain ⟨ys, hscans, rfl⟩ := lex_eq_ok_iff.mp hlex
    have hsymbols := (hscans.symbolText hl).2
    have htexts : ∀ z ∈ spaced (dropIdleBlanks none ys), SymbolText l z.symbol z.image := by
      intro z hz
      have hmem := List.mem_map_of_mem (f := Spaced.lexeme) hz
      rw [map_lexeme_spaced] at hmem
      exact hsymbols _ (List.mem_of_mem_filter hmem)
    have hfree : ∀ z ∈ spaced (dropIdleBlanks none ys), z.symbol ≠ .offsetCall := by
      intro z hz hoffset
      obtain ⟨x, hx, hsymbol⟩ := exists_mem_of_mem_spaced hz
      exact symbol_ne_of_hasOffset hfree hlex x hx (hsymbol.trans hoffset)
    have horder : areInOrder ((spaced (dropIdleBlanks none ys)).map Spaced.symbol) = true := by
      rw [map_symbol_spaced]
      exact horder
    have hneat := neat_spaced hlex
    obtain ⟨ms, hmarks, hspelling⟩ := Reader.marks?_of_formula ht hneat
    have hwrite := write_marks? hl hnames hmarks hneat htexts hfree horder
    rw [hspelling hfree, spaced, flatMap_lexemes_attach none ys hscans.isChain_blank] at hwrite
    have htree : (site.read text).tree = t := by rw [hread]
    rw [htree, Wording.write_eq]
    exact hwrite
  · cases hformula.symm.trans hfault

/-- Blanks, cases and zeros of a formula, and a cell that is on no sheet. -/
theorem write_read_calls :
    let book : Sheets (List.map Char.toUpper) := (Sheets.empty.add "Data".toList).2
    let base : Cell := ⟨0, 4, 4⟩
    let text := "=sum( 1.5e+3 ,data!$a$01 : c3, 'dAta'!b002) *#n/a&zz9999999".toList
    book.IsReachable ∧ hasOffset .unitedStates text = false ∧
      (Site.read ⟨.unitedStates, book.directory, base⟩ text).isFormula = true ∧
      Wording.write ⟨.unitedStates, book.directory, fun _ _ => none⟩
          (Site.read ⟨.unitedStates, book.directory, base⟩ text).tree base =
        .ok "=SUM( 1.5E+3,Data!$A$1:C3, Data!B2) *#N/A&zz9999999".toList := by
  intro book base text
  have hbook : book.IsReachable := .add _ .empty
  have hfree : hasOffset .unitedStates text = false := by decide +kernel
  have hformula : (Site.read ⟨.unitedStates, book.directory, base⟩ text).isFormula = true := by
    decide +kernel
  obtain ⟨xs, hlex, hwrite⟩ := write_read hbook (Or.inl rfl) hfree hformula
  have hxs : xs = ((lex .unitedStates text).toOption.getD []) := by rw [hlex]; rfl
  refine ⟨hbook, hfree, hformula, (hwrite ?_).trans (congrArg _ ?_)⟩
  · rw [hxs]
    decide +kernel
  · rw [hxs]
    decide +kernel

end Site

end GridFormula
