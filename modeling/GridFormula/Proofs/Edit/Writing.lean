import GridFormula.Proofs.Edit.Coherence
import GridFormula.Proofs.Formula.Offsets
import GridFormula.Proofs.Grid.Sheets

/-!
# Edited formulas are read as they are written

A formula is read, edited any number of times, and written in some cell. Read in that cell, the text
is the edited tree again, with all its blanks, and it has the key of that tree. For this all that
the tree refers to has to lie on the sheet as seen from the cell, and areas must not be turned
around. What a formula must be like for it is kept by every edit.
-/

namespace GridFormula

/-- A formula with the tree can be written and read again. -/
structure Tree.Legible (l : Locale) (sheets : SheetNames) (t : Tree) : Prop where
  canonical : t.Canonical
  marks : ∀ m ∈ t.spelling, m.Legible l sheets
  neat : NeatMarks false (.operator .equal :: t.spelling)

namespace Tree

/-- The tree of a formula without offsets is legible. -/
theorem legible_of_formula (site : Site) {text : Text} {xs : List Lexeme} {t : Tree}
    (hl : site.locale.IsPreset) (hlex : lex site.locale text = .ok xs)
    (ht : Reader.formula site (spaced xs) = .ok t) (hfree : ∀ x ∈ xs, x.symbol ≠ .offsetCall) :
    t.Legible site.locale site.sheets where
  canonical := Reader.canonical_of_formula ht
  marks := GridFormula.legible_of_formula site hl hlex ht hfree
  neat := by
    obtain ⟨ms, hmarks, hms⟩ := Reader.marks?_of_formula ht (neat_spaced hlex)
    obtain rfl : ms = t.spelling := by
      refine hms fun y hy hoffset => ?_
      obtain ⟨x, hx, hsymbol⟩ := exists_mem_of_mem_spaced hy
      exact hfree x hx (hsymbol.trans hoffset)
    exact neatMarks_of_marks? (neat_spaced hlex) hmarks

/-- The tree stays legible through all edits. -/
theorem Legible.applyAll {l : Locale} {sheets : SheetNames} {t : Tree} (h : t.Legible l sheets)
    (edits : List Edit) (formula : Cell) :
    (Edit.applyAll edits (t, formula)).1.Legible l sheets := by
  have homitted := Edit.finalAtom_eq_omitted edits formula
  rw [Edit.applyAll_eq]
  constructor
  · exact h.canonical.mapAtoms homitted
  · rw [spelling_mapAtoms homitted]
    intro m hm
    obtain ⟨m₀, hm₀, rfl⟩ := List.mem_map.mp hm
    exact Edit.legible_mapAtom edits formula (h.marks m₀ hm₀)
  · rw [spelling_mapAtoms homitted]
    exact h.neat.map (Edit.finalAtom edits formula)

/-- Edits call no other functions. -/
lemma functions_applyAll (edits : List Edit) (t : Tree) (formula : Cell) :
    (Edit.applyAll edits (t, formula)).1.functions = t.functions := by
  rw [Edit.applyAll_eq]
  exact functions_mapAtoms _ t

/-- If the atoms and the functions of a tree can be written at a cell, so can all marks of its
spelling. -/
lemma isPlaced_of_mem_spelling {w : Wording} {base : Cell} {t : Tree}
    (hascii : ∀ f ∈ t.functions, Text.IsAscii f) (hplaced : ∀ a ∈ t.atoms, a.IsPlaced w base) :
    ∀ m ∈ t.spelling, m.IsPlaced w base := by
  intro m hm
  have hmarks : m ∈ t.marks := List.mem_of_mem_filter hm
  cases m with
  | atom a => exact hplaced a (List.mem_filterMap.mpr ⟨_, hmarks, rfl⟩)
  | call function => exact hascii function (List.mem_filterMap.mpr ⟨_, hmarks, rfl⟩)
  | _ => trivial

/-- A legible tree is written as a text that is read as the tree. -/
theorem Legible.read_write {w : Wording} {base : Cell} {t : Tree}
    (h : t.Legible w.locale w.sheets) (hl : w.locale.IsPreset) (hnames : w.sheets.IsConsistent)
    (hshown : ∀ name sheet, w.shownName? name sheet = none)
    (hascii : ∀ f ∈ t.functions, Text.IsAscii f) (hplaced : ∀ a ∈ t.atoms, a.IsPlaced w base) :
    ∃ text, w.write t base = .ok text ∧
      Site.read ⟨w.locale, w.sheets, base⟩ text = ⟨t, [], false⟩ ∧
      Site.keyOf? ⟨w.locale, w.sheets, base⟩ text = some t.key := by
  have hnext := h.canonical.next_spelling []
  rw [List.append_nil] at hnext
  have hflows : Flows .empty (.operator .equal :: t.spelling) := ⟨rfl, hnext, h.canonical.flows⟩
  have hmarks : ∀ m ∈ Mark.operator .equal :: t.spelling, m.Legible w.locale w.sheets :=
    List.forall_mem_cons.mpr ⟨trivial, h.marks⟩
  have hall : ∀ m ∈ Mark.operator .equal :: t.spelling, m.IsPlaced w base :=
    List.forall_mem_cons.mpr ⟨trivial, isPlaced_of_mem_spelling hascii hplaced⟩
  -- The marks are written one by one, and the text is cut into lexemes that make these marks again.
  obtain ⟨hwrite, xs, hlexed, hscans⟩ := Wording.marks_spec hl hnames hshown hmarks hall hflows
  obtain ⟨hdrop, hspaced⟩ := hlexed.marks?_spaced hflows h.neat
  rw [← Wording.write_eq] at hwrite
  generalize (Mark.operator .equal :: t.spelling).flatMap (w.text base) = text at hwrite hscans
  have hlex : lex w.locale text = .ok xs := by
    rw [lex, Scan.scan_eq_ok_iff.mpr hscans]
    exact congrArg Except.ok hdrop
  have hformula := Reader.formula_of_marks? h.canonical (neat_spaced hlex) hspaced
  -- No mark of a legible tree is an offset, so nothing that is read is bound to its place.
  have hbound : Reader.isPlaceBound (spaced xs) = false := by
    refine isPlaceBound_eq_false fun y hy hoffset => ?_
    obtain ⟨x, hx, hsymbol⟩ := exists_mem_of_mem_spaced hy
    exact hlexed.symbol_ne_offsetCall hflows x hx (hsymbol.trans hoffset)
  refine ⟨text, hwrite, ?_, ?_⟩
  · rw [Site.read, hlex]
    dsimp only
    rw [Site.readLexemes, hformula, hbound]
  · rw [Site.keyOf?, hlex]
    dsimp only
    rw [Site.key?, hspaced, t.key_eq_spelling]
    rfl

end Tree

namespace Edit

/-- A formula without offsets that calls functions with names below U+0080 is read, edited any
number of times, and written in a cell. If what it then refers to lies on the sheet and its areas
are in order as seen from this cell, then it can be written, and in this cell the text is read as
the edited tree and has its key. -/
theorem read_write_applyAll {fold : Text → Text} {book : Sheets fold} {l : Locale} {base : Cell}
    {text : Text} (hbook : book.IsReachable) (hl : l.IsPreset) (hfree : hasOffset l text = false)
    (hformula : (Site.read ⟨l, book.directory, base⟩ text).isFormula = true)
    (hascii : ∀ f ∈ (Site.read ⟨l, book.directory, base⟩ text).tree.functions, Text.IsAscii f)
    (edits : List Edit) (place : Cell)
    (hplaced : ∀ a ∈ (applyAll edits
      ((Site.read ⟨l, book.directory, base⟩ text).tree, base)).1.atoms,
        a.IsPlaced ⟨l, book.directory, fun _ _ => none⟩ place) :
    let t := (applyAll edits ((Site.read ⟨l, book.directory, base⟩ text).tree, base)).1
    ∃ s, Wording.write ⟨l, book.directory, fun _ _ => none⟩ t place = .ok s ∧
      Site.read ⟨l, book.directory, place⟩ s = ⟨t, [], false⟩ ∧
      Site.keyOf? ⟨l, book.directory, place⟩ s = some t.key := by
  rcases Site.read_eq_cases ⟨l, book.directory, base⟩ hfree with ⟨xs, t, hlex, ht, hread⟩ | hfault
  · rw [hread] at hascii hplaced ⊢
    have hlegible : t.Legible l book.directory :=
      Tree.legible_of_formula ⟨l, book.directory, base⟩ hl hlex ht
        (symbol_ne_of_hasOffset hfree hlex)
    have hnames : book.directory.IsConsistent := hbook.isConsistent
    have hascii' : ∀ f ∈ (applyAll edits (t, base)).1.functions, Text.IsAscii f := by
      rw [Tree.functions_applyAll]
      exact hascii
    exact (hlegible.applyAll edits base).read_write
      (w := ⟨l, book.directory, fun _ _ => none⟩) hl hnames (fun _ _ => rfl) hascii' hplaced
  · cases hformula.symm.trans hfault

/-- A column is removed and rows are inserted before the formula is written in its new cell. -/
theorem read_write_applyAll_two_edits :
    let book : Sheets (List.map Char.toUpper) := (Sheets.empty.add "Data".toList).2
    let l : Locale := .germany
    let base : Cell := ⟨0, 4, 4⟩
    let text := "=SUMME( -Data!B$1:C3; ;)%&$C5".toList
    let edits : List Edit := [.remove .column ⟨0, 0, 1⟩, .insert .row ⟨0, 1, 2⟩]
    let place : Cell := ⟨0, 3, 6⟩
    let w : Wording := ⟨l, book.directory, fun _ _ => none⟩
    let t := (applyAll edits ((Site.read ⟨l, book.directory, base⟩ text).tree, base)).1
    book.IsReachable ∧ l.IsPreset ∧ hasOffset l text = false ∧
      (Site.read ⟨l, book.directory, base⟩ text).isFormula = true ∧
      (∀ f ∈ (Site.read ⟨l, book.directory, base⟩ text).tree.functions, Text.IsAscii f) ∧
      (∀ a ∈ t.atoms, a.IsPlaced w place) ∧
      Wording.write w t place = .ok "=SUMME( -Data!A$1:B5; ;)%&$B7".toList ∧
      ∃ s, Wording.write w t place = .ok s ∧
        Site.read ⟨l, book.directory, place⟩ s = ⟨t, [], false⟩ ∧
        Site.keyOf? ⟨l, book.directory, place⟩ s = some t.key := by
  intro book l base text edits place w t
  have hbook : book.IsReachable := .add _ .empty
  have hl : l.IsPreset := Or.inr rfl
  have hfree : hasOffset l text = false := by decide +kernel
  have hformula : (Site.read ⟨l, book.directory, base⟩ text).isFormula = true := by decide +kernel
  have hascii : ∀ f ∈ (Site.read ⟨l, book.directory, base⟩ text).tree.functions,
      Text.IsAscii f := by decide +kernel
  have hplaced : ∀ a ∈ t.atoms, a.IsPlaced w place := by decide +kernel
  exact ⟨hbook, hl, hfree, hformula, hascii, hplaced, by decide +kernel,
    read_write_applyAll hbook hl hfree hformula hascii edits place hplaced⟩

end Edit

end GridFormula
