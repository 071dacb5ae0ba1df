import GridFormula.Proofs.Edit.Writing
import GridFormula.Proofs.Formula.KeyReading
import GridFormula.Proofs.Formula.Unspelling

/-!
# Edited formulas are known by their keys

The key of a tree names all its marks, and a formula stays legible through all edits. So a key is
cut into the marks of its formula again even if the formula has been edited since it was read, and
the marks tell the tree. Two formulas of one workbook therefore have one key only if they are the
same, with all their blanks, wherever they were read and whatever has happened to either of them.
-/

namespace GridFormula

/-- Two legible trees with one key are the same tree. -/
theorem Tree.Legible.eq_of_key_eq {l : Locale} {sheets : SheetNames} {s t : Tree} (hl : l.IsPreset)
    (hs : s.Legible l sheets) (ht : t.Legible l sheets) (h : s.key = t.key) : s = t := by
  rw [s.key_eq_spelling, t.key_eq_spelling] at h
  have hspelling : s.spelling = t.spelling :=
    hs.canonical.flows.withOffsets.eq_of_key_eq hl ht.canonical.flows.withOffsets hs.marks ht.marks
      (List.cons.inj h).2
  exact hs.canonical.eq_of_spelling_eq ht.canonical hs.neat hspelling

/-- The tree of a formula without offsets is legible. -/
lemma Site.legible_read (site : Site) {text : Text} (hl : site.locale.IsPreset)
    (hfree : hasOffset site.locale text = false) (h : (site.read text).isFormula = true) :
    (site.read text).tree.Legible site.locale site.sheets := by
  rcases read_eq_cases site hfree with ⟨xs, t, hlex, ht, hread⟩ | hfault
  · rw [hread]
    exact Tree.legible_of_formula site hl hlex ht (symbol_ne_of_hasOffset hfree hlex)
  · cases h.symm.trans hfault

namespace History

variable {l : Locale} {sheets : SheetNames}

/-- A formula stays legible while it is brought up to date. -/
lemma legible_bringUpToDate (h : History) (version : Nat) {t : Tree} (ht : t.Legible l sheets)
    (formula : Cell) : (h.bringUpToDate version (t, formula)).1.Legible l sheets :=
  ht.applyAll (h.since version) formula

/-- Two formulas without offsets are read, each in some cell, and each is brought up to date with a
history of its own. Then they have one key if and only if they have one tree. -/
theorem key_bringUpToDate_eq_iff {base base' : Cell} {text text' : Text} (hl : l.IsPreset)
    (hfree : hasOffset l text = false) (hfree' : hasOffset l text' = false)
    (hformula : (Site.read ⟨l, sheets, base⟩ text).isFormula = true)
    (hformula' : (Site.read ⟨l, sheets, base'⟩ text').isFormula = true) (h h' : History)
    (version version' : Nat) :
    let t := (h.bringUpToDate version ((Site.read ⟨l, sheets, base⟩ text).tree, base)).1
    let t' := (h'.bringUpToDate version' ((Site.read ⟨l, sheets, base'⟩ text').tree, base')).1
    t.key = t'.key ↔ t = t' := by
  intro t t'
  have ht : t.Legible l sheets :=
    h.legible_bringUpToDate version (Site.legible_read ⟨l, sheets, base⟩ hl hfree hformula) base
  have ht' : t'.Legible l sheets :=
    h'.legible_bringUpToDate version' (Site.legible_read ⟨l, sheets, base'⟩ hl hfree' hformula') base'
  exact ⟨ht.eq_of_key_eq hl ht', congrArg Tree.key⟩

/-- A row is inserted in front of the first formula, which then has the tree and the key of the
second one. -/
theorem key_bringUpToDate_eq_iff_inserted_row :
    let l : Locale := .germany
    let sheets : SheetNames := ⟨fun _ => none, fun _ => none⟩
    let base : Cell := ⟨0, 3, 1⟩
    let text := "=SUMME( -A$1:B2;;\x7b1,2\\\"x\";#NV\\4\x7d)%".toList
    let base' : Cell := ⟨0, 3, 2⟩
    let text' := "=SUMME( -A$2:B3;;\x7b1,2\\\"x\";#NV\\4\x7d)%".toList
    let h : History := .record .empty (.insert .row ⟨0, 0, 1⟩)
    let t := (h.bringUpToDate 0 ((Site.read ⟨l, sheets, base⟩ text).tree, base)).1
    let t' := (History.empty.bringUpToDate 0 ((Site.read ⟨l, sheets, base'⟩ text').tree, base')).1
    l.IsPreset ∧ hasOffset l text = false ∧ hasOffset l text' = false ∧
      (Site.read ⟨l, sheets, base⟩ text).isFormula = true ∧
      (Site.read ⟨l, sheets, base'⟩ text').isFormula = true ∧ t.key = t'.key ∧
      (t.key = t'.key ↔ t = t') := by
  intro l sheets base text base' text' h t t'
  have hl : l.IsPreset := Or.inr rfl
  have hfree : hasOffset l text = false := by decide +kernel
  have hfree' : hasOffset l text' = false := by decide +kernel
  have hformula : (Site.read ⟨l, sheets, base⟩ text).isFormula = true := by decide +kernel
  have hformula' : (Site.read ⟨l, sheets, base'⟩ text').isFormula = true := by decide +kernel
  have hkey : t.key = t'.key := by decide +kernel
  exact ⟨hl, hfree, hfree', hformula, hformula', hkey,
    key_bringUpToDate_eq_iff hl hfree hfree' hformula hformula' h .empty 0 0⟩

end History

end GridFormula
