import GridFormula.Proofs.Formula.Atoms
import GridFormula.Proofs.Formula.KeyReading
import GridFormula.Proofs.Formula.Mapping
import GridFormula.Formula.Dependency

/-!
# One key in two workbooks

In a key stands for a sheet its number, so formulas with one key refer to the same cells, whatever
the sheets are called where each of them is read. A reference that means nothing stands in the key
as it is written, and for it the error value is not determined by the key: a sheet that does not
exist is one error, a cell beyond the sheet is another, and which of the two a text has may depend
on the sheets. This is all that two formulas with one key can differ in, and it takes a reference
that names a sheet and reaches beyond it.
-/

namespace GridFormula

open Scan

/-! ## The error values of references -/

/-- Whether the sheets have the row or column that is written. -/
def WrittenIndex.Fits (l : Locale) (axis : Axis) (w : WrittenIndex) : Prop :=
  w.index < l.count axis ∧ w.index ≤ ColumnName.greatestCoordinate

/-- Whether the sheets have the cell that is written. -/
def WrittenCell.Fits (l : Locale) (w : WrittenCell) : Prop :=
  w.column.Fits l .column ∧ w.row.Fits l .row

namespace WrittenReference

/-- The sheet that is written in front. -/
def sheet? : WrittenReference → Option Text
  | .cell w | .cells w _ => w.sheet
  | .lines _ w _ => w.sheet

/-- Whether the sheets reach as far as the reference does. -/
def Fits (l : Locale) : WrittenReference → Prop
  | .cell w => w.Fits l
  | .cells a b => a.Fits l ∧ b.Fits l
  | .lines axis a b => a.position.Fits l axis ∧ b.position.Fits l axis

end WrittenReference

/-- The text is a reference that names a sheet and reaches beyond it. -/
def Overreaches (l : Locale) (raw : Text) : Prop :=
  ∃ ref : WrittenReference, ref.IsText raw ∧ ref.sheet? ≠ none ∧ ¬ref.Fits l

namespace WrittenReference

variable {site : Site} {raw : Text} {e : ErrorValue} {ref : WrittenReference}

/-- An index that fits means a coordinate. -/
lemma coord?_ne_none {axis : Axis} {w : WrittenIndex} (h : w.Fits site.locale axis) :
    site.coord? axis w ≠ none := by
  have hfits : w.index < site.locale.count axis ∧ w.index ≤ ColumnName.greatestCoordinate := h
  rw [Site.coord?, if_pos hfits]
  exact Option.some_ne_none _

/-- A written cell that fits means a reference. -/
lemma cellRef?_ne_none {w : WrittenCell} (h : w.Fits site.locale) (sheet : Option SheetId) :
    site.cellRef? w sheet ≠ none := by
  obtain ⟨column, hcolumn⟩ := Option.ne_none_iff_exists'.mp (coord?_ne_none h.1)
  obtain ⟨row, hrow⟩ := Option.ne_none_iff_exists'.mp (coord?_ne_none h.2)
  rw [Site.cellRef?, hcolumn, hrow]
  exact Option.some_ne_none _

/-- A written line that fits means a reference. -/
lemma lineRef?_ne_none {axis : Axis} {w : WrittenLine} (h : w.position.Fits site.locale axis)
    (sheet : Option SheetId) : site.lineRef? axis w sheet ≠ none := by
  rw [Site.lineRef?, ne_eq, Option.map_eq_none_iff]
  exact coord?_ne_none h

/-- A reference that stays on the sheet means nothing only if the sheet is lost. -/
lemma value_of_fits (hfits : ref.Fits site.locale)
    (h : ref.atom? site raw = some (.unreadable raw e)) : e = .lostReference := by
  cases ref with
  | cell w =>
    have h := Option.some.inj h
    unfold Site.cell at h
    split at h
    · cases h
      rfl
    · next sheet _ =>
      obtain ⟨r, hr⟩ := Option.ne_none_iff_exists'.mp (cellRef?_ne_none hfits _)
      rw [hr] at h
      cases h
  | cells a b =>
    cases Site.area?_eq_some_iff.mp h with
    | lost hcompare => rfl
    | beyond hcompare hnone =>
      rcases hnone with hnone | hnone
      · exact absurd hnone (cellRef?_ne_none hfits.1 _)
      · exact absurd hnone (cellRef?_ne_none hfits.2 _)
  | lines axis a b =>
    cases Site.area?_eq_some_iff.mp h with
    | lost hcompare => rfl
    | beyond hcompare hnone =>
      rcases hnone with hnone | hnone
      · exact absurd hnone (lineRef?_ne_none hfits.1 _)
      · exact absurd hnone (lineRef?_ne_none hfits.2 _)

/-- A reference that names no sheet means nothing only if it leaves the sheet. -/
lemma value_of_sheet?_eq_none (hsheet : ref.sheet? = none)
    (h : ref.atom? site raw = some (.unreadable raw e)) : e = .unknownName := by
  have hlost : ∀ {s : Option (Option SheetId)}, EndSheets.compare none s ≠ .lost := by
    intro s
    cases s <;> nofun
  cases ref with
  | cell w =>
    have hsheet : w.sheet = none := hsheet
    have h := Option.some.inj h
    rw [Site.cell, Site.writtenSheet, hsheet] at h
    dsimp only [Option.map_none] at h
    split at h <;> cases h
    rfl
  | cells a b =>
    have hsheet : a.sheet = none := hsheet
    cases Site.area?_eq_some_iff.mp h with
    | lost hcompare =>
      rw [Site.writtenSheet, hsheet] at hcompare
      exact absurd hcompare hlost
    | beyond hcompare hnone => rfl
  | lines axis a b =>
    have hsheet : a.sheet = none := hsheet
    cases Site.area?_eq_some_iff.mp h with
    | lost hcompare =>
      rw [Site.writtenSheet, hsheet] at hcompare
      exact absurd hcompare hlost
    | beyond hcompare hnone => rfl

end WrittenReference

/-- One error value stands for a reference in all workbooks, unless it names a sheet and reaches
beyond it. -/
theorem Unreadable.value_eq_of_not_overreaches {l : Locale} {sheets sheets' : SheetNames}
    {raw : Text} {e e' : ErrorValue} (h : Unreadable l sheets raw e)
    (h' : Unreadable l sheets' raw e') (hraw : ¬Overreaches l raw) : e = e' := by
  obtain ⟨ref, href, he⟩ := h.exists_written
  obtain ⟨ref', href', he'⟩ := h'.exists_written
  obtain rfl := href.unique href'
  by_cases hsheet : ref.sheet? = none
  · rw [WrittenReference.value_of_sheet?_eq_none hsheet (he ⟨0, 0, 0⟩),
      WrittenReference.value_of_sheet?_eq_none hsheet (he' ⟨0, 0, 0⟩)]
  · have hfits : ref.Fits l := by
      by_contra hfits
      exact hraw ⟨ref, href, hsheet, hfits⟩
    have hvalue : e = .lostReference := WrittenReference.value_of_fits hfits (he ⟨0, 0, 0⟩)
    have hvalue' : e' = .lostReference := WrittenReference.value_of_fits hfits (he' ⟨0, 0, 0⟩)
    rw [hvalue, hvalue']

/-! ## Trees with one key -/

open Classical in
/-- The atom with the error value that stands for its text in a workbook. -/
noncomputable def Atom.revalued (l : Locale) (sheets : SheetNames) : Atom → Atom
  | .unreadable raw e =>
    .unreadable raw (if h : ∃ e', Unreadable l sheets raw e' then h.choose else e)
  | a => a

section

variable {l : Locale} {sheets sheets' : SheetNames}

/-- What means nothing is given back its own error value. -/
lemma Unreadable.revalued_eq {raw : Text} {e : ErrorValue} (h : Unreadable l sheets raw e)
    (e' : ErrorValue) : (Atom.unreadable raw e').revalued l sheets = .unreadable raw e := by
  have hexists : ∃ e, Unreadable l sheets raw e := ⟨e, h⟩
  rw [Atom.revalued, dif_pos hexists, hexists.choose_spec.value_unique h]

/-- The error value stays if the reference has one in all workbooks. -/
lemma Unreadable.revalued_eq_self {raw : Text} {e : ErrorValue} (h : Unreadable l sheets' raw e)
    (hraw : ¬Overreaches l raw) :
    (Atom.unreadable raw e).revalued l sheets = .unreadable raw e := by
  rw [Atom.revalued]
  split
  · next hexists => rw [hexists.choose_spec.value_eq_of_not_overreaches h hraw]
  · rfl

/-- No error value is given to or taken from an omitted argument. -/
lemma Atom.revalued_eq_omitted (a : Atom) : a.revalued l sheets = .omitted ↔ a = .omitted := by
  cases a <;> simp [revalued]

/-- What an atom depends on does not depend on error values. -/
lemma Atom.dependency?_revalued (a : Atom) :
    (a.revalued l sheets).dependency? = a.dependency? := by
  cases a <;> rfl

/-- A legible mark has the error value of its workbook. -/
lemma Mark.Alike.eq_mapAtom_revalued {m m' : Mark} (h : m.Alike m') (hm : m.Legible l sheets) :
    m = m'.mapAtom (Atom.revalued l sheets) := by
  cases h with
  | unreadable raw e e' => rw [Mark.mapAtom, Unreadable.revalued_eq hm.2]
  | refl =>
    cases m with
    | atom a =>
      cases a with
      | unreadable raw e => rw [Mark.mapAtom, Unreadable.revalued_eq hm.2]
      | _ => rfl
    | _ => rfl

/-- Marks that are alike are the same up to the error values of what means nothing. -/
lemma eq_map_mapAtom_revalued {ms ms' : List Mark} (h : List.Forall₂ Mark.Alike ms ms')
    (hms : ∀ m ∈ ms, m.Legible l sheets) :
    ms = ms'.map (Mark.mapAtom (Atom.revalued l sheets)) := by
  induction h with
  | nil => rfl
  | cons hm _ ih =>
    obtain ⟨hlegible, hms⟩ := List.forall_mem_cons.mp hms
    rw [List.map_cons, ← hm.eq_mapAtom_revalued hlegible, ← ih hms]

end

/-- The change gives references that name a sheet and reach beyond it other error values, and leaves
all else as it is. -/
def RevaluesOverreaching (l : Locale) (f : Atom → Atom) : Prop :=
  ∀ a, f a = a ∨ ∃ raw e e', a = .unreadable raw e ∧ f a = .unreadable raw e' ∧ Overreaches l raw

/-- Where there is no such reference, nothing is changed. -/
lemma RevaluesOverreaching.mapAtoms_eq_self {l : Locale} {f : Atom → Atom}
    (hf : RevaluesOverreaching l f) {t : Tree}
    (ht : ∀ raw e, .unreadable raw e ∈ t.atoms → ¬Overreaches l raw) : t.mapAtoms f = t := by
  refine Tree.mapAtoms_eq_self fun a ha => ?_
  rcases hf a with hself | ⟨raw, e, e', rfl, -, hraw⟩
  · exact hself
  · exact absurd hraw (ht raw e ha)

/-- The references of a formula have the error values of any other workbook up to those that name a
sheet and reach beyond it. -/
lemma exists_revaluesOverreaching {l : Locale} {sheets : SheetNames} (sheets' : SheetNames)
    {t : Tree} (ht : ∀ raw e, .unreadable raw e ∈ t.atoms → Unreadable l sheets raw e) :
    ∃ f, RevaluesOverreaching l f ∧ t.mapAtoms (Atom.revalued l sheets') = t.mapAtoms f := by
  classical
  refine ⟨fun a => if ∃ raw e, a = .unreadable raw e ∧ Overreaches l raw then
    a.revalued l sheets' else a, fun a => ?_, Tree.mapAtoms_congr fun a ha => ?_⟩
  · dsimp only
    split
    · next h =>
      obtain ⟨raw, e, rfl, hraw⟩ := h
      exact Or.inr ⟨raw, e, _, rfl, rfl, hraw⟩
    · exact Or.inl rfl
  · split
    · rfl
    · next h =>
      cases a with
      | unreadable raw e => exact (ht raw e ha).revalued_eq_self fun hraw => h ⟨raw, e, rfl, hraw⟩
      | _ => rfl

/-- What the change of error values does not touch. -/
lemma Tree.dependencies_mapAtoms_revalued (l : Locale) (sheets : SheetNames) (t : Tree) :
    (t.mapAtoms (Atom.revalued l sheets)).dependencies = t.dependencies := by
  rw [dependencies, dependencies, atoms_mapAtoms, List.filterMap_map]
  congr 1
  funext a
  exact a.dependency?_revalued

namespace Reader

variable {site : Site} {sheets' : SheetNames} {base' : Cell} {text text' : Text}
  {xs xs' : List Lexeme} {t t' : Tree}

/-- Of two formulas without offsets that have one key in two workbooks, the tree of one is that of
the other with the error values of its own workbook. -/
theorem eq_mapAtoms_revalued_of_key_eq (hl : site.locale.IsPreset)
    (hlex : lex site.locale text = .ok xs) (hlex' : lex site.locale text' = .ok xs')
    (hfree : ∀ x ∈ xs, x.symbol ≠ .offsetCall) (hfree' : ∀ x ∈ xs', x.symbol ≠ .offsetCall)
    (ht : formula site (spaced xs) = .ok t)
    (ht' : formula ⟨site.locale, sheets', base'⟩ (spaced xs') = .ok t') (h : t.key = t'.key) :
    t = t'.mapAtoms (Atom.revalued site.locale site.sheets) := by
  rw [t.key_eq_spelling, t'.key_eq_spelling] at h
  have hcanonical := canonical_of_formula ht
  have hcanonical' := canonical_of_formula ht'
  have hlegible := legible_of_formula site hl hlex ht hfree
  have hlegible' := legible_of_formula ⟨site.locale, sheets', base'⟩ hl hlex' ht' hfree'
  have halike := hcanonical.flows.withOffsets.forall₂_of_key_eq hl hcanonical'.flows.withOffsets
    hlegible hlegible' (List.cons.inj h).2
  have hspelling := eq_map_mapAtom_revalued halike hlegible
  rw [← Tree.spelling_mapAtoms Atom.revalued_eq_omitted] at hspelling
  refine eq_of_spelling_eq ht (neat_spaced hlex) ?_
    (hcanonical'.mapAtoms Atom.revalued_eq_omitted) hspelling
  intro y hy hoffset
  obtain ⟨x, hx, hsymbol⟩ := exists_mem_of_mem_spaced hy
  exact hfree x hx (hsymbol.trans hoffset)

end Reader

end GridFormula
