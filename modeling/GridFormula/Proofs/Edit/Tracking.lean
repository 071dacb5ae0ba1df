import GridFormula.Locale.Presets
import GridFormula.Proofs.Edit.CellStep
import GridFormula.Proofs.Formula.Shape

/-!
# Formulas follow their cells through a history

A history of edits is applied to a formula step by step, and each step moves the formula and
rewrites its tree. Taken together the steps change no more than the atoms of the tree, and a
reference to a cell is rewritten so that it goes on meaning the same cell. The cell is followed by
itself, through the same edits and with no formula in view; the reference is lost if, and only if,
one of them removes the cell.
-/

namespace GridFormula

/-! ## One atom in one edit -/

namespace Rewriting

variable {w : Rewriting} {formula : Cell} {α : Type} {c : α → Atom} {a : α} {o : Outcome α}

/-- A reference that is lost leaves an error value. -/
lemma newAtom_of_lost (h : w.atom formula (c a) = o.map c) (ho : o = .lost) :
    w.newAtom formula (c a) = .errorValue .lostReference := by
  unfold newAtom
  rw [h, ho]
  exact rfl

/-- A reference that is not lost takes the place of the old one. -/
lemma newAtom_of_ne_lost (h : w.atom formula (c a) = o.map c) (ho : o ≠ .lost) :
    w.newAtom formula (c a) = c (o.getD a) := by
  unfold newAtom
  rw [h]
  cases o with
  | unchanged => rfl
  | shifted b => rfl
  | lost => exact absurd rfl ho

/-- What holds of the error value and of the reference that takes the place of the old one holds of
the new atom. -/
lemma forall_newAtom {P : Atom → Prop} (h : w.atom formula (c a) = o.map c)
    (hlost : P (.errorValue .lostReference)) (hkept : o ≠ .lost → P (c (o.getD a))) :
    P (w.newAtom formula (c a)) := by
  by_cases ho : o = .lost
  · rw [newAtom_of_lost h ho]
    exact hlost
  · rw [newAtom_of_ne_lost h ho]
    exact hkept ho

end Rewriting

namespace Edit

/-- Where a cell is after edits, made one after the other. -/
def placeAll (edits : List Edit) (c : Cell) : Cell :=
  edits.foldl (fun c e => e.rewriting.place c) c

/-- One of the edits removes the cell from where those before it have moved it. -/
def RemovedBy (edits : List Edit) (c : Cell) : Prop :=
  ∃ before e after, edits = before ++ e :: after ∧ e.Removes (placeAll before c)

/-- No edits remove no cell. -/
lemma not_removedBy_nil (c : Cell) : ¬RemovedBy [] c := by
  rintro ⟨before, e, after, h, -⟩
  simp at h

/-- The first edit removes the cell, or a later one removes it from where the first one has moved
it. -/
lemma removedBy_cons {e : Edit} {edits : List Edit} {c : Cell} :
    RemovedBy (e :: edits) c ↔ e.Removes c ∨ RemovedBy edits (e.rewriting.place c) := by
  constructor
  · rintro ⟨before, e', after, h, hr⟩
    cases before with
    | nil =>
      obtain ⟨rfl, -⟩ := List.cons.inj h
      exact Or.inl hr
    | cons d before =>
      obtain ⟨rfl, rfl⟩ := List.cons.inj h
      exact Or.inr ⟨before, e', after, rfl, hr⟩
  · rintro (hr | ⟨before, e', after, rfl, hr⟩)
    · exact ⟨[], e, edits, rfl, hr⟩
    · exact ⟨e :: before, e', after, rfl, hr⟩

/-- What edits make of an atom of a formula. -/
def finalAtom : List Edit → Cell → Atom → Atom
  | [], _, a => a
  | e :: edits, formula, a =>
    finalAtom edits (e.rewriting.place formula) (e.rewriting.newAtom formula a)

/-- Edits change the atoms of a tree and the place of the formula, and nothing else. -/
lemma applyAll_eq (edits : List Edit) (t : Tree) (formula : Cell) :
    applyAll edits (t, formula) = (t.mapAtoms (finalAtom edits formula), placeAll edits formula) := by
  induction edits generalizing t formula with
  | nil =>
    have hid : finalAtom [] formula = id := rfl
    rw [hid, Tree.mapAtoms_id]
    rfl
  | cons e edits ih =>
    have hstep : applyAll (e :: edits) (t, formula) =
        applyAll edits (e.rewriting.tree t formula, e.rewriting.place formula) := rfl
    rw [hstep, ih, Rewriting.tree, Tree.mapAtoms_mapAtoms]
    rfl

/-- What an atom of a formula at `formula` may be after edits that have taken the formula to
`place`. A reference to a cell follows the cell or is lost with it, and a reference to an area stays
one or is lost. All other atoms stay. -/
def Tracks (edits : List Edit) (formula place : Cell) : Atom → Atom → Prop
  | .cell r, b =>
    (b = .errorValue .lostReference ↔ RemovedBy edits (r.resolve formula)) ∧
      (¬RemovedBy edits (r.resolve formula) →
        ∃ s, b = .cell s ∧ s.SameKind r ∧ s.resolve place = placeAll edits (r.resolve formula))
  | .cells _, b => b = .errorValue .lostReference ∨ ∃ s, b = .cells s
  | .lines axis _, b => b = .errorValue .lostReference ∨ ∃ s, b = .lines axis s
  | a, b => b = a

/-! ## One atom through all edits -/

/-- An error value stays. -/
lemma finalAtom_errorValue (edits : List Edit) (formula : Cell) (d : ErrorValue) :
    finalAtom edits formula (.errorValue d) = .errorValue d := by
  induction edits generalizing formula with
  | nil => rfl
  | cons e edits ih => exact ih _

/-- An atom that is no reference stays. -/
lemma finalAtom_eq_self {a : Atom} (h : ∀ (w : Rewriting) formula, w.newAtom formula a = a)
    (edits : List Edit) (formula : Cell) : finalAtom edits formula a = a := by
  induction edits generalizing formula with
  | nil => rfl
  | cons e edits ih => rw [finalAtom, h, ih]

/-- What every rewriting takes to an atom of its own kind stays of that kind or is lost. -/
lemma finalAtom_of_kind {α : Type} {kind : α → Atom}
    (hkind : ∀ (w : Rewriting) formula a, ∃ o : Outcome α, w.atom formula (kind a) = o.map kind)
    (edits : List Edit) (formula : Cell) (a : α) :
    finalAtom edits formula (kind a) = .errorValue .lostReference ∨
      ∃ b, finalAtom edits formula (kind a) = kind b := by
  -- Lost is lost for good; as long as it is not, the reference in its place is of the same kind.
  induction edits generalizing formula a with
  | nil => exact Or.inr ⟨a, rfl⟩
  | cons e edits ih =>
    obtain ⟨o, ho⟩ := hkind e.rewriting formula a
    rw [finalAtom]
    by_cases hlost : o = .lost
    · rw [Rewriting.newAtom_of_lost ho hlost]
      exact Or.inl (finalAtom_errorValue _ _ _)
    · rw [Rewriting.newAtom_of_ne_lost ho hlost]
      exact ih _ _

/-- A reference to a cell that an edit removes is lost. -/
lemma finalAtom_cell_of_removedBy {edits : List Edit} (hc : ∀ e ∈ edits, ∃ l, e.Checked l)
    {r : CellRef} {formula : Cell} (h : RemovedBy edits (r.resolve formula)) :
    finalAtom edits formula (.cell r) = .errorValue .lostReference := by
  induction edits generalizing r formula with
  | nil => exact absurd h (not_removedBy_nil _)
  | cons e edits ih =>
    rw [finalAtom]
    by_cases hr : e.Removes (r.resolve formula)
    · rw [Rewriting.newAtom_of_lost (c := Atom.cell) rfl (cell_eq_lost hr)]
      exact finalAtom_errorValue _ _ _
    · obtain ⟨l, hl⟩ := hc e List.mem_cons_self
      obtain ⟨hne, -, hres⟩ := leadsTo_cell hl hr
      rw [Rewriting.newAtom_of_ne_lost (c := Atom.cell) rfl hne]
      have hlater := (removedBy_cons.mp h).resolve_left hr
      refine ih (fun d hd => hc d (List.mem_cons_of_mem e hd)) ?_
      rw [hres]
      exact hlater

/-- A reference to a cell that stays follows it. -/
lemma finalAtom_cell_of_not_removedBy {edits : List Edit} (hc : ∀ e ∈ edits, ∃ l, e.Checked l)
    {r : CellRef} {formula : Cell} (h : ¬RemovedBy edits (r.resolve formula)) :
    ∃ s, finalAtom edits formula (.cell r) = .cell s ∧ s.SameKind r ∧
      s.resolve (placeAll edits formula) = placeAll edits (r.resolve formula) := by
  induction edits generalizing r formula with
  | nil => exact ⟨r, rfl, .refl r, rfl⟩
  | cons e edits ih =>
    obtain ⟨hstay, hlater⟩ := not_or.mp (mt removedBy_cons.mpr h)
    obtain ⟨l, hl⟩ := hc e List.mem_cons_self
    obtain ⟨hne, hkind, hres⟩ := leadsTo_cell hl hstay
    rw [← hres] at hlater
    obtain ⟨s, hs, hkind', hres'⟩ := ih (fun d hd => hc d (List.mem_cons_of_mem e hd)) hlater
    refine ⟨s, ?_, hkind'.trans hkind, ?_⟩
    · rw [finalAtom, Rewriting.newAtom_of_ne_lost (c := Atom.cell) rfl hne]
      exact hs
    · rw [hres] at hres'
      exact hres'

/-- Edits that have passed their checks leave every atom tracking what it meant. -/
lemma tracks_finalAtom {edits : List Edit} (hc : ∀ e ∈ edits, ∃ l, e.Checked l) (formula : Cell)
    (a : Atom) : Tracks edits formula (placeAll edits formula) a (finalAtom edits formula a) := by
  cases a with
  | cell r =>
    refine ⟨⟨fun h => ?_, finalAtom_cell_of_removedBy hc⟩, finalAtom_cell_of_not_removedBy hc⟩
    by_contra hn
    obtain ⟨s, hs, -⟩ := finalAtom_cell_of_not_removedBy hc hn
    rw [hs] at h
    cases h
  | cells r => exact finalAtom_of_kind (fun w formula r => ⟨w.cells r formula, rfl⟩) edits formula r
  | lines axis r =>
    exact finalAtom_of_kind (fun w formula r => ⟨w.lines axis r formula, rfl⟩) edits formula r
  | _ => exact finalAtom_eq_self (fun _ _ => rfl) edits formula

end Edit

namespace History

/-- Bringing a formula up to date keeps the shape of its tree and every atom that is no reference.
A reference to a cell becomes the error value of a lost reference exactly if an edit removes the
cell from where it has been moved by then. Otherwise it is a reference of the same kind which, from
the new place of the formula, means the new place of the cell. -/
theorem bringUpToDate_tracks (h : History) (hc : ∀ e ∈ h.edits, ∃ l, e.Checked l) (t : Tree)
    (formula : Cell) :
    (h.bringUpToDate 0 (t, formula)).2 = Edit.placeAll h.edits formula ∧
      t.Alike (Edit.Tracks h.edits formula (Edit.placeAll h.edits formula))
        (h.bringUpToDate 0 (t, formula)).1 := by
  rw [bringUpToDate, since, List.drop_zero, Edit.applyAll_eq]
  exact ⟨rfl, Tree.alike_mapAtoms (Edit.tracks_finalAtom hc formula) t⟩

/-- Two rows are inserted, a block is moved to another sheet, and a column of that sheet is
removed. -/
theorem bringUpToDate_tracks_three_edits :
    let h : History := ⟨[.insert .row ⟨0, 1, 2⟩,
      .relocate ⟨⟨⟨0, 0, 0⟩, ⟨0, 3, 3⟩⟩, 1, 0, 1⟩, .remove .column ⟨1, 0, 1⟩]⟩
    let t : Tree := .binary none .plus
      (.atom none (.cell ⟨⟨.relative, 1⟩, ⟨.absolute, 1⟩, none⟩))
      (.atom none (.cell ⟨⟨.absolute, 0⟩, ⟨.relative, 5⟩, some 1⟩))
    (∀ e ∈ h.edits, ∃ l, e.Checked l) ∧
      (h.bringUpToDate 0 (t, ⟨0, 0, 0⟩)).2 = Edit.placeAll h.edits ⟨0, 0, 0⟩ ∧
      t.Alike (Edit.Tracks h.edits ⟨0, 0, 0⟩ (Edit.placeAll h.edits ⟨0, 0, 0⟩))
        (h.bringUpToDate 0 (t, ⟨0, 0, 0⟩)).1 := by
  intro h t
  have hc : ∀ e ∈ h.edits, ∃ l, e.Checked l := by
    intro e he
    refine ⟨.unitedStates, ?_⟩
    simp only [h, List.mem_cons, List.not_mem_nil, or_false] at he
    rcases he with rfl | rfl | rfl
    · exact (by decide : Band.checked 0 1 2 = .ok ⟨0, 1, 2⟩)
    · exact ⟨rfl, by decide⟩
    · exact (by decide : Band.checked 1 0 1 = .ok ⟨1, 0, 1⟩)
  exact ⟨hc, bringUpToDate_tracks h hc t ⟨0, 0, 0⟩⟩

end History

end GridFormula
