import GridFormula.Proofs.Edit.Moving
import GridFormula.Proofs.Edit.Trimming
import GridFormula.Proofs.Formula.OnSheet

/-!
# References stay sound through a history

An edit moves no cell before the first row or column, and only an insertion moves one behind the
last. The ends of an area move with cells that it means, so they stay on the sheet and in order, and
how the area is written does not change. Hence what is read lies on the sheet after any history
without insertions; after any history at all, it still lies behind the first row and column.
-/

namespace GridFormula

namespace Band

variable {b : Band} {sheet : SheetId} {i : Int}

/-- An insertion moves no line towards the first one. -/
lemma le_afterInsertion (hb : 0 ≤ b.count) : i ≤ b.afterInsertion sheet i := by
  unfold afterInsertion insertionShift
  split <;> omega

/-- A line that stays moves towards the first one at most. -/
lemma afterRemoval_bounds (hb : b.WellFormed) (hi : 0 ≤ i) (hstays : ¬(sheet = b.sheet ∧ i ∈ b)) :
    0 ≤ b.afterRemoval sheet i ∧ b.afterRemoval sheet i ≤ i := by
  obtain ⟨hstart, hcount⟩ := hb
  unfold afterRemoval removalShift
  split
  · next hbehind =>
    have hout : i ∉ b := fun hmem => hstays ⟨hbehind.1, hmem⟩
    rw [mem_iff, last] at hout
    omega
  · omega

end Band

namespace Relocation

/-- A move that has passed its check keeps its cells on the sheet. -/
lemma onSheet_moved {l : Locale} {m : Relocation} (hm : m.checked l = .ok m) {c : Cell}
    (hc : c ∈ m.source) (axis : Axis) :
    OnSheet (some l) axis ((c.moved m.toSheet m.right m.down).along axis) := by
  unfold checked at hm
  split at hm
  · cases hm
  · next hin =>
    obtain ⟨hcolumn, hin⟩ := not_or.mp hin
    obtain ⟨hrow, hin⟩ := not_or.mp hin
    obtain ⟨hcolumn', hrow'⟩ := not_or.mp hin
    rw [Rect.mem_iff] at hc
    cases axis with
    | row =>
      have halong : (c.moved m.toSheet m.right m.down).along .row = c.row + m.down := rfl
      rw [halong]
      refine ⟨by omega, ?_⟩
      rintro l' ⟨⟩
      rw [Locale.count]
      omega
    | column =>
      have halong : (c.moved m.toSheet m.right m.down).along .column = c.column + m.right := rfl
      rw [halong]
      refine ⟨by omega, ?_⟩
      rintro l' ⟨⟩
      rw [Locale.count]
      omega

end Relocation

namespace Edit

variable {l : Locale} {limit : Option Locale} {e : Edit} {axis : Axis} {formula : Cell}

/-- The edit respects a limit of the sheets: only without one it may insert lines. -/
def Respects (e : Edit) (l : Locale) (limit : Option Locale) : Prop :=
  e.Checked l ∧ ∀ l' ∈ limit, l' = l ∧ ∀ axis b, e ≠ .insert axis b

/-- No cell leaves the sheet. -/
lemma onSheet_place (he : e.Respects l limit) {c : Cell} (hc : OnSheet limit axis (c.along axis))
    (hstays : ¬e.Removes c) : OnSheet limit axis ((e.rewriting.place c).along axis) := by
  obtain ⟨hchecked, hlimit⟩ := he
  cases e with
  | insert a b =>
    by_cases ha : a = axis
    · subst ha
      have hcount := (Band.checked_eq_ok_iff.mp hchecked).2.2
      rw [rewriting, Band.along_place_insertion]
      refine ⟨hc.1.trans (Band.le_afterInsertion hcount.le), ?_⟩
      intro l' hl'
      exact absurd rfl ((hlimit l' hl').2 a b)
    · rw [along_place_of_ne (insert a b) (fun _ _ => by simp) (fun h => ha (Option.some.inj h))]
      exact hc
  | remove a b =>
    by_cases ha : a = axis
    · subst ha
      obtain ⟨hge, hle⟩ :=
        Band.afterRemoval_bounds (Band.checked_eq_ok_iff.mp hchecked).2 hc.1 hstays
      rw [rewriting, Band.along_place_removal]
      exact ⟨hge, fun l' hl' => lt_of_le_of_lt hle (hc.2 l' hl')⟩
    · rw [along_place_of_ne (remove a b) (fun _ _ => by simp) (fun h => ha (Option.some.inj h))]
      exact hc
  | move inside outside =>
    obtain ⟨rfl, hm⟩ := hchecked
    rw [rewriting, Rewriting.within]
    dsimp only
    split
    · next hmem =>
      exact (Relocation.onSheet_moved hm hmem axis).mono fun l' hl' =>
        congrArg some (hlimit l' hl').1.symm
    · exact hc
  | removeSheet sheet => exact hc

/-! ## Areas -/

section

variable {α : Type} [Qualified α] {fr : Frame α} {r : Area α} {o : Outcome (Area α)}

/-- What is left of a sound area is sound. -/
lemma isSound_of_treats (he : e.Respects l limit) (hr : r.IsSound fr limit formula)
    (ho : e.Treats fr formula r o) (hne : o ≠ .lost) :
    (o.getD r).IsSound fr limit (e.rewriting.place formula) := by
  have htrims := ho.trims hne
  -- Every line that is left holds a cell that was on the sheet before.
  have hline : ∀ a, ∀ g ∈ fr.grip? a, ∀ i ∈ (·.along a) '' e.remains (r.cells fr formula),
      OnSheet limit a i := by
    rintro a g hg _ ⟨_, ⟨c, ⟨hc, hstays⟩, rfl⟩, rfl⟩
    obtain ⟨hfirst, hlast⟩ := hc.2 a g hg
    exact onSheet_place he ((hr.first a g hg).of_between (hr.last a g hg) hfirst hlast) hstays
  have hends : ∀ a, ∀ g ∈ fr.grip? a,
      g.index (o.getD r).first ((e.rewriting.place formula).along a) ≤
          g.index (o.getD r).last ((e.rewriting.place formula).along a) ∧
        OnSheet limit a (g.index (o.getD r).first ((e.rewriting.place formula).along a)) ∧
        OnSheet limit a (g.index (o.getD r).last ((e.rewriting.place formula).along a)) := by
    intro a g hg
    by_cases ha : e.axis? = some a
    · obtain ⟨hleast, hgreatest⟩ := htrims.edited a g hg ha
      exact ⟨hgreatest.2 hleast.1, hline a g hg _ hleast.1, hline a g hg _ hgreatest.1⟩
    · obtain ⟨hfirst, hlast⟩ := htrims.others a g hg ha
      rw [hfirst, hlast]
      exact ⟨hr.ordered a g hg, hr.first a g hg, hr.last a g hg⟩
  have hcoherent : (o.getD r).IsCoherent := by
    constructor
    · rw [htrims.sheets.1, htrims.sheets.2]
      exact hr.coherent.sheets
    · rw [htrims.qualification, htrims.sheets.1]
      exact hr.coherent.qualified
  exact ⟨hcoherent, fun a g hg => (hends a g hg).1, fun a g hg => (hends a g hg).2.1,
    fun a g hg => (hends a g hg).2.2⟩

/-- A sound area that is not lost is sound after any edit, if it is after a move and an edit that is
no move leaves of it what its cells span. -/
lemma isSound_area (he : e.Respects l limit) (hr : r.IsSound fr limit formula)
    (hmove : ∀ m, e = relocate m → (o.getD r).IsSound fr limit (e.rewriting.place formula))
    (htreats : (∀ m n, e ≠ .move m n) → e.Treats fr formula r o) (hne : o ≠ .lost) :
    (o.getD r).IsSound fr limit (e.rewriting.place formula) := by
  by_cases hm : ∀ m n, e ≠ .move m n
  · exact isSound_of_treats he hr (htreats hm) hne
  · push Not at hm
    obtain ⟨inside, outside, rfl⟩ := hm
    obtain rfl := he.1.1
    exact hmove inside rfl

end

/-- A sound area of cells is sound after a move. -/
lemma isSound_cells_relocate {m : Relocation} (he : (relocate m).Respects l limit)
    {r : Area CellRef} (hr : r.IsSound CellRef.frame limit formula) :
    (((relocate m).rewriting.cells r formula).getD r).IsSound CellRef.frame limit
      ((relocate m).rewriting.place formula) := by
  obtain ⟨⟨-, hm⟩, hlimit⟩ := he
  have hcoherent := ((relocate m).keepsCoherence.cells r formula hr.coherent).getD hr.coherent
  have hrow : (r.first.resolve formula).row ≤ (r.last.resolve formula).row :=
    hr.ordered .row _ rfl
  have hcolumn : (r.first.resolve formula).column ≤ (r.last.resolve formula).column :=
    hr.ordered .column _ rfl
  obtain ⟨-, f, -, hfirst, hlast, hf⟩ := m.exists_step hr.coherent.sheets formula
  -- An end moves only together with the area, and then it is one of the cells that are moved.
  have hend : ∀ e : CellRef, (m.movesArea r formula = true → e.resolve formula ∈ m.source) →
      (∀ axis, OnSheet limit axis ((e.coord axis).resolve (formula.along axis))) →
        (f e).IsSound limit ((relocate m).rewriting.place formula) := by
    intro e hin he axis
    rw [hf]
    split
    · next hmoves =>
      exact (Relocation.onSheet_moved hm (hin hmoves) axis).mono fun l' hl' =>
        congrArg some (hlimit l' hl').1.symm
    · rw [CellRef.along_resolve]
      exact he axis
  have hfirstSound := hend r.first (fun h => (m.movesArea_iff_ends.mp h).1)
    fun axis => hr.first axis _ rfl
  have hlastSound := hend r.last (fun h => (m.movesArea_iff_ends.mp h).2)
    fun axis => hr.last axis _ rfl
  refine Area.isSound_cells hcoherent ?_ ?_ (hfirst ▸ hfirstSound) (hlast ▸ hlastSound)
  · rw [hfirst, hlast, hf, hf]
    split
    · exact Int.add_le_add_right hrow m.down
    · exact hrow
  · rw [hfirst, hlast, hf, hf]
    split
    · exact Int.add_le_add_right hcolumn m.right
    · exact hcolumn

/-- Sound rows or columns are sound after a move. -/
lemma isSound_lines_relocate (m : Relocation) {r : Area LineRef}
    (hr : r.IsSound (LineRef.frame axis) limit formula) :
    (((relocate m).rewriting.lines axis r formula).getD r).IsSound (LineRef.frame axis) limit
      ((relocate m).rewriting.place formula) := by
  have hcoherent := ((relocate m).keepsCoherence.lines axis r formula hr.coherent).getD hr.coherent
  have hgrip := LineRef.grip_mem_frame axis
  obtain ⟨hfirst, hlast⟩ := m.resolve_lines_relocate formula axis hr.coherent.sheets
  refine Area.isSound_lines hcoherent ?_ ?_ ?_
  · rw [hfirst, hlast]
    exact hr.ordered axis _ hgrip
  · rw [hfirst]
    exact hr.first axis _ hgrip
  · rw [hlast]
    exact hr.last axis _ hgrip

/-! ## Atoms -/

/-- A sound area of cells that is not lost is sound after any edit. -/
lemma isSound_cells (he : e.Respects l limit) {r : Area CellRef}
    (hr : r.IsSound CellRef.frame limit formula) (hne : e.rewriting.cells r formula ≠ .lost) :
    ((e.rewriting.cells r formula).getD r).IsSound CellRef.frame limit
      (e.rewriting.place formula) := by
  refine isSound_area he hr ?_ (fun hm => treats_cells he.1 hm hr.isProper) hne
  rintro m rfl
  exact isSound_cells_relocate he hr

/-- Sound rows or columns that are not lost are sound after any edit. -/
lemma isSound_lines (he : e.Respects l limit) {r : Area LineRef}
    (hr : r.IsSound (LineRef.frame axis) limit formula)
    (hne : e.rewriting.lines axis r formula ≠ .lost) :
    ((e.rewriting.lines axis r formula).getD r).IsSound (LineRef.frame axis) limit
      (e.rewriting.place formula) := by
  refine isSound_area he hr ?_ (fun hm => treats_lines he.1 hm hr.isProper) hne
  rintro m rfl
  exact isSound_lines_relocate m hr

section

variable (hrows : l.rowCount ≤ 0x80000000) (hcolumns : l.columnCount ≤ 0x80000000)

include hrows hcolumns

end

end Edit

end GridFormula
