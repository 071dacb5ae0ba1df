import GridFormula.Proofs.Edit.Narrowing
import Mathlib.Order.Bounds.Image

/-!
# What inserting and removing leaves of an area

Inserting or removing rows or columns, or removing a sheet, moves some of the cells that an area
means and removes others. If it removes all of them, the area is lost. Otherwise the new area goes,
on the axis of the edit, from the first to the last line that any cell left over is on afterwards,
and on the other axis it stays as it is. The form of the reference does not change.
-/

namespace GridFormula

namespace Edit

/-- The axis on which the edit inserts or removes lines. -/
def axis? : Edit → Option Axis
  | insert axis _ | remove axis _ => some axis
  | move _ _ | removeSheet _ => none

/-- Where the cells are after the edit, those that it removes apart. -/
def remains (e : Edit) (cells : Set Cell) : Set Cell :=
  e.rewriting.place '' {c ∈ cells | ¬e.Removes c}

variable {α : Type} [Qualified α]

/-- In a formula that was at `formula`, the area `s` is what the edit leaves of `r`. -/
structure Trims (e : Edit) (fr : Frame α) (formula : Cell) (r s : Area α) : Prop where
  qualification : s.qualification = r.qualification
  sheets : Qualified.sheet s.first = Qualified.sheet r.first ∧
    Qualified.sheet s.last = Qualified.sheet r.last
  resolvedSheet :
    s.resolvedSheet (e.rewriting.place formula).sheet = r.resolvedSheet formula.sheet
  anchors : ∀ axis, ∀ g ∈ fr.grip? axis,
    (g.coord s.first).anchor = (g.coord r.first).anchor ∧
      (g.coord s.last).anchor = (g.coord r.last).anchor
  edited : ∀ axis, ∀ g ∈ fr.grip? axis, e.axis? = some axis →
    IsLeast ((·.along axis) '' e.remains (r.cells fr formula))
        (g.index s.first ((e.rewriting.place formula).along axis)) ∧
      IsGreatest ((·.along axis) '' e.remains (r.cells fr formula))
        (g.index s.last ((e.rewriting.place formula).along axis))
  others : ∀ axis, ∀ g ∈ fr.grip? axis, e.axis? ≠ some axis →
    g.index s.first ((e.rewriting.place formula).along axis) =
        g.index r.first (formula.along axis) ∧
      g.index s.last ((e.rewriting.place formula).along axis) =
        g.index r.last (formula.along axis)

/-- The area is lost if the edit leaves none of its cells, and otherwise becomes what is left. -/
structure Treats (e : Edit) (fr : Frame α) (formula : Cell) (r : Area α)
    (o : Outcome (Area α)) : Prop where
  lost_iff : o = .lost ↔ ∀ c ∈ r.cells fr formula, e.Removes c
  trims : o ≠ .lost → e.Trims fr formula r (o.getD r)

variable {e : Edit} {fr : Frame α} {formula : Cell} {axis : Axis} {r s : Area α}

/-! ## The lines that are left -/

/-- Where the cells of each line move together, the lines that are left are those that stay, moved
in the same way. -/
lemma image_along_remains {cells : Set Cell} {f : Int → Int}
    (h : ∀ c ∈ cells, (e.rewriting.place c).along axis = f (c.along axis)) :
    (·.along axis) '' e.remains cells =
      f '' ((·.along axis) '' {c ∈ cells | ¬e.Removes c}) := by
  rw [remains, Set.image_image, Set.image_image]
  exact Set.image_congr fun c hc => h c hc.1

/-- An edit that is no move leaves a cell where it is along another axis. -/
lemma along_place_of_ne (e : Edit) (hm : ∀ m n, e ≠ .move m n) (h : e.axis? ≠ some axis)
    (c : Cell) : (e.rewriting.place c).along axis = c.along axis := by
  cases e with
  | insert a b => exact c.along_shift_of_ne (fun heq => h (congrArg some heq)) _
  | remove a b => exact c.along_shift_of_ne (fun heq => h (congrArg some heq)) _
  | move m n => exact absurd rfl (hm m n)
  | removeSheet sheet => rfl

/-- An edit that is no move leaves every cell on its sheet. -/
lemma sheet_place (e : Edit) (hm : ∀ m n, e ≠ .move m n) (c : Cell) :
    (e.rewriting.place c).sheet = c.sheet := by
  cases e with
  | insert a b => exact c.sheet_shift a _
  | remove a b => exact c.sheet_shift a _
  | move m n => exact absurd rfl (hm m n)
  | removeSheet sheet => rfl

/-- An area that keeps its ends, where no end is on the axis of the edit. -/
lemma trims_self (hm : ∀ m n, e ≠ .move m n) (h : ∀ axis, e.axis? = some axis →
    fr.grip? axis = none) (formula : Cell) (r : Area α) : e.Trims fr formula r r where
  qualification := rfl
  sheets := ⟨rfl, rfl⟩
  resolvedSheet := by rw [e.sheet_place hm]
  anchors _ _ _ := ⟨rfl, rfl⟩
  edited axis g hg he := by
    rw [h axis he] at hg
    cases hg
  others axis g hg he := by
    rw [e.along_place_of_ne hm he]
    exact ⟨rfl, rfl⟩

/-- An area without ends on the axis of the edit, one cell of which stays, is left as it is. -/
lemma treats_unchanged (hm : ∀ m n, e ≠ .move m n)
    (h : ∀ axis, e.axis? = some axis → fr.grip? axis = none) {c : Cell}
    (hc : c ∈ r.cells fr formula) (hstays : ¬e.Removes c) :
    e.Treats fr formula r .unchanged := by
  refine ⟨⟨?_, ?_⟩, fun _ => trims_self hm h formula r⟩
  · intro hlost
    cases hlost
  · exact fun hall => absurd (hall c hc) hstays

/-- An area whose ends on the axis of the edit are on the first and on the last line left. -/
lemma trims_of_resized (hm : ∀ m n, e ≠ .move m n) (he : e.axis? = some axis) {g : Grip α}
    (hg : g ∈ fr.grip? axis) {i j : Int}
    (h : Area.Resized g r s ((e.rewriting.place formula).along axis) i j)
    (hi : IsLeast ((·.along axis) '' e.remains (r.cells fr formula)) i)
    (hj : IsGreatest ((·.along axis) '' e.remains (r.cells fr formula)) j) :
    e.Trims fr formula r s := by
  have hlaw := fr.isLawful g hg
  -- A coordinate on another axis is the same as before.
  have hother : ∀ a, a ≠ axis → ∀ g' ∈ fr.grip? a,
      g'.coord s.first = g'.coord r.first ∧ g'.coord s.last = g'.coord r.last :=
    fun a hne g' hg' => h.coord_eq hne hg hg'
  refine ⟨h.qualification, ⟨h.first.sheet_eq hlaw, h.last.sheet_eq hlaw⟩, ?_, ?_, ?_, ?_⟩
  · rw [e.sheet_place hm, h.resolvedSheet_eq hlaw]
  · intro a g' hg'
    by_cases ha : a = axis
    · subst ha
      obtain rfl : g = g' := Option.mem_unique hg hg'
      exact ⟨h.first.anchor_eq hlaw, h.last.anchor_eq hlaw⟩
    · rw [(hother a ha g' hg').1, (hother a ha g' hg').2]
      exact ⟨rfl, rfl⟩
  · intro a g' hg' ha
    obtain rfl : axis = a := Option.some.inj (he.symm.trans ha)
    obtain rfl : g = g' := Option.mem_unique hg hg'
    rw [h.first.index_eq, h.last.index_eq]
    exact ⟨hi, hj⟩
  · intro a g' hg' ha
    have hne : a ≠ axis := fun heq => ha (heq ▸ he)
    rw [e.along_place_of_ne hm ha]
    unfold Grip.index
    rw [(hother a hne g' hg').1, (hother a hne g' hg').2]
    exact ⟨rfl, rfl⟩

end Edit

/-! ## The first and the last line -/

namespace Area

variable {α : Type} [Qualified α] {fr : Frame α} {base : Cell} {axis : Axis} {r : Area α}

/-- Where all cells of an area on one of its lines have a property, the line is among those on which
a cell has it. -/
lemma IsProper.mem_along (h : r.IsProper fr base) {g : Grip α} (hg : g ∈ fr.grip? axis)
    {P : Cell → Prop} {i : Int}
    (hi : g.index r.first (base.along axis) ≤ i ∧ i ≤ g.index r.last (base.along axis))
    (hP : ∀ c ∈ r.cells fr base, c.along axis = i → P c) :
    i ∈ (·.along axis) '' {c ∈ r.cells fr base | P c} := by
  obtain ⟨c, hc, halong⟩ := h.exists_mem_line hg hi.1 hi.2
  exact ⟨c, ⟨hc, hP c hc halong⟩, halong⟩

end Area

namespace Band

variable {α : Type} [Qualified α] {fr : Frame α} {formula : Cell} {axis : Axis} {r : Area α}
  {b : Band} {g : Grip α}

/-! ## Insertion -/

/-- An insertion treats an area with ends on its axis. -/
lemma treats_insertArea (h : r.IsProper fr formula) (hb : 0 ≤ b.count)
    (hg : g ∈ fr.grip? axis) :
    (Edit.insert axis b).Treats fr formula r (b.insertArea axis g r formula) := by
  have hresized := resized_insertArea b axis (fr.isLawful g hg) h.sheets formula
  rw [← along_place_insertion] at hresized
  have hmono : Monotone (b.afterInsertion (r.resolvedSheet formula.sheet)) :=
    fun i j hij => afterInsertion_le_afterInsertion hb _ hij
  have hplace : ∀ c ∈ r.cells fr formula, ((Edit.insert axis b).rewriting.place c).along axis =
      b.afterInsertion (r.resolvedSheet formula.sheet) (c.along axis) := by
    intro c hc
    rw [← hc.1]
    exact b.along_place_insertion axis c
  have hlines := Edit.image_along_remains (f := b.afterInsertion _) hplace
  have hle := h.ordered axis g hg
  have hstays : ∀ c, ¬(Edit.insert axis b).Removes c := fun _ hr => hr
  refine ⟨⟨?_, ?_⟩, fun _ => ?_⟩
  · exact fun hlost => absurd hlost (b.insertArea_ne_lost axis r formula)
  · intro hall
    obtain ⟨c, hc⟩ := h.nonempty_cells
    exact absurd (hall c hc) (hstays c)
  · refine Edit.trims_of_resized (fun _ _ => by simp) rfl hg hresized ?_ ?_
    · rw [hlines]
      have hmem := h.mem_along hg ⟨Int.le_refl _, hle⟩ fun c _ _ => hstays c
      refine hmono.map_isLeast ⟨hmem, ?_⟩
      rintro _ ⟨c, ⟨hc, -⟩, rfl⟩
      exact (hc.2 axis g hg).1
    · rw [hlines]
      have hmem := h.mem_along hg ⟨hle, Int.le_refl _⟩ fun c _ _ => hstays c
      refine hmono.map_isGreatest ⟨hmem, ?_⟩
      rintro _ ⟨c, ⟨hc, -⟩, rfl⟩
      exact (hc.2 axis g hg).2

/-! ## Removal -/

/-- An edit removes all cells of an area if it removes all its lines. -/
lemma covers_iff (h : r.IsProper fr formula) (hg : g ∈ fr.grip? axis) :
    b.Covers (r.resolvedSheet formula.sheet) (g.index r.first (formula.along axis))
        (g.index r.last (formula.along axis)) ↔
      ∀ c ∈ r.cells fr formula, (Edit.remove axis b).Removes c := by
  have hle := h.ordered axis g hg
  constructor
  · rintro ⟨hs, hfirst, hlast⟩ c hc
    obtain ⟨hci, hcj⟩ := hc.2 axis g hg
    exact ⟨hc.1.trans hs, hfirst.trans hci, hcj.trans hlast⟩
  · intro hall
    obtain ⟨c, hc, hci⟩ := h.exists_mem_line hg (Int.le_refl _) hle
    obtain ⟨d, hd, hdj⟩ := h.exists_mem_line hg hle (Int.le_refl _)
    obtain ⟨hs, hfirst⟩ := hall c hc
    obtain ⟨-, hlast⟩ := hall d hd
    rw [hci] at hfirst
    rw [hdj] at hlast
    exact ⟨hc.1.symm.trans hs, hfirst.1, hlast.2⟩

/-- A removal treats an area with ends on its axis. -/
lemma treats_removeArea (h : r.IsProper fr formula) (hg : g ∈ fr.grip? axis) :
    (Edit.remove axis b).Treats fr formula r (b.removeArea axis g r formula) := by
  have hle := h.ordered axis g hg
  have hremoves : ∀ c ∈ r.cells fr formula, (Edit.remove axis b).Removes c ↔
      r.resolvedSheet formula.sheet = b.sheet ∧ c.along axis ∈ b := by
    intro c hc
    rw [← hc.1]
    exact Iff.rfl
  by_cases hcovers : b.Covers (r.resolvedSheet formula.sheet)
      (g.index r.first (formula.along axis)) (g.index r.last (formula.along axis))
  · have hlost := removeArea_eq_lost b axis hcovers
    refine ⟨⟨fun _ => (covers_iff h hg).mp hcovers, fun _ => hlost⟩, ?_⟩
    exact fun hne => absurd hlost hne
  · obtain ⟨hne, hresized⟩ := resized_removeArea b axis (fr.isLawful g hg) h.sheets hcovers
    rw [← along_place_removal] at hresized
    -- Only lines that stay keep their order: a removed line is moved past those in front of the
    -- band.
    have hmono : MonotoneOn (b.afterRemoval (r.resolvedSheet formula.sheet))
        ((·.along axis) '' {c ∈ r.cells fr formula | ¬(Edit.remove axis b).Removes c}) := by
      rintro i - _ ⟨d, ⟨hd, hstays⟩, rfl⟩ hij
      exact afterRemoval_le_afterRemoval hij (mt (hremoves d hd).mpr hstays)
    have hplace : ∀ c ∈ r.cells fr formula, ((Edit.remove axis b).rewriting.place c).along axis =
        b.afterRemoval (r.resolvedSheet formula.sheet) (c.along axis) := by
      intro c hc
      rw [← hc.1]
      exact b.along_place_removal axis c
    have hlines := Edit.image_along_remains (f := b.afterRemoval _) hplace
    refine ⟨⟨fun hlost => absurd hlost hne, fun hall => ?_⟩, fun _ => ?_⟩
    · exact absurd ((covers_iff h hg).mpr hall) hcovers
    · refine Edit.trims_of_resized (fun _ _ => by simp) rfl hg hresized ?_ ?_
      · rw [hlines]
        refine hmono.map_isLeast ⟨h.mem_along hg (le_keptOr_first hle hcovers) ?_, ?_⟩
        · intro c hc hci
          rw [hremoves c hc, hci]
          exact keptOr_stays b.last_add_one_not_mem _ _
        · rintro _ ⟨c, ⟨hc, hstays⟩, rfl⟩
          exact keptOr_first_le (hc.2 axis g hg).1 (mt (hremoves c hc).mpr hstays)
      · rw [hlines]
        refine hmono.map_isGreatest ⟨h.mem_along hg (keptOr_last_le hle hcovers) ?_, ?_⟩
        · intro c hc hci
          rw [hremoves c hc, hci]
          exact keptOr_stays b.start_sub_one_not_mem _ _
        · rintro _ ⟨c, ⟨hc, hstays⟩, rfl⟩
          exact le_keptOr_last (hc.2 axis g hg).2 (mt (hremoves c hc).mpr hstays)

/-- Where an area has no ends, some of its lines stay. -/
lemma treats_unchanged_removal (h : r.IsProper fr formula) (hg : fr.grip? axis = none) :
    (Edit.remove axis b).Treats fr formula r .unchanged := by
  obtain ⟨c, hc, halong⟩ := h.exists_mem_cells axis (i := b.last + 1) (by simp [hg])
  refine Edit.treats_unchanged (fun _ _ => by simp) ?_ hc ?_
  · intro a ha
    rwa [← Option.some.inj ha]
  · rintro ⟨-, hmem⟩
    rw [halong] at hmem
    exact b.last_add_one_not_mem hmem

/-- Where an area has no ends, an insertion leaves it as it is. -/
lemma treats_unchanged_insertion (h : r.IsProper fr formula) (hg : fr.grip? axis = none) :
    (Edit.insert axis b).Treats fr formula r .unchanged := by
  obtain ⟨c, hc⟩ := h.nonempty_cells
  refine Edit.treats_unchanged (fun _ _ => by simp) ?_ hc fun hr => hr
  intro a ha
  rwa [← Option.some.inj ha]

end Band

namespace Edit

variable {α : Type} [Qualified α] {fr : Frame α} {formula : Cell} {r : Area α}

/-! ## Removing a sheet -/

/-- Removing a sheet treats any area: it loses those on the sheet and leaves the others. -/
lemma treats_sheetRemoval (h : r.IsProper fr formula) (sheet : SheetId) :
    (Edit.removeSheet sheet).Treats fr formula r
      (if r.resolvedSheet formula.sheet = sheet then .lost else .unchanged) := by
  have hremoves : ∀ c ∈ r.cells fr formula, (Edit.removeSheet sheet).Removes c ↔
      r.resolvedSheet formula.sheet = sheet := by
    intro c hc
    rw [← hc.1]
    exact Iff.rfl
  split
  · next hs =>
    refine ⟨⟨fun _ c hc => (hremoves c hc).mpr hs, fun _ => rfl⟩, ?_⟩
    exact fun hne => absurd rfl hne
  · next hs =>
    obtain ⟨c, hc⟩ := h.nonempty_cells
    refine treats_unchanged (fun _ _ => by simp) ?_ hc (mt (hremoves c hc).mp hs)
    intro a ha
    cases ha

/-! ## Any of these edits -/

variable {l : Locale} {e : Edit}

/-- An edit other than a move treats rows or columns. -/
lemma treats_lines (hc : e.Checked l) (hm : ∀ m n, e ≠ .move m n) {axis : Axis}
    {r : Area LineRef} (h : r.IsProper (LineRef.frame axis) formula) :
    e.Treats (LineRef.frame axis) formula r (e.rewriting.lines axis r formula) := by
  cases e with
  | insert a b =>
    have hb := (Band.checked_eq_ok_iff.mp hc).2.2
    by_cases ha : axis = a
    · subst ha
      rw [rewriting, Band.insertion]
      simp only [if_true]
      exact Band.treats_insertArea h hb.le (LineRef.grip_mem_frame axis)
    · rw [rewriting, Band.insertion]
      simp only [if_neg ha]
      exact Band.treats_unchanged_insertion h (LineRef.grip?_frame_of_ne (Ne.symm ha))
  | remove a b =>
    by_cases ha : axis = a
    · subst ha
      rw [rewriting, Band.removal]
      simp only [if_true]
      exact Band.treats_removeArea h (LineRef.grip_mem_frame axis)
    · rw [rewriting, Band.removal]
      simp only [if_neg ha]
      exact Band.treats_unchanged_removal h (LineRef.grip?_frame_of_ne (Ne.symm ha))
  | move m n => exact absurd rfl (hm m n)
  | removeSheet sheet => exact treats_sheetRemoval h sheet

/-- An edit other than a move treats areas of cells. -/
lemma treats_cells (hc : e.Checked l) (hm : ∀ m n, e ≠ .move m n) {r : Area CellRef}
    (h : r.IsProper CellRef.frame formula) :
    e.Treats CellRef.frame formula r (e.rewriting.cells r formula) := by
  cases e with
  | insert a b =>
    have hb := (Band.checked_eq_ok_iff.mp hc).2.2
    exact Band.treats_insertArea h hb.le rfl
  | remove a b => exact Band.treats_removeArea h rfl
  | move m n => exact absurd rfl (hm m n)
  | removeSheet sheet => exact treats_sheetRemoval h sheet

end Edit

end GridFormula
