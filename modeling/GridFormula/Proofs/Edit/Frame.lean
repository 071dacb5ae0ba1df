import GridFormula.Formula.Tree
import GridFormula.Proofs.Edit.Ends
import Mathlib.Data.Int.Order.Basic
import Mathlib.Data.Set.Basic

/-!
# What an area spans

A reference to a cell has a coordinate on each axis and one to a line has only one. Where a
reference has no coordinate, an area reaches over the whole sheet; where it has one, the area goes
from its first end to its last. An area is proper in a cell if its ends lie on one sheet and are in
order as seen from there. Every proper area means some cells, and each of its lines has one of them.
-/

namespace GridFormula

/-- The coordinates that a kind of references has: access to the one on each axis, if there is one.
Changing it leaves those on other axes alone. -/
structure Frame (α : Type) [Qualified α] where
  grip? : Axis → Option (Grip α)
  isLawful : ∀ {axis}, ∀ g ∈ grip? axis, g.IsLawful
  coord_withCoord : ∀ {a b}, a ≠ b → ∀ g ∈ grip? a, ∀ g' ∈ grip? b, ∀ r c,
    g'.coord (g.withCoord r c) = g'.coord r

/-- A reference to a cell has a coordinate on each axis. -/
def CellRef.frame : Frame CellRef where
  grip? axis := some (CellRef.grip axis)
  isLawful := by
    rintro axis _ ⟨⟩
    exact CellRef.isLawful_grip axis
  coord_withCoord := by
    rintro a b hne _ ⟨⟩ _ ⟨⟩ r c
    exact r.coord_withCoord_of_ne hne c

/-- A reference to a line has a coordinate on the axis of its line only. -/
def LineRef.frame (axis : Axis) : Frame LineRef where
  grip? a := if a = axis then some LineRef.grip else none
  isLawful := by
    intro a g hg
    obtain ⟨-, ⟨⟩⟩ := Option.ite_none_right_eq_some.mp hg
    exact LineRef.isLawful_grip
  coord_withCoord := by
    intro a b hne g hg g' hg'
    obtain ⟨rfl, -⟩ := Option.ite_none_right_eq_some.mp hg
    obtain ⟨rfl, -⟩ := Option.ite_none_right_eq_some.mp hg'
    exact absurd rfl hne

/-- A reference to a line has its coordinate on the axis of the line. -/
lemma LineRef.grip_mem_frame (axis : Axis) : LineRef.grip ∈ (LineRef.frame axis).grip? axis :=
  if_pos rfl

/-- A reference to a line has no coordinate on the other axis. -/
lemma LineRef.grip?_frame_of_ne {a axis : Axis} (h : a ≠ axis) :
    (LineRef.frame axis).grip? a = none :=
  if_neg h

namespace Area

variable {α : Type} [Qualified α] {fr : Frame α} {r : Area α} {base : Cell}

/-- Where other lines are given to an area on one axis, its coordinates on the others stay. -/
lemma Resized.coord_eq {axis other : Axis} {g g' : Grip α} {s : Area α} {origin i j : Int}
    (h : Resized g r s origin i j) (hne : other ≠ axis) (hg : g ∈ fr.grip? axis)
    (hg' : g' ∈ fr.grip? other) :
    g'.coord s.first = g'.coord r.first ∧ g'.coord s.last = g'.coord r.last := by
  obtain ⟨m, hfirst⟩ := h.first.eq_shift
  obtain ⟨n, hlast⟩ := h.last.eq_shift
  rw [hfirst, hlast]
  exact ⟨fr.coord_withCoord (Ne.symm hne) g hg g' hg' _ _,
    fr.coord_withCoord (Ne.symm hne) g hg g' hg' _ _⟩

/-- Both ends of the area name the same sheet or none, and seen from `base` they are in order. -/
structure IsProper (fr : Frame α) (base : Cell) (r : Area α) : Prop where
  sheets : Qualified.sheet r.last = Qualified.sheet r.first
  ordered : ∀ axis, ∀ g ∈ fr.grip? axis,
    g.index r.first (base.along axis) ≤ g.index r.last (base.along axis)

/-- The cells that an area means in a formula at `base`. -/
def cells (fr : Frame α) (r : Area α) (base : Cell) : Set Cell :=
  {c | c.sheet = r.resolvedSheet base.sheet ∧ ∀ axis, ∀ g ∈ fr.grip? axis,
    g.index r.first (base.along axis) ≤ c.along axis ∧
      c.along axis ≤ g.index r.last (base.along axis)}

/-- An area of cells is proper if its ends name one sheet and are in order on both axes. -/
lemma isProper_cells_iff {r : Area CellRef} : r.IsProper CellRef.frame base ↔
    r.last.sheet = r.first.sheet ∧
      r.first.row.resolve base.row ≤ r.last.row.resolve base.row ∧
      r.first.column.resolve base.column ≤ r.last.column.resolve base.column := by
  constructor
  · intro h
    exact ⟨h.sheets, h.ordered .row _ rfl, h.ordered .column _ rfl⟩
  · rintro ⟨hs, hrow, hcolumn⟩
    refine ⟨hs, ?_⟩
    rintro axis _ ⟨⟩
    cases axis with
    | row => exact hrow
    | column => exact hcolumn

/-- The rectangle of an area with its ends in order goes from the first end to the last. -/
lemma IsProper.mem_rect_iff {r : Area CellRef} (h : r.IsProper CellRef.frame base) {c : Cell} :
    c ∈ r.rect base ↔ c.sheet = (r.first.resolve base).sheet ∧
      (r.first.resolve base).row ≤ c.row ∧ c.row ≤ (r.last.resolve base).row ∧
      (r.first.resolve base).column ≤ c.column ∧ c.column ≤ (r.last.resolve base).column := by
  obtain ⟨-, hrow, hcolumn⟩ := isProper_cells_iff.mp h
  have hrow' : (r.first.resolve base).row ≤ (r.last.resolve base).row := hrow
  have hcolumn' : (r.first.resolve base).column ≤ (r.last.resolve base).column := hcolumn
  rw [Rect.mem_iff, rect, Rect.spanned]
  simp only [min_eq_left hrow', max_eq_right hrow', min_eq_left hcolumn', max_eq_right hcolumn']

/-- The cells of an area with its ends in order are those of its rectangle. So what
`Edit.treats_areas` says of the cells of an area and what `Relocation.movesArea_iff` says of its
rectangle are about the same cells. -/
theorem IsProper.mem_cells_iff {r : Area CellRef} (h : r.IsProper CellRef.frame base) {c : Cell} :
    c ∈ r.cells CellRef.frame base ↔ c ∈ r.rect base := by
  rw [h.mem_rect_iff]
  constructor
  · rintro ⟨hs, hin⟩
    obtain ⟨hrow, hrow'⟩ := hin .row _ rfl
    obtain ⟨hcolumn, hcolumn'⟩ := hin .column _ rfl
    exact ⟨hs, hrow, hrow', hcolumn, hcolumn'⟩
  · rintro ⟨hs, hrow, hrow', hcolumn, hcolumn'⟩
    refine ⟨hs, ?_⟩
    rintro axis _ ⟨⟩
    cases axis with
    | row => exact ⟨hrow, hrow'⟩
    | column => exact ⟨hcolumn, hcolumn'⟩

/-- Every line of a proper area has a cell of the area. On an axis without ends that is any line. -/
lemma IsProper.exists_mem_cells (h : r.IsProper fr base) (axis : Axis) {i : Int}
    (hi : ∀ g ∈ fr.grip? axis,
      g.index r.first (base.along axis) ≤ i ∧ i ≤ g.index r.last (base.along axis)) :
    ∃ c ∈ r.cells fr base, c.along axis = i := by
  -- On the other axis any line of the area will do, and the first one is one.
  let f : Axis → Int := fun a =>
    if a = axis then i else (fr.grip? a).elim 0 fun g => g.index r.first (base.along a)
  have halong : ∀ a, Cell.along ⟨r.resolvedSheet base.sheet, f .column, f .row⟩ a = f a := by
    intro a
    cases a <;> rfl
  refine ⟨⟨r.resolvedSheet base.sheet, f .column, f .row⟩, ⟨rfl, ?_⟩, ?_⟩
  · intro a g hg
    rw [halong]
    by_cases ha : a = axis
    · subst ha
      simpa [f] using hi g hg
    · have hg' : fr.grip? a = some g := hg
      simpa [f, ha, hg'] using h.ordered a g hg
  · rw [halong]
    simp [f]

/-- The same for an axis with ends. -/
lemma IsProper.exists_mem_line (h : r.IsProper fr base) {axis : Axis} {g : Grip α}
    (hg : g ∈ fr.grip? axis) {i : Int} (hfirst : g.index r.first (base.along axis) ≤ i)
    (hlast : i ≤ g.index r.last (base.along axis)) : ∃ c ∈ r.cells fr base, c.along axis = i := by
  refine h.exists_mem_cells axis fun g' hg' => ?_
  rw [Option.mem_unique hg' hg]
  exact ⟨hfirst, hlast⟩

/-- A proper area means some cell. -/
lemma IsProper.nonempty_cells (h : r.IsProper fr base) : (r.cells fr base).Nonempty := by
  cases hg : fr.grip? .row with
  | none =>
    obtain ⟨c, hc, -⟩ := h.exists_mem_cells .row (i := 0) (by simp [hg])
    exact ⟨c, hc⟩
  | some g =>
    obtain ⟨c, hc, -⟩ := h.exists_mem_line hg (Int.le_refl _) (h.ordered .row g hg)
    exact ⟨c, hc⟩

end Area

/-- Seen from `base`, the ends of an area are in order and lie on one sheet. -/
def Atom.IsProper (base : Cell) : Atom → Prop
  | .cells r => r.IsProper CellRef.frame base
  | .lines axis r => r.IsProper (LineRef.frame axis) base
  | _ => True

/-- Both ends of an area name the same sheet, or none. -/
def Atom.IsOnOneSheet : Atom → Prop
  | .cells r => Qualified.sheet r.last = Qualified.sheet r.first
  | .lines _ r => Qualified.sheet r.last = Qualified.sheet r.first
  | _ => True

end GridFormula
