import GridFormula.Edit.History
import Mathlib.Tactic.Common

/-!
# What an edit does to one reference

An edit moves the cells of a workbook or removes them, and it rewrites the references of formulas.
Both are the same thing seen from two sides: if the cell that a reference means is removed, the
reference is lost, and otherwise the new reference, read from the new place of the formula, means
the new place of the cell. This holds wherever the formula stands. In particular the edit may move
the formula with the cell, without it, or only the cell.
-/

namespace GridFormula

namespace CellRef

/-- Both coordinates are tied to the grid in the same way. -/
def SameKind (r s : CellRef) : Prop :=
  r.column.anchor = s.column.anchor ∧ r.row.anchor = s.row.anchor

/-- A reference is of its own kind. -/
lemma SameKind.refl (r : CellRef) : r.SameKind r :=
  ⟨rfl, rfl⟩

/-- References of one kind with a third are of one kind. -/
lemma SameKind.trans {r s t : CellRef} (h : r.SameKind s) (h' : s.SameKind t) : r.SameKind t :=
  ⟨h.1.trans h'.1, h.2.trans h'.2⟩

end CellRef

namespace Edit

/-- An edit that has passed the check made when it is built: a band holds a line and starts on the
grid, and a move keeps its cells on a sheet and treats formulas on both sides alike. -/
def Checked (l : Locale) : Edit → Prop
  | insert _ b | remove _ b => Band.checked b.sheet b.start b.count = .ok b
  | move inside outside => inside = outside ∧ inside.checked l = .ok inside
  | removeSheet _ => True

/-- The cells that an edit removes: those on the lines of a removed band or on a removed sheet. -/
def Removes : Edit → Cell → Prop
  | remove axis b, c => c.sheet = b.sheet ∧ c.along axis ∈ b
  | removeSheet sheet, c => c.sheet = sheet
  | insert _ _, _ | move _ _, _ => False

instance decidableRemoves (e : Edit) (c : Cell) : Decidable (e.Removes c) :=
  match e with
  | .remove axis b => inferInstanceAs (Decidable (c.sheet = b.sheet ∧ c.along axis ∈ b))
  | .removeSheet sheet => inferInstanceAs (Decidable (c.sheet = sheet))
  | .insert _ _ => inferInstanceAs (Decidable False)
  | .move _ _ => inferInstanceAs (Decidable False)

end Edit

namespace Outcome

/-- The reference lives on, keeps its kind, and means `target` in a formula at `place`. -/
def LeadsTo (o : Outcome CellRef) (r : CellRef) (place target : Cell) : Prop :=
  o ≠ .lost ∧ (o.getD r).SameKind r ∧ (o.getD r).resolve place = target

/-- A reference that means the target already may stay. -/
lemma leadsTo_unchanged {r : CellRef} {place target : Cell} (h : r.resolve place = target) :
    (unchanged : Outcome CellRef).LeadsTo r place target :=
  ⟨nofun, .refl r, h⟩

/-- A new reference of the same kind leads to the target that it means. -/
lemma leadsTo_ofNew {r s : CellRef} {place target : Cell} (hk : s.SameKind r)
    (h : s.resolve place = target) : (ofNew r s).LeadsTo r place target := by
  refine ⟨?_, by rwa [getD_ofNew], by rwa [getD_ofNew]⟩
  unfold ofNew
  split <;> nofun

end Outcome

/-! ## Rows and columns -/

namespace Grip

variable {α : Type} [Qualified α]

/-- Changing the coordinate does not change the sheet. -/
def KeepsSheet (g : Grip α) : Prop :=
  ∀ r c, Qualified.sheet (g.withCoord r c) = Qualified.sheet r

/-- A grip reads back the coordinate that it has written, and changes nothing else. -/
structure IsLawful (g : Grip α) : Prop where
  coord_withCoord (r : α) (c : Coord) : g.coord (g.withCoord r c) = c
  withCoord_withCoord (r : α) (c d : Coord) : g.withCoord (g.withCoord r c) d = g.withCoord r d
  withCoord_coord (r : α) : g.withCoord r (g.coord r) = r
  keepsSheet : g.KeepsSheet

/-- Moving a reference by nothing leaves it as it is. -/
lemma IsLawful.shift_zero {g : Grip α} (hg : g.IsLawful) (r : α) : g.shift r 0 = r := by
  have hcoord : (g.coord r).shift 0 = g.coord r := by simp [Coord.shift]
  rw [shift, hcoord, hg.withCoord_coord]

end Grip

/-- A reference to a cell gives back the coordinate put into it. -/
lemma CellRef.isLawful_grip (axis : Axis) : (CellRef.grip axis).IsLawful where
  coord_withCoord r c := r.coord_withCoord axis c
  withCoord_withCoord _ _ _ := by cases axis <;> rfl
  withCoord_coord _ := by cases axis <;> rfl
  keepsSheet r c := r.sheet_withCoord axis c

/-- A reference to a line gives back the coordinate put into it. -/
lemma LineRef.isLawful_grip : LineRef.grip.IsLawful where
  coord_withCoord _ _ := rfl
  withCoord_withCoord _ _ _ := rfl
  withCoord_coord _ := rfl
  keepsSheet _ _ := rfl

/-- A relative coordinate takes up the move of the formula as well as that of its line. -/
lemma resolve_shift_follow (c : Coord) (m n origin : Int) :
    (c.shift (if c.isAbsolute then m else m - n)).resolve (origin + n) = c.resolve origin + m := by
  obtain ⟨anchor, value⟩ := c
  cases anchor
  · simp only [Coord.isAbsolute, Coord.shift, Coord.resolve, reduceCtorEq, decide_false,
      Bool.false_eq_true, if_false]
    omega
  · simp only [Coord.isAbsolute, Coord.shift, Coord.resolve, decide_true, if_true]

/-- Following a target does not lose the reference. -/
lemma follow_ne_lost {α : Type} (g : Grip α) (r : α) (m n : Int) : g.follow r m n ≠ .lost := by
  unfold Grip.follow
  generalize (if (g.coord r).isAbsolute then m else m - n) = k
  by_cases h : k = 0 <;> simp [h]

/-- Where the stored value does not change, the reference is left as it is. -/
lemma Grip.IsLawful.getD_follow {α : Type} [Qualified α] {g : Grip α} (hg : g.IsLawful) (r : α)
    (m n : Int) :
    (g.follow r m n).getD r = g.shift r (if (g.coord r).isAbsolute then m else m - n) := by
  unfold Grip.follow
  generalize (if (g.coord r).isAbsolute then m else m - n) = k
  by_cases h : k = 0
  · simp [h, hg.shift_zero, Outcome.getD]
  · simp [h, Outcome.getD]

/-- A reference whose line moves by `m` while the formula moves by `n` goes on meaning its cell. -/
lemma leadsTo_follow (axis : Axis) (r : CellRef) (formula : Cell) (m n : Int) :
    ((CellRef.grip axis).follow r m n).LeadsTo r (formula.shift axis n)
      ((r.resolve formula).shift axis m) := by
  refine ⟨follow_ne_lost _ r m n, ?_, ?_⟩
  · rw [(CellRef.isLawful_grip axis).getD_follow]
    cases axis <;> exact ⟨rfl, rfl⟩
  · rw [(CellRef.isLawful_grip axis).getD_follow]
    cases axis
    · exact Cell.ext rfl rfl (resolve_shift_follow r.row m n formula.row)
    · exact Cell.ext rfl (resolve_shift_follow r.column m n formula.column) rfl

namespace Band

/-- An insertion leads a reference to the new place of its cell. -/
lemma leadsTo_insertReference (b : Band) (axis : Axis) (r : CellRef) (formula : Cell) :
    (b.insertReference axis (CellRef.grip axis) r formula).LeadsTo r
      ((b.insertion axis).place formula) ((b.insertion axis).place (r.resolve formula)) := by
  have h := leadsTo_follow axis r formula
    (b.insertionShift (r.resolve formula).sheet ((r.resolve formula).along axis))
    (b.insertionShift formula.sheet (formula.along axis))
  rw [CellRef.along_resolve] at h
  simp only [insertion, CellRef.along_resolve]
  exact h

/-- A line that stays moves as a formula on it does. -/
lemma survivorShift?_eq {b : Band} {sheet : SheetId} {index : Int}
    (h : ¬(sheet = b.sheet ∧ index ∈ b)) :
    b.survivorShift? sheet index = some (b.removalShift sheet index) := by
  rw [mem_iff] at h
  unfold survivorShift? removalShift
  by_cases hs : sheet = b.sheet
  · by_cases hi : b.start ≤ index
    · have hlast : b.last < index := by
        by_contra hle
        exact h ⟨hs, hi, by omega⟩
      have hstay : ¬(sheet ≠ b.sheet ∨ index < b.start) := by
        rintro (hne | hlt)
        · exact hne hs
        · omega
      rw [if_neg hstay, if_pos hlast, if_pos ⟨hs, hi⟩]
    · rw [if_pos (Or.inr (by omega)), if_neg (fun h => hi h.2)]
  · rw [if_pos (Or.inl hs), if_neg (fun h => hs h.1)]

/-- The lines of the band do not survive. -/
lemma survivorShift?_eq_none {b : Band} {sheet : SheetId} {index : Int} (hs : sheet = b.sheet)
    (hi : index ∈ b) : b.survivorShift? sheet index = none := by
  obtain ⟨hfirst, hlast⟩ := mem_iff.mp hi
  have hstay : ¬(sheet ≠ b.sheet ∨ index < b.start) := by
    rintro (hne | hlt)
    · exact hne hs
    · omega
  unfold survivorShift?
  rw [if_neg hstay, if_neg (by omega)]

/-- A removal leads a reference to the new place of its cell if the cell stays. -/
lemma leadsTo_removeReference {b : Band} {axis : Axis} {r : CellRef} {formula : Cell}
    (h : ¬(Edit.remove axis b).Removes (r.resolve formula)) :
    (b.removeReference axis (CellRef.grip axis) r formula).LeadsTo r
      ((b.removal axis).place formula) ((b.removal axis).place (r.resolve formula)) := by
  have hshift := survivorShift?_eq (h : ¬(_ ∧ _))
  rw [CellRef.along_resolve] at hshift
  have hfollow := leadsTo_follow axis r formula
    (b.removalShift (r.resolve formula).sheet ((r.coord axis).resolve (formula.along axis)))
    (b.removalShift formula.sheet (formula.along axis))
  simp only [removal, CellRef.along_resolve]
  unfold removeReference
  rw [show b.survivorShift? (Qualified.resolvedSheet r formula.sheet)
    (((CellRef.grip axis).coord r).resolve (formula.along axis)) = some _ from hshift]
  exact hfollow

/-- A removal loses the references to its cells. -/
lemma removeReference_eq_lost {b : Band} {axis : Axis} {r : CellRef} {formula : Cell}
    (h : (Edit.remove axis b).Removes (r.resolve formula)) :
    b.removeReference axis (CellRef.grip axis) r formula = .lost := by
  obtain ⟨hs, hi⟩ := h
  rw [CellRef.along_resolve] at hi
  unfold removeReference
  rw [show b.survivorShift? (Qualified.resolvedSheet r formula.sheet)
    (((CellRef.grip axis).coord r).resolve (formula.along axis)) = none from
      survivorShift?_eq_none hs hi]

end Band

/-! ## Moved rectangles -/

namespace Coord

/-- A coordinate that moves along with its line and its formula. -/
lemma resolve_shiftAbsolute (c : Coord) (n origin : Int) :
    (c.shiftAbsolute n).resolve (origin + n) = c.resolve origin + n := by
  obtain ⟨anchor, value⟩ := c
  cases anchor
  · simp only [shiftAbsolute, resolve, Int.add_assoc]
  · simp only [shiftAbsolute, resolve, shift]

/-- A coordinate whose line stays while its formula moves. -/
lemma resolve_shiftRelative (c : Coord) (n origin : Int) :
    (c.shiftRelative (-n)).resolve (origin + n) = c.resolve origin := by
  obtain ⟨anchor, value⟩ := c
  cases anchor
  · simp only [shiftRelative, resolve, shift]
    omega
  · simp only [shiftRelative, resolve]

/-- Moving an absolute coordinate does not change the anchor. -/
@[simp] lemma anchor_shiftAbsolute (c : Coord) (n : Int) :
    (c.shiftAbsolute n).anchor = c.anchor := by
  unfold shiftAbsolute
  split <;> rfl

/-- Moving a relative coordinate does not change the anchor. -/
@[simp] lemma anchor_shiftRelative (c : Coord) (n : Int) :
    (c.shiftRelative n).anchor = c.anchor := by
  unfold shiftRelative
  split <;> rfl

end Coord

namespace Relocation

variable {m : Relocation} {r : CellRef} {formula : Cell}

/-- A reference that moves along with its formula. -/
lemma resolve_carried (m : Relocation) (r : CellRef) (formula : Cell) :
    (m.carried r).resolve (formula.moved m.toSheet m.right m.down) =
      (r.resolve formula).moved m.toSheet m.right m.down := by
  refine Cell.ext ?_ (Coord.resolve_shiftAbsolute _ _ _) (Coord.resolve_shiftAbsolute _ _ _)
  cases h : r.sheet <;> simp [carried, CellRef.resolve, Cell.moved, h]

/-- A reference that stays behind when its formula moves away. -/
lemma resolve_left (hf : formula ∈ m.source) :
    (m.left r).resolve (formula.moved m.toSheet m.right m.down) = r.resolve formula := by
  have hsheet : formula.sheet = m.source.sheet := hf.1
  unfold left
  dsimp only
  split
  · next h =>
    refine Cell.ext ?_ (Coord.resolve_shiftRelative _ _ _) (Coord.resolve_shiftRelative _ _ _)
    simp [CellRef.resolve, h.1, hsheet]
  · next h =>
    refine Cell.ext ?_ (Coord.resolve_shiftRelative _ _ _) (Coord.resolve_shiftRelative _ _ _)
    cases hr : r.sheet with
    | none =>
      have hto : m.toSheet = m.source.sheet := by
        by_contra hne
        exact h ⟨hr, hne⟩
      simp [CellRef.resolve, CellRef.shiftRelative, Cell.moved, hr, hto, hsheet]
    | some s => simp [CellRef.resolve, CellRef.shiftRelative, hr]

/-- A reference that follows its cell from outside. -/
lemma resolve_followed (m : Relocation) (r : CellRef) (formula : Cell) :
    (m.followed r formula).resolve formula =
      (r.resolve formula).moved m.toSheet m.right m.down := by
  unfold followed
  dsimp only
  split
  · exact Cell.ext rfl (Coord.resolve_shift _ _ _) (Coord.resolve_shift _ _ _)
  · next h =>
    refine Cell.ext ?_ (Coord.resolve_shift _ _ _) (Coord.resolve_shift _ _ _)
    cases hr : r.sheet with
    | none =>
      have hto : m.toSheet = formula.sheet := by
        by_contra hne
        exact h ⟨hr, hne⟩
      simp [CellRef.resolve, CellRef.moved, CellRef.shift, Cell.moved, hr, hto]
    | some s => simp [CellRef.resolve, CellRef.moved, CellRef.shift, Cell.moved, hr]

/-- A reference that moves with its cell keeps its kind. -/
lemma sameKind_carried (m : Relocation) (r : CellRef) : (m.carried r).SameKind r :=
  ⟨Coord.anchor_shiftAbsolute _ _, Coord.anchor_shiftAbsolute _ _⟩

/-- A reference that is left behind keeps its kind. -/
lemma sameKind_left (m : Relocation) (r : CellRef) : (m.left r).SameKind r := by
  unfold left
  dsimp only
  split <;> exact ⟨Coord.anchor_shiftRelative _ _, Coord.anchor_shiftRelative _ _⟩

/-- A reference that follows its cell keeps its kind. -/
lemma sameKind_followed (m : Relocation) (r : CellRef) (formula : Cell) :
    (m.followed r formula).SameKind r := by
  unfold followed
  dsimp only
  split <;> exact ⟨rfl, rfl⟩

/-- A move, on either side of the rectangle, makes every reference follow its cell. -/
lemma leadsTo_relocate (m : Relocation) (r : CellRef) (formula : Cell) :
    ((Edit.relocate m).rewriting.cell r formula).LeadsTo r
      ((Edit.relocate m).rewriting.place formula)
      ((Edit.relocate m).rewriting.place (r.resolve formula)) := by
  simp only [Edit.relocate, Edit.rewriting, Rewriting.within, inside, outside, moves]
  by_cases hf : formula ∈ m.source <;> by_cases hr : r.resolve formula ∈ m.source
  · simp only [hf, hr, if_true, decide_true]
    exact Outcome.leadsTo_ofNew (m.sameKind_carried r) (m.resolve_carried r formula)
  · simp only [hf, hr, if_true, if_false, decide_false, Bool.false_eq_true]
    exact Outcome.leadsTo_ofNew (m.sameKind_left r) (resolve_left hf)
  · simp only [hf, hr, if_true, if_false, decide_true]
    exact Outcome.leadsTo_ofNew (m.sameKind_followed r formula) (m.resolve_followed r formula)
  · simp only [hf, hr, if_false, decide_false, Bool.false_eq_true]
    exact Outcome.leadsTo_unchanged rfl

end Relocation

/-! ## Any edit -/

namespace Edit

variable {l : Locale} {e : Edit} {r : CellRef} {formula : Cell}

/-- A reference to a cell that stays in the workbook follows its cell. -/
theorem leadsTo_cell (hc : e.Checked l) (h : ¬e.Removes (r.resolve formula)) :
    (e.rewriting.cell r formula).LeadsTo r (e.rewriting.place formula)
      (e.rewriting.place (r.resolve formula)) := by
  cases e with
  | insert axis b => exact b.leadsTo_insertReference axis r formula
  | remove axis b => exact Band.leadsTo_removeReference h
  | move inside outside =>
    obtain ⟨rfl, -⟩ := hc
    exact inside.leadsTo_relocate r formula
  | removeSheet sheet =>
    have hs : ¬r.sheet.getD formula.sheet = sheet := h
    simp only [rewriting, sheetRemoval, if_neg hs]
    exact Outcome.leadsTo_unchanged rfl

/-- A reference to a cell that is removed is lost. -/
theorem cell_eq_lost (h : e.Removes (r.resolve formula)) :
    e.rewriting.cell r formula = .lost := by
  cases e with
  | insert axis b => exact h.elim
  | remove axis b => exact Band.removeReference_eq_lost h
  | move inside outside => exact h.elim
  | removeSheet sheet => exact if_pos h

end Edit

end GridFormula
