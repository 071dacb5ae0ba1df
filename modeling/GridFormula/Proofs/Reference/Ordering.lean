import GridFormula.Reference.Area
import Mathlib.Data.Int.Order.Basic
import Mathlib.Data.List.Perm.Basic
import Mathlib.Order.MinMax
import Mathlib.Tactic.Common

/-!
# The ends of an area in order

The two ends of an area may be written in any order. They are put in order for each axis by itself,
by what they mean in the cell of the formula, and so the first end of an area of cells may take its
column from one of the written cells and its row from the other. Only whole coordinates change
places: a `$` stays with its coordinate. What the area means does not change, and putting it in
order again changes nothing.
-/

namespace GridFormula

/-- The coordinates `first` and `last` are `a` and `b`, each with its own kind, in the order of what
they mean in a formula at index `origin`. -/
structure Coord.IsOrdering (origin : Int) (a b first last : Coord) : Prop where
  le : first.resolve origin ≤ last.resolve origin
  perm : [first, last].Perm [a, b]

/-- A rectangle is spanned by its corners. -/
lemma Rect.spanned_eq_self {r : Rect} (hsheet : r.last.sheet = r.first.sheet)
    (hcolumn : r.first.column ≤ r.last.column) (hrow : r.first.row ≤ r.last.row) :
    Rect.spanned r.first r.last = r := by
  obtain ⟨⟨sheet, left, top⟩, ⟨sheet', right, bottom⟩⟩ := r
  obtain rfl : sheet' = sheet := hsheet
  simp only [Rect.spanned, min_eq_left hcolumn, min_eq_left hrow, max_eq_right hcolumn,
    max_eq_right hrow]

namespace Area

/-! ## Two values in order -/

section

variable {β : Type} (key : β → Int) (a b : β)

/-- The first of two values in order has the smaller key, and the second one the greater. -/
lemma inOrder_key :
    key (inOrder key a b).1 = min (key a) (key b) ∧ key (inOrder key a b).2 = max (key a) (key b) := by
  unfold inOrder
  split
  · next h => exact ⟨(min_eq_right h.le).symm, (max_eq_left h.le).symm⟩
  · next h => exact ⟨(min_eq_left (not_lt.mp h)).symm, (max_eq_right (not_lt.mp h)).symm⟩

/-- Two values in order are in order. -/
lemma inOrder_le : key (inOrder key a b).1 ≤ key (inOrder key a b).2 := by
  obtain ⟨hfirst, hlast⟩ := inOrder_key key a b
  rw [hfirst, hlast]
  exact min_le_max

/-- Two values in order are the two given ones. -/
lemma inOrder_perm : [(inOrder key a b).1, (inOrder key a b).2].Perm [a, b] := by
  unfold inOrder
  split
  · exact .swap a b []
  · exact .refl _

/-- What holds of two values holds of them in order. -/
lemma inOrder_of {P : β → Prop} {a b : β} (ha : P a) (hb : P b) :
    P (inOrder key a b).1 ∧ P (inOrder key a b).2 := by
  have h : ∀ c ∈ [(inOrder key a b).1, (inOrder key a b).2], P c := by
    simpa [(inOrder_perm key a b).mem_iff] using ⟨ha, hb⟩
  exact ⟨h _ (by simp), h _ (by simp)⟩

/-- Two values that are in order stay. -/
lemma inOrder_eq_self {a b : β} (h : key a ≤ key b) : inOrder key a b = (a, b) :=
  if_neg (Int.not_lt.mpr h)

/-- Two values in order stay as they are. -/
lemma inOrder_inOrder :
    inOrder key (inOrder key a b).1 (inOrder key a b).2 = inOrder key a b :=
  inOrder_eq_self key (inOrder_le key a b)

end

/-- Two coordinates are put in order by the lines that they mean. -/
lemma isOrdering_inOrder (origin : Int) (a b : Coord) :
    Coord.IsOrdering origin a b (inOrder (fun c : Coord => c.resolve origin) a b).1
      (inOrder (fun c : Coord => c.resolve origin) a b).2 where
  le := inOrder_le (fun c : Coord => c.resolve origin) a b
  perm := inOrder_perm (fun c : Coord => c.resolve origin) a b

/-! ## Two sheets in order -/

/-- A sheet is in order with itself. -/
lemma sheetsInOrder_self (s : Option SheetId) : sheetsInOrder s s = (s, s) := by
  cases s with
  | none => rfl
  | some s => simp [sheetsInOrder]

/-- Two sheets in order stay as they are. -/
lemma sheetsInOrder_sheetsInOrder (s t : Option SheetId) :
    sheetsInOrder (sheetsInOrder s t).1 (sheetsInOrder s t).2 = sheetsInOrder s t := by
  cases s with
  | none => cases t <;> rfl
  | some s =>
    cases t with
    | none => rfl
    | some t =>
      rw [sheetsInOrder]
      split
      · next h => exact if_neg (lt_asymm h)
      · next h => exact if_neg h

/-- Putting two sheets in order does not change whether both are named. -/
lemma isSome_sheetsInOrder (s t : Option SheetId) :
    (sheetsInOrder s t).1.isSome = (sheetsInOrder s t).2.isSome ↔ s.isSome = t.isSome := by
  cases s with
  | none => cases t <;> simp [sheetsInOrder]
  | some s =>
    cases t with
    | none => simp [sheetsInOrder]
    | some t =>
      rw [sheetsInOrder]
      split <;> rfl

/-- An area whose ends name two sheets in order is one unless just one of the sheets is named. -/
lemma checked_of_sheetsInOrder {α : Type} [Qualified α] {r : Area α} {s t : Option SheetId}
    (hfirst : Qualified.sheet r.first = (sheetsInOrder s t).1)
    (hlast : Qualified.sheet r.last = (sheetsInOrder s t).2) :
    (r.checked = .error .mixedSheets ↔ s.isSome ≠ t.isSome) ∧ (s = t → r.checked = .ok r) := by
  have hnamed : (Qualified.sheet r.first).isSome = (Qualified.sheet r.last).isSome ↔
      s.isSome = t.isSome := by
    rw [hfirst, hlast, isSome_sheetsInOrder]
  unfold checked
  rw [Ne, ← hnamed]
  constructor
  · split
    · next h => exact ⟨nofun, fun hne => absurd h hne⟩
    · next h => exact ⟨fun _ => h, fun _ => rfl⟩
  · intro hsame
    exact if_pos (hnamed.mpr (congrArg _ hsame))

/-! ## Two ends in order -/

/-- The area `r` lies between the cells `a` and `b` as they are seen from `base`, and its first end
is above and left of its last one. -/
structure OrdersCells (base : Cell) (a b : CellRef) (r : Area CellRef) : Prop where
  firstSheet : r.first.sheet = a.sheet
  lastSheet : r.last.sheet = b.sheet
  coords : ∀ axis, Coord.IsOrdering (base.along axis) (a.coord axis) (b.coord axis)
    (r.first.coord axis) (r.last.coord axis)
  rect : r.rect base = .spanned (a.resolve base) (b.resolve base)

/-- The area `r` runs from one of the lines `a` and `b` to the other as they are seen from `base`,
from the smaller index to the greater one. -/
structure OrdersLines (axis : Axis) (base : Cell) (a b : LineRef) (r : Area LineRef) : Prop where
  firstSheet : r.first.sheet = a.sheet
  lastSheet : r.last.sheet = b.sheet
  coords : Coord.IsOrdering (base.along axis) a.position b.position r.first.position r.last.position
  first : (r.first.resolve axis base).index =
    min (a.resolve axis base).index (b.resolve axis base).index
  last : (r.last.resolve axis base).index =
    max (a.resolve axis base).index (b.resolve axis base).index

section

variable (q : Qualification) (base : Cell)

/-- The area between two cells of one sheet is the least rectangle with both. -/
lemma rect_ofCells {a b : CellRef} (hsheet : a.sheet = b.sheet) :
    (ofCells a b q base).rect base = .spanned (a.resolve base) (b.resolve base) := by
  obtain ⟨hleft, hright⟩ := inOrder_key (fun c : Coord => c.resolve base.column) a.column b.column
  obtain ⟨htop, hbottom⟩ := inOrder_key (fun c : Coord => c.resolve base.row) a.row b.row
  have hfirst : (ofCells a b q base).first.resolve base =
      (Rect.spanned (a.resolve base) (b.resolve base)).first := by
    refine Cell.ext ?_ hleft htop
    simp [ofCells, CellRef.resolve, Rect.spanned, hsheet, sheetsInOrder_self]
  have hlast : (ofCells a b q base).last.resolve base =
      (Rect.spanned (a.resolve base) (b.resolve base)).last := by
    refine Cell.ext ?_ hright hbottom
    simp [ofCells, CellRef.resolve, Rect.spanned, hsheet, sheetsInOrder_self]
  rw [rect, hfirst, hlast]
  exact Rect.spanned_eq_self rfl min_le_max min_le_max

/-- An area of cells puts two references on one sheet in order. -/
lemma ordersCells_ofCells {a b : CellRef} (hsheet : a.sheet = b.sheet) :
    OrdersCells base a b (ofCells a b q base) where
  firstSheet := by simp [ofCells, hsheet, sheetsInOrder_self]
  lastSheet := by simp [ofCells, hsheet, sheetsInOrder_self]
  coords axis := by
    cases axis with
    | row => exact isOrdering_inOrder base.row a.row b.row
    | column => exact isOrdering_inOrder base.column a.column b.column
  rect := rect_ofCells q base hsheet

/-- Rows or columns put two references on one sheet in order. -/
lemma ordersLines_ofLines (axis : Axis) {a b : LineRef} (hsheet : a.sheet = b.sheet) :
    OrdersLines axis base a b (ofLines axis a b q base) where
  firstSheet := by simp [ofLines, hsheet, sheetsInOrder_self]
  lastSheet := by simp [ofLines, hsheet, sheetsInOrder_self]
  coords := isOrdering_inOrder (base.along axis) a.position b.position
  first := (inOrder_key (fun c : Coord => c.resolve (base.along axis)) a.position b.position).1
  last := (inOrder_key (fun c : Coord => c.resolve (base.along axis)) a.position b.position).2

/-- The ends of an area of cells stay as they are when they are put in order again. -/
lemma ofCells_ofCells (a b : CellRef) :
    ofCells (ofCells a b q base).first (ofCells a b q base).last q base = ofCells a b q base := by
  simp only [ofCells, inOrder_inOrder, sheetsInOrder_sheetsInOrder]

/-- The ends of an area of lines stay as they are when they are put in order again. -/
lemma ofLines_ofLines (axis : Axis) (a b : LineRef) :
    ofLines axis (ofLines axis a b q base).first (ofLines axis a b q base).last q base =
      ofLines axis a b q base := by
  simp only [ofLines, inOrder_inOrder, sheetsInOrder_sheetsInOrder]

/-- Two references are the ends of an area unless just one of them names a sheet. Where they name
the same sheet or none, the area lies between them with its ends in order, and putting these ends in
order gives the same area. -/
theorem ordered_ends :
    (∀ a b : CellRef,
      ((ofCells a b q base).checked = .error .mixedSheets ↔ a.sheet.isSome ≠ b.sheet.isSome) ∧
      (a.sheet = b.sheet → ∃ r, (ofCells a b q base).checked = .ok r ∧ r.qualification = q ∧
        OrdersCells base a b r ∧ (ofCells r.first r.last r.qualification base).checked = .ok r)) ∧
    (∀ axis, ∀ a b : LineRef,
      ((ofLines axis a b q base).checked = .error .mixedSheets ↔ a.sheet.isSome ≠ b.sheet.isSome) ∧
      (a.sheet = b.sheet → ∃ r, (ofLines axis a b q base).checked = .ok r ∧ r.qualification = q ∧
        OrdersLines axis base a b r ∧
        (ofLines axis r.first r.last r.qualification base).checked = .ok r)) := by
  constructor
  · intro a b
    obtain ⟨herror, hok⟩ := checked_of_sheetsInOrder (r := ofCells a b q base) rfl rfl
    refine ⟨herror, fun hsheet => ⟨_, hok hsheet, rfl, ordersCells_ofCells q base hsheet, ?_⟩⟩
    exact (congrArg checked (ofCells_ofCells q base a b)).trans (hok hsheet)
  · intro axis a b
    obtain ⟨herror, hok⟩ := checked_of_sheetsInOrder (r := ofLines axis a b q base) rfl rfl
    refine ⟨herror, fun hsheet => ⟨_, hok hsheet, rfl, ordersLines_ofLines q base axis hsheet, ?_⟩⟩
    exact (congrArg checked (ofLines_ofLines q base axis a b)).trans (hok hsheet)

/-- The area from `B1` to `$A2` is `$A1:B2`: each axis takes its own end. From `C3`, two columns to
the left lie before column `$B`. -/
theorem ordered_ends_backwards :
    let b1 : CellRef := ⟨⟨.relative, 1⟩, ⟨.relative, 0⟩, none⟩
    let a2 : CellRef := ⟨⟨.absolute, 0⟩, ⟨.relative, 1⟩, none⟩
    let r : Area CellRef := ⟨⟨⟨.absolute, 0⟩, ⟨.relative, 0⟩, none⟩,
      ⟨⟨.relative, 1⟩, ⟨.relative, 1⟩, none⟩, .neither⟩
    let b : LineRef := ⟨⟨.absolute, 1⟩, some 2⟩
    let left : LineRef := ⟨⟨.relative, -2⟩, some 2⟩
    (ofCells b1 a2 .neither ⟨0, 0, 0⟩).checked = .ok r ∧ OrdersCells ⟨0, 0, 0⟩ b1 a2 r ∧
      (ofCells r.first r.last .neither ⟨0, 0, 0⟩).checked = .ok r ∧
      (ofLines .column b left .both ⟨0, 2, 2⟩).checked = .ok ⟨left, b, .both⟩ ∧
      OrdersLines .column ⟨0, 2, 2⟩ b left ⟨left, b, .both⟩ := by
  intro b1 a2 r b left
  obtain ⟨r', hok, -, horders, hagain⟩ :=
    ((ordered_ends .neither ⟨0, 0, 0⟩).1 b1 a2).2 (by decide)
  obtain ⟨s, hlines, -, hordersLines, -⟩ :=
    ((ordered_ends .both ⟨0, 2, 2⟩).2 .column b left).2 (by decide)
  cases hok
  cases hlines
  exact ⟨rfl, horders, hagain, rfl, hordersLines⟩

end

end Area

end GridFormula
