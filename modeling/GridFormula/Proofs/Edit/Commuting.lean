import GridFormula.Proofs.Edit.Trimming
import GridFormula.Proofs.Edit.Undoing

/-!
# Edits that commute

Two edits that do not insert or remove lines on one axis of one sheet can be made in either order. A
reference is known by its sheet, by its `$`, and on each axis by the lines that it means as seen
from its formula. Where these lines go depends on nothing but their axis and their sheet. On each
axis of each sheet, one of two such edits leaves all lines where they are or takes all of them away,
and so the order makes no difference to where they end up.
-/

namespace GridFormula

/-! ## Where lines go -/

/-- What becomes of the lines from a first to a last one, given their axis and their sheet; nothing
if they are gone. -/
abbrev Course : Type :=
  Axis → SheetId → Int × Int → Option (Int × Int)

/-- One course after the other. -/
def Course.andThen (f f' : Course) : Course :=
  fun axis sheet lines => (f axis sheet lines).bind (f' axis sheet)

namespace Band

variable {b : Band} {sheet : SheetId}

instance (b : Band) (sheet : SheetId) (i j : Int) : Decidable (b.Covers sheet i j) :=
  inferInstanceAs (Decidable (_ ∧ _))

/-- An insertion on another sheet moves no lines. -/
lemma afterInsertion_of_ne (h : b.sheet ≠ sheet) (i : Int) : b.afterInsertion sheet i = i := by
  rw [afterInsertion, insertionShift, if_neg fun hs => h hs.1.symm, Int.add_zero]

/-- A removal on another sheet moves no lines. -/
lemma afterRemoval_of_ne (h : b.sheet ≠ sheet) (i : Int) : b.afterRemoval sheet i = i := by
  rw [afterRemoval, removalShift, if_neg fun hs => h hs.1.symm, Int.add_zero]

end Band

namespace Edit

/-- The lines that the edit inserts or removes, and their axis. -/
def band? : Edit → Option (Axis × Band)
  | insert axis b | remove axis b => some (axis, b)
  | move _ _ | removeSheet _ => none

/-- The edits do not insert or remove lines on one axis of one sheet. -/
def Independent (e e' : Edit) : Prop :=
  ∀ axis b b', e.band? = some (axis, b) → e'.band? = some (axis, b') → b.sheet ≠ b'.sheet

/-- What an edit other than a move makes of lines. -/
def course : Edit → Course
  | insert axis b, other, sheet, (i, j) =>
    if other = axis then some (b.afterInsertion sheet i, b.afterInsertion sheet j) else some (i, j)
  | remove axis b, other, sheet, (i, j) =>
    if other = axis then
      if b.Covers sheet i j then none
      else some (b.afterRemoval sheet (b.keptOr sheet i (b.last + 1)),
        b.afterRemoval sheet (b.keptOr sheet j (b.start - 1)))
    else some (i, j)
  | removeSheet gone, _, sheet, lines => if sheet = gone then none else some lines
  | move _ _, _, _, lines => some lines

/-- Where an edit other than a move puts a formula that stands on a line. -/
def lineAfter : Edit → Axis → SheetId → Int → Int
  | insert axis b, other, sheet, i => if other = axis then b.afterInsertion sheet i else i
  | remove axis b, other, sheet, i => if other = axis then b.afterRemoval sheet i else i
  | move _ _, _, _, i | removeSheet _, _, _, i => i

/-- The edit inserts and removes no lines on the axis of the sheet. -/
def Leaves (e : Edit) (axis : Axis) (sheet : SheetId) : Prop :=
  ∀ b, e.band? = some (axis, b) → b.sheet ≠ sheet

variable {e e' : Edit} {axis : Axis} {sheet : SheetId}

/-- Of two independent edits one leaves the lines of a sheet on an axis alone. -/
lemma Independent.leaves (h : e.Independent e') (axis : Axis) (sheet : SheetId) :
    e.Leaves axis sheet ∨ e'.Leaves axis sheet := by
  by_contra hno
  obtain ⟨hleft, hright⟩ := not_or.mp hno
  simp only [Leaves, not_forall, not_not] at hleft hright
  obtain ⟨b, hb, rfl⟩ := hleft
  obtain ⟨b', hb', hsheet⟩ := hright
  exact h axis b b' hb hb' hsheet.symm

/-- Then lines stay where they are, unless they go with their sheet. -/
lemma Leaves.course_eq (h : e.Leaves axis sheet) :
    (∀ lines, e.course axis sheet lines = some lines) ∨
      ∀ lines, e.course axis sheet lines = none := by
  cases e with
  | insert other b =>
    refine Or.inl fun (i, j) => ?_
    by_cases haxis : axis = other
    · have hne := h b (haxis ▸ rfl)
      rw [course, if_pos haxis, Band.afterInsertion_of_ne hne, Band.afterInsertion_of_ne hne]
    · exact if_neg haxis
  | remove other b =>
    refine Or.inl fun (i, j) => ?_
    by_cases haxis : axis = other
    · have hne := h b (haxis ▸ rfl)
      rw [course, if_pos haxis, if_neg fun hcovers => hne hcovers.1.symm,
        Band.keptOr_eq_self fun hin => hne hin.1.symm,
        Band.keptOr_eq_self fun hin => hne hin.1.symm, Band.afterRemoval_of_ne hne,
        Band.afterRemoval_of_ne hne]
    · exact if_neg haxis
  | move inside outside => exact Or.inl fun _ => rfl
  | removeSheet gone =>
    by_cases hgone : sheet = gone
    · exact Or.inr fun _ => if_pos hgone
    · exact Or.inl fun _ => if_neg hgone

/-- An edit that leaves lines alone does not move them. -/
lemma Leaves.lineAfter_eq (h : e.Leaves axis sheet) (i : Int) : e.lineAfter axis sheet i = i := by
  cases e with
  | insert other b =>
    by_cases haxis : axis = other
    · rw [lineAfter, if_pos haxis, Band.afterInsertion_of_ne (h b (haxis ▸ rfl))]
    · exact if_neg haxis
  | remove other b =>
    by_cases haxis : axis = other
    · rw [lineAfter, if_pos haxis, Band.afterRemoval_of_ne (h b (haxis ▸ rfl))]
    · exact if_neg haxis
  | move inside outside => rfl
  | removeSheet gone => rfl

/-- An edit that leaves lines alone may come before or after what happens to them. -/
lemma Leaves.andThen_comm (h : e.Leaves axis sheet) (f : Course) (lines : Int × Int) :
    e.course.andThen f axis sheet lines = f.andThen e.course axis sheet lines := by
  unfold Course.andThen
  rcases h.course_eq with hsame | hgone
  · rw [hsame]
    cases hf : f axis sheet lines with
    | none => simp [hf]
    | some lines' => simp [hf, hsame]
  · rw [hgone]
    cases f axis sheet lines with
    | none => rfl
    | some lines' => simp [hgone]

/-- The order of independent edits makes no difference to where lines go. -/
lemma Independent.andThen_comm (h : e.Independent e') :
    e.course.andThen e'.course = e'.course.andThen e.course := by
  funext axis sheet lines
  rcases h.leaves axis sheet with hleaves | hleaves
  · exact hleaves.andThen_comm e'.course lines
  · exact (hleaves.andThen_comm e.course lines).symm

/-- Where a cell is on an axis after an edit depends on its sheet and on where it was on that axis.
-/
lemma along_place (hm : ∀ m n, e ≠ .move m n) (c : Cell) (axis : Axis) :
    (e.rewriting.place c).along axis = e.lineAfter axis c.sheet (c.along axis) := by
  cases e with
  | insert other b =>
    by_cases haxis : axis = other
    · subst haxis
      rw [lineAfter, if_pos rfl]
      exact b.along_place_insertion axis c
    · rw [lineAfter, if_neg haxis]
      exact c.along_shift_of_ne (Ne.symm haxis) _
  | remove other b =>
    by_cases haxis : axis = other
    · subst haxis
      rw [lineAfter, if_pos rfl]
      exact b.along_place_removal axis c
    · rw [lineAfter, if_neg haxis]
      exact c.along_shift_of_ne (Ne.symm haxis) _
  | move inside outside => exact absurd rfl (hm inside outside)
  | removeSheet gone => rfl

/-- The order of independent edits makes no difference to where a formula goes. -/
lemma Independent.place_comm (h : e.Independent e') (hm : ∀ m n, e ≠ .move m n)
    (hm' : ∀ m n, e' ≠ .move m n) (c : Cell) :
    e'.rewriting.place (e.rewriting.place c) = e.rewriting.place (e'.rewriting.place c) := by
  refine Cell.ext_along ?_ fun axis => ?_
  · rw [e'.sheet_place hm', e.sheet_place hm, e.sheet_place hm, e'.sheet_place hm']
  · rw [along_place hm', along_place hm, along_place hm, along_place hm', e.sheet_place hm,
      e'.sheet_place hm']
    rcases h.leaves axis c.sheet with hleaves | hleaves
    · rw [hleaves.lineAfter_eq, hleaves.lineAfter_eq]
    · rw [hleaves.lineAfter_eq, hleaves.lineAfter_eq]

end Edit

/-! ## References and their lines -/

/-- A coordinate is known by its kind and by the line that it means. -/
lemma Coord.ext_resolve {c d : Coord} {origin : Int} (ha : c.anchor = d.anchor)
    (h : c.resolve origin = d.resolve origin) : c = d := by
  obtain ⟨anchor, value⟩ := c
  obtain ⟨_, value'⟩ := d
  obtain rfl : anchor = _ := ha
  cases anchor <;> simpa [resolve] using h

/-- A reference is known by its sheet and its coordinates. -/
def Frame.Separates {α : Type} [Qualified α] (fr : Frame α) : Prop :=
  ∀ {r s : α}, Qualified.sheet r = Qualified.sheet s →
    (∀ axis, ∀ g ∈ fr.grip? axis, g.coord r = g.coord s) → r = s

/-- A reference to a cell is determined by its coordinates and its sheet. -/
lemma CellRef.separates_frame : CellRef.frame.Separates :=
  fun hs h => CellRef.ext (h .column _ rfl) (h .row _ rfl) hs

/-- A reference to a line is determined by its coordinate and its sheet. -/
lemma LineRef.separates_frame (axis : Axis) : (LineRef.frame axis).Separates :=
  fun hs h => LineRef.ext (h axis _ (LineRef.grip_mem_frame axis)) hs

namespace Area

variable {α : Type} [Qualified α] {fr : Frame α}

/-- The first and the last line of an area, in a formula at index `origin`. -/
def span (g : Grip α) (r : Area α) (origin : Int) : Int × Int :=
  (g.index r.first origin, g.index r.last origin)

/-- In a formula that goes from the cell `formula` to `place`, the area `r` becomes what the course
makes of its lines, and is lost if it makes nothing of them. -/
structure Follows (f : Course) (fr : Frame α) (formula place : Cell) (r : Area α)
    (o : Option (Area α)) : Prop where
  eq_none_iff : o = none ↔ ∃ axis, ∃ g ∈ fr.grip? axis,
    f axis (r.resolvedSheet formula.sheet) (r.span g (formula.along axis)) = none
  sheets : ∀ s ∈ o, r.SameSheets s
  anchors : ∀ s ∈ o, ∀ axis, ∀ g ∈ fr.grip? axis,
    (g.coord s.first).anchor = (g.coord r.first).anchor ∧
      (g.coord s.last).anchor = (g.coord r.last).anchor
  lines : ∀ s ∈ o, ∀ axis, ∀ g ∈ fr.grip? axis,
    f axis (r.resolvedSheet formula.sheet) (r.span g (formula.along axis)) =
      some (s.span g (place.along axis))

variable {f f' : Course} {formula place place' : Cell} {r : Area α}

/-- Areas with the same sheets mean cells of one sheet. -/
lemma SameSheets.resolvedSheet_eq {s : Area α} (h : r.SameSheets s) (home : SheetId) :
    s.resolvedSheet home = r.resolvedSheet home :=
  congrArg (Option.getD · home) h.first

/-- Areas with the same sheets as a third have the same sheets. -/
lemma SameSheets.trans {s t : Area α} (h : r.SameSheets s) (h' : s.SameSheets t) :
    r.SameSheets t :=
  ⟨h'.first.trans h.first, h'.last.trans h.last, h'.qualification.trans h.qualification⟩

/-- What follows two courses, one after the other, follows both together. -/
lemma Follows.andThen {β : Type} {view : β → Area α} {o : Option β} {o' : β → Option (Area α)}
    (h : r.Follows f fr formula place (o.map view)) (hplace : place.sheet = formula.sheet)
    (h' : ∀ x ∈ o, (view x).Follows f' fr place place' (o' x)) :
    r.Follows (f.andThen f') fr formula place' (o.bind o') := by
  cases o with
  | none =>
    obtain ⟨axis, g, hg, hnone⟩ := h.eq_none_iff.mp rfl
    have hboth : f.andThen f' axis (r.resolvedSheet formula.sheet)
        (r.span g (formula.along axis)) = none := by
      rw [Course.andThen, hnone]
      rfl
    exact ⟨iff_of_true rfl ⟨axis, g, hg, hboth⟩, nofun, nofun, nofun⟩
  | some x =>
    have hsheets := h.sheets (view x) rfl
    have hx := h' x rfl
    -- The second course starts from the lines to which the first one has led.
    have hstep : ∀ axis, ∀ g ∈ fr.grip? axis,
        f.andThen f' axis (r.resolvedSheet formula.sheet) (r.span g (formula.along axis)) =
          f' axis ((view x).resolvedSheet place.sheet) ((view x).span g (place.along axis)) := by
      intro axis g hg
      rw [Course.andThen, h.lines (view x) rfl axis g hg, hplace, hsheets.resolvedSheet_eq]
      rfl
    refine ⟨?_, fun s hs => hsheets.trans (hx.sheets s hs), fun s hs axis g hg => ?_,
      fun s hs axis g hg => ?_⟩
    · rw [Option.bind_some, hx.eq_none_iff]
      exact exists_congr fun axis => exists_congr fun g => and_congr_right fun hg => by
        rw [hstep axis g hg]
    · have hfirst := h.anchors (view x) rfl axis g hg
      have hlast := hx.anchors s hs axis g hg
      exact ⟨hlast.1.trans hfirst.1, hlast.2.trans hfirst.2⟩
    · rw [hstep axis g hg]
      exact hx.lines s hs axis g hg

/-- By its course, what becomes of an area is known. -/
lemma Follows.unique (hfr : fr.Separates) {o o' : Option (Area α)}
    (h : r.Follows f fr formula place o) (h' : r.Follows f fr formula place o') : o = o' := by
  cases o with
  | none => exact (h'.eq_none_iff.mpr (h.eq_none_iff.mp rfl)).symm
  | some s =>
    cases o' with
    | none => exact h.eq_none_iff.mpr (h'.eq_none_iff.mp rfl)
    | some s' =>
      have hsheets := h.sheets s rfl
      have hsheets' := h'.sheets s' rfl
      have hcoords : ∀ axis, ∀ g ∈ fr.grip? axis,
          g.coord s.first = g.coord s'.first ∧ g.coord s.last = g.coord s'.last := by
        intro axis g hg
        have hanchors := h.anchors s rfl axis g hg
        have hanchors' := h'.anchors s' rfl axis g hg
        have hspan : s.span g (place.along axis) = s'.span g (place.along axis) :=
          Option.some.inj ((h.lines s rfl axis g hg).symm.trans (h'.lines s' rfl axis g hg))
        obtain ⟨hfirst, hlast⟩ := Prod.mk.inj hspan
        exact ⟨Coord.ext_resolve (hanchors.1.trans hanchors'.1.symm) hfirst,
          Coord.ext_resolve (hanchors.2.trans hanchors'.2.symm) hlast⟩
      have hfirst : s.first = s'.first :=
        hfr (hsheets.first.trans hsheets'.first.symm) fun axis g hg => (hcoords axis g hg).1
      have hlast : s.last = s'.last :=
        hfr (hsheets.last.trans hsheets'.last.symm) fun axis g hg => (hcoords axis g hg).2
      rw [Area.ext hfirst hlast (hsheets.qualification.trans hsheets'.qualification.symm)]

end Area

/-! ## What an edit makes of references -/

/-- The reference after the edit, or nothing if it is lost. -/
def Outcome.toOption {α : Type} : Outcome α → α → Option α
  | unchanged, a => some a
  | shifted b, _ => some b
  | lost, _ => none

/-- A reference that is not lost is there. -/
lemma Outcome.toOption_of_ne_lost {α : Type} {o : Outcome α} (h : o ≠ .lost) (a : α) :
    o.toOption a = some (o.getD a) := by
  cases o with
  | unchanged => rfl
  | shifted b => rfl
  | lost => exact absurd rfl h

namespace Edit

variable {e : Edit} {axis : Axis} {sheet : SheetId} {α : Type} [Qualified α] {fr : Frame α}
  {formula : Cell} {r : Area α}

/-- An edit on another axis leaves lines where they are. -/
lemma course_of_ne (hm : ∀ m n, e ≠ .move m n) {other : Axis} (he : e.axis? = some other)
    (hne : axis ≠ other) (lines : Int × Int) : e.course axis sheet lines = some lines := by
  cases e with
  | insert a b =>
    obtain rfl : a = other := Option.some.inj he
    exact if_neg hne
  | remove a b =>
    obtain rfl : a = other := Option.some.inj he
    exact if_neg hne
  | move inside outside => exact absurd rfl (hm inside outside)
  | removeSheet gone => cases he

/-- An area is lost if its lines on one axis are. -/
lemma follows_none {g : Grip α} (hg : g ∈ fr.grip? axis) {place : Cell}
    (h : e.course axis (r.resolvedSheet formula.sheet) (r.span g (formula.along axis)) = none) :
    r.Follows e.course fr formula place none :=
  ⟨iff_of_true rfl ⟨axis, g, hg, h⟩, nofun, nofun, nofun⟩

/-- An area with ends on the axis of the edit follows the course if its ends there do. -/
lemma follows_of_resized (hm : ∀ m n, e ≠ .move m n) (he : e.axis? = some axis) {g : Grip α}
    (hg : g ∈ fr.grip? axis) {s : Area α} {i j : Int}
    (h : e.course axis (r.resolvedSheet formula.sheet) (r.span g (formula.along axis)) =
      some (i, j))
    (hresized : Area.Resized g r s ((e.rewriting.place formula).along axis) i j) :
    r.Follows e.course fr formula (e.rewriting.place formula) (some s) := by
  have hlaw := fr.isLawful g hg
  -- On the axis of the edit the new lines are given, and on the other one nothing changes.
  have hlines : ∀ other, ∀ g' ∈ fr.grip? other,
      e.course other (r.resolvedSheet formula.sheet) (r.span g' (formula.along other)) =
        some (s.span g' ((e.rewriting.place formula).along other)) := by
    intro other g' hg'
    by_cases hother : other = axis
    · subst hother
      obtain rfl : g = g' := Option.mem_unique hg hg'
      rw [h, Area.span, hresized.first.index_eq, hresized.last.index_eq]
    · obtain ⟨hfirst, hlast⟩ := hresized.coord_eq hother hg hg'
      rw [course_of_ne hm he hother, e.along_place_of_ne hm
        (fun heq => hother (Option.some.inj (heq.symm.trans he)))]
      simp only [Area.span, Grip.index, hfirst, hlast]
  refine ⟨iff_of_false nofun ?_, ?_, ?_, ?_⟩
  · rintro ⟨other, g', hg', hnone⟩
    rw [hlines other g' hg'] at hnone
    cases hnone
  · rintro _ ⟨⟩
    exact ⟨hresized.first.sheet_eq hlaw, hresized.last.sheet_eq hlaw, hresized.qualification⟩
  · rintro _ ⟨⟩ other g' hg'
    by_cases hother : other = axis
    · subst hother
      obtain rfl : g = g' := Option.mem_unique hg hg'
      exact ⟨hresized.first.anchor_eq hlaw, hresized.last.anchor_eq hlaw⟩
    · obtain ⟨hfirst, hlast⟩ := hresized.coord_eq hother hg hg'
      rw [hfirst, hlast]
      exact ⟨rfl, rfl⟩
  · rintro _ ⟨⟩
    exact hlines

/-- An area stays as it is if its lines do. -/
lemma follows_self (h : ∀ axis, ∀ g ∈ fr.grip? axis,
      e.course axis (r.resolvedSheet formula.sheet) (r.span g (formula.along axis)) =
        some (r.span g ((e.rewriting.place formula).along axis))) :
    r.Follows e.course fr formula (e.rewriting.place formula) (some r) := by
  refine ⟨iff_of_false nofun ?_, ?_, ?_, ?_⟩
  · rintro ⟨axis, g, hg, hnone⟩
    rw [h axis g hg] at hnone
    cases hnone
  · rintro _ ⟨⟩
    exact ⟨rfl, rfl, rfl⟩
  · rintro _ ⟨⟩ axis g -
    exact ⟨rfl, rfl⟩
  · rintro _ ⟨⟩
    exact h

/-- Removing a sheet does to an area what it does to its lines. -/
lemma follows_sheetRemoval (gone : SheetId) (hfr : ∃ axis, ∃ g, g ∈ fr.grip? axis) :
    r.Follows (removeSheet gone).course fr formula formula
      ((if r.resolvedSheet formula.sheet = gone then Outcome.lost else .unchanged).toOption r) := by
  split
  · next hgone =>
    obtain ⟨axis, g, hg⟩ := hfr
    exact follows_none hg (if_pos hgone)
  · next hstays => exact follows_self (e := removeSheet gone) fun axis g _ => if_neg hstays

end Edit

/-- The area of a single reference. -/
def Area.single {α : Type} (r : α) : Area α :=
  ⟨r, r, .neither⟩

namespace Band

variable {α : Type} [Qualified α] {fr : Frame α} {formula : Cell} {axis : Axis} {g : Grip α}

/-- An insertion moves both ends of a run of lines. -/
lemma course_insert (b : Band) (axis : Axis) (sheet : SheetId) (i j : Int) :
    (Edit.insert axis b).course axis sheet (i, j) =
      some (b.afterInsertion sheet i, b.afterInsertion sheet j) :=
  if_pos rfl

section

variable {b : Band} {sheet : SheetId} {i j : Int}

/-- A removal loses a run of lines that the band covers. -/
lemma course_remove_of_covers (h : b.Covers sheet i j) (axis : Axis) :
    (Edit.remove axis b).course axis sheet (i, j) = none :=
  (if_pos rfl).trans (if_pos h)

/-- A removal cuts a run of lines that the band does not cover, and moves what is left. -/
lemma course_remove_of_not_covers (h : ¬b.Covers sheet i j) (axis : Axis) :
    (Edit.remove axis b).course axis sheet (i, j) =
      some (b.afterRemoval sheet (b.keptOr sheet i (b.last + 1)),
        b.afterRemoval sheet (b.keptOr sheet j (b.start - 1))) :=
  (if_pos rfl).trans (if_neg h)

end

variable (b : Band) (hg : g ∈ fr.grip? axis)

include hg

/-- An insertion does to an area what it does to its lines. -/
lemma follows_insertArea {r : Area α} (hs : Qualified.sheet r.last = Qualified.sheet r.first) :
    r.Follows (Edit.insert axis b).course fr formula ((b.insertion axis).place formula)
      ((b.insertArea axis g r formula).toOption r) := by
  have hresized := b.resized_insertArea axis (fr.isLawful g hg) hs formula
  rw [← along_place_insertion] at hresized
  rw [Outcome.toOption_of_ne_lost (b.insertArea_ne_lost axis r formula)]
  exact Edit.follows_of_resized (e := .insert axis b) (fun _ _ => by simp) rfl hg
    (b.course_insert axis _ _ _) hresized

/-- A removal does to an area what it does to its lines. -/
lemma follows_removeArea {r : Area α} (hs : Qualified.sheet r.last = Qualified.sheet r.first) :
    r.Follows (Edit.remove axis b).course fr formula ((b.removal axis).place formula)
      ((b.removeArea axis g r formula).toOption r) := by
  by_cases hcovers : b.Covers (r.resolvedSheet formula.sheet)
      (g.index r.first (formula.along axis)) (g.index r.last (formula.along axis))
  · rw [b.removeArea_eq_lost axis hcovers]
    exact Edit.follows_none hg (course_remove_of_covers hcovers axis)
  · obtain ⟨hne, hresized⟩ := b.resized_removeArea axis (fr.isLawful g hg) hs hcovers
    rw [← along_place_removal] at hresized
    rw [Outcome.toOption_of_ne_lost hne]
    exact Edit.follows_of_resized (e := .remove axis b) (fun _ _ => by simp) rfl hg
      (course_remove_of_not_covers hcovers axis) hresized

omit hg

/-- A single reference follows its line. -/
lemma follows_insertReference (axis : Axis) (r : CellRef) :
    (Area.single r).Follows (Edit.insert axis b).course CellRef.frame formula
      ((b.insertion axis).place formula)
      ((((b.insertion axis).cell r formula).toOption r).map Area.single) := by
  have hrepoints := b.repoints_insertReference axis (CellRef.isLawful_grip axis) r formula
  have hne : (b.insertion axis).cell r formula ≠ .lost := follow_ne_lost _ r _ _
  rw [← along_place_insertion] at hrepoints
  rw [Outcome.toOption_of_ne_lost hne]
  exact Edit.follows_of_resized (e := .insert axis b) (fun _ _ => by simp) rfl rfl
    (b.course_insert axis _ _ _) ⟨hrepoints, hrepoints, rfl⟩

/-- A removal does to a reference what it does to the area of its one cell. -/
lemma follows_removeReference (axis : Axis) (r : CellRef) :
    (Area.single r).Follows (Edit.remove axis b).course CellRef.frame formula
      ((b.removal axis).place formula)
      ((((b.removal axis).cell r formula).toOption r).map Area.single) := by
  by_cases hmem : b.Covers (Qualified.resolvedSheet r formula.sheet)
      ((CellRef.grip axis).index r (formula.along axis))
      ((CellRef.grip axis).index r (formula.along axis))
  · have hremoves : (Edit.remove axis b).Removes (r.resolve formula) :=
      ⟨hmem.1, r.along_resolve formula axis ▸ hmem.2⟩
    have hlost : (b.removal axis).cell r formula = .lost := removeReference_eq_lost hremoves
    rw [hlost]
    exact Edit.follows_none (g := CellRef.grip axis) rfl (course_remove_of_covers hmem axis)
  · obtain ⟨hne, hrepoints⟩ := b.repoints_removeReference axis (CellRef.isLawful_grip axis) hmem
    have hne : (b.removal axis).cell r formula ≠ .lost := hne
    have hcourse := course_remove_of_not_covers hmem axis
    rw [keptOr_eq_self hmem, keptOr_eq_self hmem] at hcourse
    rw [← along_place_removal] at hrepoints
    rw [Outcome.toOption_of_ne_lost hne]
    exact Edit.follows_of_resized (e := .remove axis b) (fun _ _ => by simp) rfl rfl hcourse
      ⟨hrepoints, hrepoints, rfl⟩

end Band

namespace Edit

variable {e : Edit} (hm : ∀ m n, e ≠ .move m n) (formula : Cell)

include hm

/-- Edits other than moves do to a reference what they do to the lines of its cell. -/
lemma follows_cell (r : CellRef) :
    (Area.single r).Follows e.course CellRef.frame formula (e.rewriting.place formula)
      (((e.rewriting.cell r formula).toOption r).map Area.single) := by
  cases e with
  | insert axis b => exact b.follows_insertReference axis r
  | remove axis b => exact b.follows_removeReference axis r
  | move inside outside => exact absurd rfl (hm inside outside)
  | removeSheet gone =>
    by_cases hgone : r.sheet.getD formula.sheet = gone
    · have hlost : (removeSheet gone).rewriting.cell r formula = .lost := if_pos hgone
      rw [hlost]
      exact follows_none (g := CellRef.grip .row) rfl (if_pos hgone)
    · have hsame : (removeSheet gone).rewriting.cell r formula = .unchanged := if_neg hgone
      rw [hsame]
      exact follows_self (e := removeSheet gone) fun _ _ _ => if_neg hgone

/-- Edits other than moves do to an area of cells what they do to its lines. -/
lemma follows_cells {r : Area CellRef} (hs : Qualified.sheet r.last = Qualified.sheet r.first) :
    r.Follows e.course CellRef.frame formula (e.rewriting.place formula)
      ((e.rewriting.cells r formula).toOption r) := by
  cases e with
  | insert axis b => exact b.follows_insertArea rfl hs
  | remove axis b => exact b.follows_removeArea rfl hs
  | move inside outside => exact absurd rfl (hm inside outside)
  | removeSheet gone => exact follows_sheetRemoval gone ⟨.row, _, rfl⟩

/-- Lines of another axis stay as they are when rows or columns are inserted or removed. -/
lemma follows_other_lines {axis other : Axis} (he : e.axis? = some other) (hne : axis ≠ other)
    (r : Area LineRef) : r.Follows e.course (LineRef.frame axis) formula
      (e.rewriting.place formula) (some r) := by
  refine follows_self fun a g hg => ?_
  obtain ⟨rfl, -⟩ := Option.ite_none_right_eq_some.mp hg
  rw [course_of_ne hm he hne, e.along_place_of_ne hm
    (fun heq => hne (Option.some.inj (heq.symm.trans he)))]

/-- Edits other than moves do to rows or columns what they do to these lines. -/
lemma follows_lines {axis : Axis} {r : Area LineRef}
    (hs : Qualified.sheet r.last = Qualified.sheet r.first) :
    r.Follows e.course (LineRef.frame axis) formula (e.rewriting.place formula)
      ((e.rewriting.lines axis r formula).toOption r) := by
  cases e with
  | insert other b =>
    by_cases haxis : axis = other
    · subst haxis
      have hlines : (insert axis b).rewriting.lines axis r formula =
          b.insertArea axis LineRef.grip r formula := if_pos rfl
      rw [hlines]
      exact b.follows_insertArea (LineRef.grip_mem_frame axis) hs
    · have hlines : (insert other b).rewriting.lines axis r formula = .unchanged := if_neg haxis
      rw [hlines]
      exact follows_other_lines hm formula rfl haxis r
  | remove other b =>
    by_cases haxis : axis = other
    · subst haxis
      have hlines : (remove axis b).rewriting.lines axis r formula =
          b.removeArea axis LineRef.grip r formula := if_pos rfl
      rw [hlines]
      exact b.follows_removeArea (LineRef.grip_mem_frame axis) hs
    · have hlines : (remove other b).rewriting.lines axis r formula = .unchanged := if_neg haxis
      rw [hlines]
      exact follows_other_lines hm formula rfl haxis r
  | move inside outside => exact absurd rfl (hm inside outside)
  | removeSheet gone => exact follows_sheetRemoval gone ⟨axis, _, LineRef.grip_mem_frame axis⟩

/-! ## Formulas -/

omit hm

/-- What two edits make of an atom, one after the other, is known by what each makes of its
reference. -/
lemma newAtom_newAtom {e e' : Edit} {β : Type} {c : β → Atom} {out : Edit → Cell → β → Outcome β}
    (hatom : ∀ e formula x, e.rewriting.atom formula (c x) = (out e formula x).map c)
    (formula : Cell) (x : β) :
    e'.rewriting.newAtom (e.rewriting.place formula) (e.rewriting.newAtom formula (c x)) =
      (((out e formula x).toOption x).bind fun y =>
        (out e' (e.rewriting.place formula) y).toOption y).elim (.errorValue .lostReference) c := by
  have hnew : ∀ (e : Edit) formula x, e.rewriting.newAtom formula (c x) =
      ((out e formula x).toOption x).elim (.errorValue .lostReference) c := by
    intro e formula x
    unfold Rewriting.newAtom
    rw [hatom]
    cases out e formula x <;> rfl
  rw [hnew]
  cases (out e formula x).toOption x with
  | none => rfl
  | some y => exact hnew e' _ y

/-- Independent edits commute on a kind of atoms that follow their courses. -/
lemma Independent.newAtom_comm {e e' : Edit} (h : e.Independent e') (hm : ∀ m n, e ≠ .move m n)
    (hm' : ∀ m n, e' ≠ .move m n) {α β : Type} [Qualified α] {fr : Frame α} (hfr : fr.Separates)
    (view : β → Area α) (hview : Function.Injective view) {c : β → Atom}
    {out : Edit → Cell → β → Outcome β}
    (hatom : ∀ e formula x, e.rewriting.atom formula (c x) = (out e formula x).map c)
    (hfollows : ∀ e, (∀ m n, e ≠ .move m n) → ∀ formula x,
      Qualified.sheet (view x).last = Qualified.sheet (view x).first →
        (view x).Follows e.course fr formula (e.rewriting.place formula)
          (((out e formula x).toOption x).map view))
    (formula : Cell) {x : β} (hx : Qualified.sheet (view x).last = Qualified.sheet (view x).first) :
    e'.rewriting.newAtom (e.rewriting.place formula) (e.rewriting.newAtom formula (c x)) =
      e.rewriting.newAtom (e'.rewriting.place formula) (e'.rewriting.newAtom formula (c x)) := by
  -- In either order both courses are followed, and what follows a course is determined by it.
  have hpath : ∀ {e e' : Edit}, (∀ m n, e ≠ .move m n) → (∀ m n, e' ≠ .move m n) →
      (view x).Follows (e.course.andThen e'.course) fr formula
        (e'.rewriting.place (e.rewriting.place formula))
        ((((out e formula x).toOption x).bind fun y =>
          (out e' (e.rewriting.place formula) y).toOption y).map view) := by
    intro e e' hm hm'
    have hfirst := hfollows e hm formula x hx
    rw [Option.map_bind]
    refine hfirst.andThen (e.sheet_place hm formula) fun y hy => hfollows e' hm' _ y ?_
    have hsheets := hfirst.sheets (view y) (Option.mem_map_of_mem view hy)
    exact hsheets.last.trans (hx.trans hsheets.first.symm)
  have hother := hpath hm' hm
  rw [← h.andThen_comm, ← h.place_comm hm hm'] at hother
  rw [newAtom_newAtom hatom, newAtom_newAtom hatom,
    Option.map_injective hview ((hpath hm hm').unique hfr hother)]

/-- Independent edits commute on every atom. -/
lemma Independent.newAtom_newAtom_comm {e e' : Edit} (h : e.Independent e')
    (hm : ∀ m n, e ≠ .move m n) (hm' : ∀ m n, e' ≠ .move m n) {a : Atom} (ha : a.IsOnOneSheet)
    (formula : Cell) :
    e'.rewriting.newAtom (e.rewriting.place formula) (e.rewriting.newAtom formula a) =
      e.rewriting.newAtom (e'.rewriting.place formula) (e'.rewriting.newAtom formula a) := by
  cases a with
  | cell r =>
    exact h.newAtom_comm hm hm' CellRef.separates_frame Area.single
      (fun _ _ heq => congrArg Area.first heq) (c := Atom.cell) (fun _ _ _ => rfl)
      (fun e hm formula x _ => follows_cell hm formula x) formula rfl
  | cells r =>
    refine h.newAtom_comm hm hm' CellRef.separates_frame id Function.injective_id (c := Atom.cells)
      (fun _ _ _ => rfl) (fun e hm formula x hx => ?_) formula ha
    rw [Option.map_id]
    exact follows_cells hm formula hx
  | lines axis r =>
    refine h.newAtom_comm hm hm' (LineRef.separates_frame axis) id Function.injective_id
      (c := Atom.lines axis) (fun _ _ _ => rfl) (fun e hm formula x hx => ?_) formula ha
    rw [Option.map_id]
    exact follows_lines hm formula hx
  | _ => rfl

/-- Two edits that do not insert or remove lines on one axis of one sheet can be made in either
order. The formula and its cell are the same in the end. -/
theorem apply_apply_comm {e e' : Edit} (h : e.Independent e') (hm : ∀ m n, e ≠ .move m n)
    (hm' : ∀ m n, e' ≠ .move m n) {t : Tree} (ht : ∀ a ∈ t.atoms, a.IsOnOneSheet)
    (formula : Cell) :
    e'.apply (e.apply (t, formula)) = e.apply (e'.apply (t, formula)) := by
  refine Prod.ext ?_ (h.place_comm hm hm' formula)
  have htrees : (t.mapAtoms (e.rewriting.newAtom formula)).mapAtoms
        (e'.rewriting.newAtom (e.rewriting.place formula)) =
      (t.mapAtoms (e'.rewriting.newAtom formula)).mapAtoms
        (e.rewriting.newAtom (e'.rewriting.place formula)) := by
    rw [Tree.mapAtoms_mapAtoms, Tree.mapAtoms_mapAtoms]
    exact Tree.mapAtoms_congr fun a ha => h.newAtom_newAtom_comm hm hm' (ht a ha) formula
  exact htrees

/-- In `SUM(A2:B4,$3:4,C$7)` in `A6`, the rows 3 and 4 are removed and a column is inserted in front
of the second one. -/
theorem apply_apply_comm_rows_and_columns :
    let e : Edit := .remove .row ⟨0, 2, 2⟩
    let e' : Edit := .insert .column ⟨0, 1, 1⟩
    let formula : Cell := ⟨0, 0, 5⟩
    let t : Tree := .call none "SUM".toList
      [.atom none (.cells ⟨⟨⟨.relative, 0⟩, ⟨.relative, -4⟩, none⟩,
          ⟨⟨.relative, 1⟩, ⟨.relative, -2⟩, none⟩, .neither⟩),
        .atom none (.lines .row ⟨⟨⟨.absolute, 2⟩, none⟩, ⟨⟨.relative, -2⟩, none⟩, .neither⟩),
        .atom none (.cell ⟨⟨.relative, 2⟩, ⟨.absolute, 6⟩, none⟩)] none
    e.Independent e' ∧ (∀ m n, e ≠ .move m n) ∧ (∀ m n, e' ≠ .move m n) ∧
      (∀ a ∈ t.atoms, a.IsOnOneSheet) ∧
      e'.apply (e.apply (t, formula)) = e.apply (e'.apply (t, formula)) ∧
      e'.apply (e.apply (t, formula)) = (.call none "SUM".toList
        [.atom none (.cells ⟨⟨⟨.relative, 0⟩, ⟨.relative, -2⟩, none⟩,
            ⟨⟨.relative, 2⟩, ⟨.relative, -2⟩, none⟩, .neither⟩),
          .atom none (.errorValue .lostReference),
          .atom none (.cell ⟨⟨.relative, 3⟩, ⟨.absolute, 4⟩, none⟩)] none, ⟨0, 0, 3⟩) := by
  intro e e' formula t
  have h : e.Independent e' := by
    intro axis b b' hb hb'
    cases axis
    · cases hb'
    · cases hb
  have ht : ∀ a ∈ t.atoms, a.IsOnOneSheet := by
    intro a ha
    simp only [t, Tree.atoms_call, List.flatMap_cons, List.flatMap_nil, Tree.atoms_atom,
      List.append_nil, List.singleton_append, List.mem_cons, List.not_mem_nil, or_false] at ha
    rcases ha with rfl | rfl | rfl
    · exact rfl
    · exact rfl
    · trivial
  have hm : ∀ m n, e ≠ .move m n := fun _ _ => by simp [e]
  have hm' : ∀ m n, e' ≠ .move m n := fun _ _ => by simp [e']
  have hcomm : e'.apply (e.apply (t, formula)) = e.apply (e'.apply (t, formula)) :=
    apply_apply_comm h hm hm' ht formula
  exact ⟨h, hm, hm', ht, hcomm, by decide⟩

end Edit

end GridFormula
