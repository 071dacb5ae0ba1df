import GridFormula.Edit.Narrow
import GridFormula.Proofs.Edit.Moving
import GridFormula.Proofs.Formula.Atoms

/-!
# Where 32 bits suffice

The numbers of an edit are cut down to 32 bits one by one, but adding and cutting down can be done
in either order. So only the numbers that decide something have to fit: the line behind a removed
band and the lines that the references mean. The stored values of the new references fit if they do
in the rewriting with integers, whatever has been cut down on the way. Then the edit does with 32
bits what it does with integers, and so does a history that keeps its formula in 32 bits at every
step.
-/

namespace GridFormula

/-! ## Formulas that fit -/

/-- In a formula at index `origin`, neither the stored value of the coordinate nor the line that it
means needs more than 32 bits. -/
def Coord.FitsAt (origin : Int) (c : Coord) : Prop :=
  IsNarrow c.value ∧ IsNarrow (c.resolve origin)

instance (origin : Int) : DecidablePred (Coord.FitsAt origin) :=
  fun _ => inferInstanceAs (Decidable (_ ∧ _))

/-- Both coordinates of the reference fit in a formula at `base`. -/
def CellRef.FitsAt (base : Cell) (r : CellRef) : Prop :=
  ∀ axis, (r.coord axis).FitsAt (base.along axis)

instance (base : Cell) : DecidablePred (CellRef.FitsAt base) :=
  fun r => inferInstanceAs (Decidable (∀ axis, (r.coord axis).FitsAt (base.along axis)))

/-- All coordinates of both ends of the area fit in a formula at `base`. -/
def Area.FitsAt {α : Type} [Qualified α] (fr : Frame α) (base : Cell) (r : Area α) : Prop :=
  ∀ axis, ∀ g ∈ fr.grip? axis,
    (g.coord r.first).FitsAt (base.along axis) ∧ (g.coord r.last).FitsAt (base.along axis)

instance {α : Type} [Qualified α] (fr : Frame α) (base : Cell) :
    DecidablePred (Area.FitsAt fr base) :=
  fun r => inferInstanceAs (Decidable (∀ axis, ∀ g ∈ fr.grip? axis,
    (g.coord r.first).FitsAt (base.along axis) ∧ (g.coord r.last).FitsAt (base.along axis)))

/-- The references in the atom fit in a formula at `base`. -/
def Atom.FitsAt (base : Cell) : Atom → Prop
  | .cell r => r.FitsAt base
  | .cells r => r.FitsAt CellRef.frame base
  | .lines axis r => r.FitsAt (LineRef.frame axis) base
  | _ => True

instance (base : Cell) : DecidablePred (Atom.FitsAt base)
  | .cell r => inferInstanceAs (Decidable (r.FitsAt base))
  | .cells r => inferInstanceAs (Decidable (r.FitsAt CellRef.frame base))
  | .lines axis r => inferInstanceAs (Decidable (r.FitsAt (LineRef.frame axis) base))
  | .omitted | .number _ | .string _ | .name _ | .errorValue _ | .unreadable _ _ =>
    inferInstanceAs (Decidable True)

namespace Edit

/-- The formula fits: the cell that it stands in and all references in it do. -/
def Fits (formula : Tree × Cell) : Prop :=
  formula.2.IsNarrow ∧ ∀ a ∈ formula.1.atoms, a.FitsAt formula.2

instance : DecidablePred Fits :=
  fun formula =>
    inferInstanceAs (Decidable (formula.2.IsNarrow ∧ ∀ a ∈ formula.1.atoms, a.FitsAt formula.2))

/-- If the edit removes rows or columns, then the line behind them fits. -/
def HasFittingBand : Edit → Prop
  | remove _ b => b.Fits
  | insert _ _ | move _ _ | removeSheet _ => True

instance : DecidablePred HasFittingBand
  | .remove _ b => inferInstanceAs (Decidable b.Fits)
  | .insert _ _ | .move _ _ | .removeSheet _ => inferInstanceAs (Decidable True)

/-- An area of which the edit makes the outcome `o` fits: the area does where it is, and what is
left of it does in the formula's new place. -/
structure FitsThrough {α : Type} [Qualified α] (e : Edit) (fr : Frame α) (formula : Cell) (r : Area α)
    (o : Outcome (Area α)) : Prop where
  before : r.FitsAt fr formula
  after : o ≠ .lost → (o.getD r).FitsAt fr (e.rewriting.place formula)

/-- The formula fits after each of the edits, made one after the other with integers. -/
def FitsAlong : List Edit → Tree × Cell → Prop
  | [], _ => True
  | e :: edits, formula =>
    e.HasFittingBand ∧ Fits (e.apply formula) ∧ FitsAlong edits (e.apply formula)

end Edit

/-! ## One coordinate -/

/-- A coordinate whose stored value fits is kept. -/
lemma Coord.narrow_eq_self {c : Coord} (h : IsNarrow c.value) : c.narrow = c :=
  Coord.ext rfl (narrowed_eq_self h)

/-- The line that is meant is known, in 32 bits, from the low 32 bits of the stored value. -/
lemma Coord.narrowed_resolve_narrow (c : Coord) (origin : Int) :
    narrowed (c.narrow.resolve origin) = narrowed (c.resolve origin) := by
  obtain ⟨anchor, value⟩ := c
  cases anchor with
  | relative => exact narrowed_narrowed_add value origin
  | absolute => exact narrowed_narrowed value

/-- A line that fits is meant in 32 bits as well. -/
lemma Grip.narrowIndex_eq {α : Type} {g : Grip α} {r : α} {origin : Int}
    (h : IsNarrow (g.index r origin)) : g.narrowIndex r origin = g.index r origin :=
  narrowed_eq_self h

namespace Grip

variable {α : Type} [Qualified α] {g : Grip α} (hg : g.IsLawful)

include hg

/-- A stored value that fits is kept. -/
lemma narrow_eq_self {r : α} (h : IsNarrow (g.coord r).value) : g.narrow r = r := by
  rw [narrow, Coord.narrow_eq_self h, hg.withCoord_coord]

/-- Cutting the stored value down does not change the sheet. -/
lemma sheet_narrow (r : α) : Qualified.sheet (g.narrow r) = Qualified.sheet r :=
  hg.keepsSheet r _

/-- The line that is meant in 32 bits does not change when the stored value is cut down. -/
lemma narrowIndex_narrow (r : α) (origin : Int) :
    g.narrowIndex (g.narrow r) origin = g.narrowIndex r origin := by
  unfold narrowIndex narrow
  rw [hg.coord_withCoord, Coord.narrowed_resolve_narrow]

/-- A stored value may be cut down before it is added to. -/
lemma narrow_shift_narrow (r : α) (n : Int) :
    g.narrow (g.shift (g.narrow r) n) = g.narrow (g.shift r n) := by
  have hcoord : ((g.coord r).narrow.shift n).narrow = ((g.coord r).shift n).narrow :=
    Coord.ext rfl (narrowed_narrowed_add _ _)
  unfold narrow shift
  rw [hg.coord_withCoord, hg.coord_withCoord, hg.coord_withCoord, hg.withCoord_withCoord,
    hg.withCoord_withCoord, hg.withCoord_withCoord, hcoord]

/-- A reference follows its line in 32 bits as it does with integers. -/
lemma narrowFollow_narrow (r : α) (target formula : Int) :
    g.narrowFollow (g.narrow r) target formula = (g.follow r target formula).map g.narrow := by
  have hanchor : (g.coord (g.narrow r)).isAbsolute = (g.coord r).isAbsolute := by
    rw [narrow, hg.coord_withCoord]
    rfl
  unfold narrowFollow follow
  rw [hanchor]
  generalize (if (g.coord r).isAbsolute then target else target - formula) = n
  by_cases hn : n = 0
  · simp only [hn, if_true, Outcome.map]
  · simp only [hn, if_false, Outcome.map, narrow_shift_narrow hg]

end Grip

/-! ## Bands -/

namespace Band

section

variable {α : Type} [Qualified α] {g : Grip α} {b : Band} {axis : Axis} {formula : Cell}

/-- A reference whose line fits follows it when lines are inserted. -/
lemma narrowInsertReference_eq {r : α} (h : IsNarrow (g.index r (formula.along axis))) :
    b.narrowInsertReference axis g r formula =
      (b.insertReference axis g r formula).map g.narrow := by
  unfold narrowInsertReference
  rw [Grip.narrowIndex_eq h]
  rfl

/-- The lines that stay are the same as with integers. -/
lemma narrowSurvivorShift?_eq (hb : b.WellFormed) (hfits : b.Fits) (sheet : SheetId) (i : Int) :
    b.narrowSurvivorShift? sheet i = b.survivorShift? sheet i := by
  rw [narrowSurvivorShift?, narrowLast_eq hb hfits]
  rfl

variable (hg : g.IsLawful)

include hg

/-- An area whose lines fit follows them when lines are inserted. -/
lemma narrowInsertArea_eq {r : Area α}
    (hfirst : (g.coord r.first).FitsAt (formula.along axis))
    (hlast : (g.coord r.last).FitsAt (formula.along axis)) :
    b.narrowInsertArea axis g r formula =
      (b.insertArea axis g r formula).map (Area.map g.narrow) := by
  unfold narrowInsertArea insertArea
  rw [narrowInsertReference_eq hfirst.2, narrowInsertReference_eq hlast.2]
  have hfirst' := g.narrow_eq_self hg hfirst.1
  have hlast' := g.narrow_eq_self hg hlast.1
  cases b.insertReference axis g r.first formula <;>
    cases b.insertReference axis g r.last formula <;>
    simp [Outcome.map, Outcome.getD, Area.map, Area.withEnds, hfirst', hlast']

variable (hb : b.WellFormed) (hfits : b.Fits)

include hb hfits

/-- A reference whose line fits follows it when lines are removed, or is lost with it. The stored
value need not fit. -/
lemma narrowRemoveReference_narrow {r : α} (h : IsNarrow (g.index r (formula.along axis))) :
    b.narrowRemoveReference axis g (g.narrow r) formula =
      (b.removeReference axis g r formula).map g.narrow := by
  have hsheet : Qualified.resolvedSheet (g.narrow r) formula.sheet =
      Qualified.resolvedSheet r formula.sheet :=
    congrArg (Option.getD · formula.sheet) (g.sheet_narrow hg r)
  unfold narrowRemoveReference removeReference
  rw [hsheet, g.narrowIndex_narrow hg, Grip.narrowIndex_eq h, narrowSurvivorShift?_eq hb hfits]
  unfold Grip.index
  cases b.survivorShift? (Qualified.resolvedSheet r formula.sheet)
    ((g.coord r).resolve (formula.along axis)) with
  | some target => exact g.narrowFollow_narrow hg r _ _
  | none => rfl

/-- An area whose ends are on lines that fit shrinks as it does with integers. -/
lemma narrowRemoveClipped_narrow {first last : α}
    (hfirst : IsNarrow (g.index first (formula.along axis)))
    (hlast : IsNarrow (g.index last (formula.along axis))) (r : Area α) (isClipped : Bool) :
    b.narrowRemoveClipped axis g r (g.narrow first) (g.narrow last) isClipped formula =
      (b.removeClipped axis g r first last isClipped formula).map (Area.map g.narrow) := by
  unfold narrowRemoveClipped removeClipped
  rw [narrowRemoveReference_narrow hg hb hfits hfirst,
    narrowRemoveReference_narrow hg hb hfits hlast]
  cases b.removeReference axis g first formula <;> cases b.removeReference axis g last formula <;>
    cases isClipped <;> rfl

omit hg in
/-- Which lines are removed is the same as with integers. -/
lemma narrowCovers_eq (i : Int) : b.narrowCovers i = decide (i ∈ b) := by
  rw [narrowCovers, narrowLast_eq hb hfits, ← Bool.decide_and]
  rfl

/-- An end that loses its line is put on the line behind the band, in the low 32 bits. -/
lemma narrowClippedFirst_narrow {r : α} {origin : Int} (h : IsNarrow (g.index r origin)) :
    b.narrowClippedFirst g (g.narrow r) origin = g.narrow (b.clippedFirst g r origin) := by
  unfold narrowClippedFirst clippedFirst
  dsimp only
  rw [g.narrowIndex_narrow hg, Grip.narrowIndex_eq h, narrowCovers_eq hb hfits,
    narrowLast_eq hb hfits]
  unfold Grip.index
  by_cases hmem : (g.coord r).resolve origin ∈ b
  · simp only [hmem, decide_true, if_true]
    exact g.narrow_shift_narrow hg r _
  · simp only [hmem, decide_false, Bool.false_eq_true, if_false]

/-- An end that loses its line is put on the line before the band, in the low 32 bits. -/
lemma narrowClippedLast_narrow {r : α} {origin : Int} (h : IsNarrow (g.index r origin)) :
    b.narrowClippedLast g (g.narrow r) origin = g.narrow (b.clippedLast g r origin) := by
  unfold narrowClippedLast clippedLast
  dsimp only
  rw [g.narrowIndex_narrow hg, Grip.narrowIndex_eq h, narrowCovers_eq hb hfits]
  unfold Grip.index
  by_cases hmem : (g.coord r).resolve origin ∈ b
  · simp only [hmem, decide_true, if_true]
    exact g.narrow_shift_narrow hg r _
  · simp only [hmem, decide_false, Bool.false_eq_true, if_false]

omit hb in
/-- The line that the first end is put on fits. -/
lemma isNarrow_index_clippedFirst {r : α} {origin : Int} (h : IsNarrow (g.index r origin)) :
    IsNarrow (g.index (b.clippedFirst g r origin) origin) := by
  have hindex : g.index (b.clippedFirst g r origin) origin =
      b.keptOr b.sheet (g.index r origin) (b.last + 1) :=
    (repoints_clipped b hg r origin _).index_eq
  rw [hindex, keptOr]
  split
  · exact hfits
  · exact h

/-- The line that the last end is put on fits. -/
lemma isNarrow_index_clippedLast {r : α} {origin : Int} (h : IsNarrow (g.index r origin)) :
    IsNarrow (g.index (b.clippedLast g r origin) origin) := by
  have hindex : g.index (b.clippedLast g r origin) origin =
      b.keptOr b.sheet (g.index r origin) (b.start - 1) :=
    (repoints_clipped b hg r origin _).index_eq
  obtain ⟨hstart, hcount⟩ := hb
  rw [hindex, keptOr]
  split
  · unfold Fits IsNarrow last at hfits
    unfold IsNarrow
    omega
  · exact h

/-- An area whose lines fit shrinks as it does with integers, or is lost. The stored value of an end
that is put on another line need not fit on the way. -/
lemma narrowRemoveArea_eq {r : Area α} (hfirst : (g.coord r.first).FitsAt (formula.along axis))
    (hlast : (g.coord r.last).FitsAt (formula.along axis)) :
    b.narrowRemoveArea axis g r formula =
      (b.removeArea axis g r formula).map (Area.map g.narrow) := by
  have hwhole := narrowRemoveClipped_narrow hg hb hfits hfirst.2 hlast.2 r false
  have hcut := narrowRemoveClipped_narrow hg hb hfits
    (isNarrow_index_clippedFirst hg hfits hfirst.2) (isNarrow_index_clippedLast hg hb hfits hlast.2) r
    (decide (g.index r.first (formula.along axis) ∈ b) ||
      decide (g.index r.last (formula.along axis) ∈ b))
  rw [← narrowClippedFirst_narrow hg hb hfits hfirst.2,
    ← narrowClippedLast_narrow hg hb hfits hlast.2] at hcut
  rw [g.narrow_eq_self hg hfirst.1, g.narrow_eq_self hg hlast.1] at hwhole hcut
  unfold narrowRemoveArea removeArea
  dsimp only
  rw [Grip.narrowIndex_eq hfirst.2, Grip.narrowIndex_eq hlast.2, narrowLast_eq hb hfits,
    narrowCovers_eq hb hfits, narrowCovers_eq hb hfits]
  split
  · exact hwhole
  · unfold Grip.index at hcut ⊢
    split
    · rfl
    · exact hcut

end

end Band

/-! ## What comes of a reference -/

namespace Outcome

variable {α : Type} {P : α → Prop} {narrow : α → α} {o : Outcome α} {old new : α}

/-- An outcome is kept if what it gives is. -/
lemma map_eq_self (hkept : ∀ a, P a → narrow a = a) (h : o ≠ .lost → P (o.getD old)) :
    o.map narrow = o := by
  cases o with
  | unchanged => rfl
  | shifted a => exact congrArg shifted (hkept a (h (by simp)))
  | lost => rfl

/-- The outcome for a reference that takes the place of the old one, if it is kept. -/
lemma ofNew_eq_ofNew [DecidableEq α] (hkept : ∀ a, P a → narrow a = a)
    (h : ofNew old new ≠ .lost → P ((ofNew old new).getD old)) :
    ofNew old (narrow new) = ofNew old new := by
  have hnew := h (ofNew_ne_lost old new)
  rw [getD_ofNew] at hnew
  rw [hkept new hnew]

end Outcome

section

variable {base : Cell}

/-- A reference that fits is kept. -/
lemma CellRef.FitsAt.narrow_eq_self {r : CellRef} (h : r.FitsAt base) : r.narrow = r :=
  CellRef.ext (Coord.narrow_eq_self (h .column).1) (Coord.narrow_eq_self (h .row).1) rfl

/-- A reference that fits means a cell that fits. -/
lemma CellRef.FitsAt.narrow_resolve {r : CellRef} (h : r.FitsAt base) :
    (r.resolve base).narrow = r.resolve base :=
  Cell.narrow_eq_self fun axis => by
    rw [CellRef.along_resolve]
    exact (h axis).2

/-- Each coordinate of a reference that fits is kept. -/
lemma CellRef.FitsAt.narrow_grip {r : CellRef} (h : r.FitsAt base) (axis : Axis) :
    (CellRef.grip axis).narrow r = r :=
  (CellRef.grip axis).narrow_eq_self (CellRef.isLawful_grip axis) (h axis).1

namespace Area.FitsAt

/-- An area that fits is kept. -/
lemma map_eq_self {α : Type} [Qualified α] {fr : Frame α} {r : Area α} (h : r.FitsAt fr base)
    {axis : Axis} {g : Grip α} (hg : g ∈ fr.grip? axis) : r.map g.narrow = r := by
  obtain ⟨hfirst, hlast⟩ := h axis g hg
  have hlaw := fr.isLawful g hg
  exact Area.ext (g.narrow_eq_self hlaw hfirst.1) (g.narrow_eq_self hlaw hlast.1) rfl

/-- Both ends of an area of cells that fits do. -/
lemma ends {r : Area CellRef} (h : r.FitsAt CellRef.frame base) :
    r.first.FitsAt base ∧ r.last.FitsAt base :=
  ⟨fun axis => (h axis _ rfl).1, fun axis => (h axis _ rfl).2⟩

/-- An area of cells that fits is kept. -/
lemma map_narrow_eq_self {r : Area CellRef} (h : r.FitsAt CellRef.frame base) :
    r.map CellRef.narrow = r :=
  Area.ext h.ends.1.narrow_eq_self h.ends.2.narrow_eq_self rfl

end Area.FitsAt

end

/-! ## Edits -/

namespace Edit.FitsThrough

variable {α : Type} [Qualified α] {fr : Frame α} {axis : Axis} {b : Band} {g : Grip α}
  {formula : Cell} {r : Area α}

/-- Inserting lines makes of an area that fits what it makes of it with integers. -/
lemma narrowInsertArea_eq (hg : g ∈ fr.grip? axis)
    (h : (insert axis b).FitsThrough fr formula r (b.insertArea axis g r formula)) :
    b.narrowInsertArea axis g r formula = b.insertArea axis g r formula := by
  obtain ⟨hfirst, hlast⟩ := h.before axis g hg
  exact (Band.narrowInsertArea_eq (fr.isLawful g hg) hfirst hlast).trans
    (Outcome.map_eq_self (fun _ hs => hs.map_eq_self hg) h.after)

/-- So does removing lines, if the line behind them fits. -/
lemma narrowRemoveArea_eq (hg : g ∈ fr.grip? axis) (hb : b.WellFormed) (hfits : b.Fits)
    (h : (remove axis b).FitsThrough fr formula r (b.removeArea axis g r formula)) :
    b.narrowRemoveArea axis g r formula = b.removeArea axis g r formula := by
  obtain ⟨hfirst, hlast⟩ := h.before axis g hg
  exact (Band.narrowRemoveArea_eq (fr.isLawful g hg) hb hfits hfirst hlast).trans
    (Outcome.map_eq_self (fun _ hs => hs.map_eq_self hg) h.after)

end Edit.FitsThrough

namespace Relocation

variable {m : Relocation} {base : Cell}

/-- Which references mean cells that move is the same as with integers. -/
lemma narrowMoves_eq {r : CellRef} (h : r.FitsAt base) : m.narrowMoves r base = m.moves r base := by
  rw [narrowMoves, h.narrow_resolve]
  rfl

/-- Which areas move is the same as with integers. -/
lemma narrowMovesArea_eq {r : Area CellRef} (h : r.FitsAt CellRef.frame base) :
    m.narrowMovesArea r base = m.movesArea r base := by
  rw [narrowMovesArea, narrowMoves_eq h.ends.1, narrowMoves_eq h.ends.2]
  rfl

end Relocation

namespace Edit

variable {l : Locale} {e : Edit} {formula : Cell}

section

variable (hc : e.Checked l) (hb : e.HasFittingBand)

include hc hb

/-- A reference to a cell becomes what it becomes with integers. -/
lemma narrow_cell_eq {r : CellRef} (hr : r.FitsAt formula)
    (ho : e.rewriting.cell r formula ≠ .lost →
      ((e.rewriting.cell r formula).getD r).FitsAt (e.rewriting.place formula)) :
    e.narrowRewriting.cell r formula = e.rewriting.cell r formula := by
  cases e with
  | insert axis b =>
    exact (Band.narrowInsertReference_eq (g := CellRef.grip axis) (hr axis).2).trans
      (Outcome.map_eq_self (fun _ hs => hs.narrow_grip axis) ho)
  | remove axis b =>
    have hremove := Band.narrowRemoveReference_narrow (CellRef.isLawful_grip axis)
      (Band.checked_eq_ok_iff.mp hc).2 hb (hr axis).2
    rw [hr.narrow_grip] at hremove
    exact hremove.trans (Outcome.map_eq_self (fun _ hs => hs.narrow_grip axis) ho)
  | move inside outside =>
    simp only [narrowRewriting, rewriting, Rewriting.within, Relocation.narrowInside,
      Relocation.narrowOutside, Relocation.inside, Relocation.outside,
      Relocation.narrowMoves_eq hr] at ho ⊢
    split
    · next hin =>
      rw [if_pos hin] at ho
      exact Outcome.ofNew_eq_ofNew (fun _ hs => hs.narrow_eq_self) ho
    · next hout =>
      rw [if_neg hout] at ho
      split
      · next hmoves =>
        rw [if_pos hmoves] at ho
        exact Outcome.ofNew_eq_ofNew (fun _ hs => hs.narrow_eq_self) ho
      · rfl
  | removeSheet sheet => rfl

/-- An area of cells becomes what it becomes with integers. -/
lemma narrow_cells_eq {r : Area CellRef}
    (h : e.FitsThrough CellRef.frame formula r (e.rewriting.cells r formula)) :
    e.narrowRewriting.cells r formula = e.rewriting.cells r formula := by
  have hgrip (axis : Axis) : CellRef.grip axis ∈ CellRef.frame.grip? axis := rfl
  cases e with
  | insert axis b => exact h.narrowInsertArea_eq (hgrip axis)
  | remove axis b => exact h.narrowRemoveArea_eq (hgrip axis) (Band.checked_eq_ok_iff.mp hc).2 hb
  | move inside outside =>
    obtain ⟨hr, ho⟩ := h
    simp only [narrowRewriting, rewriting, Rewriting.within, Relocation.narrowInside,
      Relocation.narrowOutside, Relocation.inside, Relocation.outside,
      Relocation.narrowMovesArea_eq hr] at ho ⊢
    split
    · next hin =>
      rw [if_pos hin] at ho
      exact Outcome.ofNew_eq_ofNew (fun _ hs => hs.map_narrow_eq_self) ho
    · next hout =>
      rw [if_neg hout] at ho
      split
      · next hmoves =>
        rw [if_pos hmoves] at ho
        exact Outcome.ofNew_eq_ofNew (fun _ hs => hs.map_narrow_eq_self) ho
      · rfl
  | removeSheet sheet => rfl

/-- Rows or columns become what they become with integers. -/
lemma narrow_lines_eq {axis : Axis} {r : Area LineRef}
    (h : e.FitsThrough (LineRef.frame axis) formula r (e.rewriting.lines axis r formula)) :
    e.narrowRewriting.lines axis r formula = e.rewriting.lines axis r formula := by
  have hgrip := LineRef.grip_mem_frame axis
  cases e with
  | insert a b =>
    simp only [narrowRewriting, rewriting, Band.narrowInsertion, Band.insertion] at h ⊢
    split
    · next ha =>
      subst ha
      rw [if_pos rfl] at h
      exact h.narrowInsertArea_eq hgrip
    · rfl
  | remove a b =>
    simp only [narrowRewriting, rewriting, Band.narrowRemoval, Band.removal] at h ⊢
    split
    · next ha =>
      subst ha
      rw [if_pos rfl] at h
      exact h.narrowRemoveArea_eq hgrip (Band.checked_eq_ok_iff.mp hc).2 hb
    · rfl
  | move inside outside =>
    obtain ⟨hr, ho⟩ := h
    simp only [narrowRewriting, rewriting, Rewriting.within, Relocation.narrowInside,
      Relocation.narrowOutside, Relocation.inside, Relocation.outside] at ho ⊢
    split
    · next hin =>
      rw [if_pos hin] at ho
      exact Outcome.ofNew_eq_ofNew (fun _ hs => hs.map_eq_self hgrip) ho
    · rfl
  | removeSheet sheet => rfl

/-- One atom becomes what it becomes with integers. -/
lemma narrow_atom_eq {a : Atom} (ha : a.FitsAt formula)
    (ha' : (e.rewriting.newAtom formula a).FitsAt (e.rewriting.place formula)) :
    e.narrowRewriting.atom formula a = e.rewriting.atom formula a := by
  cases a with
  | cell r =>
    refine congrArg (Outcome.map Atom.cell) (narrow_cell_eq hc hb ha fun hne => ?_)
    rwa [Rewriting.newAtom_of_ne_lost (c := Atom.cell) rfl hne] at ha'
  | cells r =>
    refine congrArg (Outcome.map Atom.cells) (narrow_cells_eq hc hb ⟨ha, fun hne => ?_⟩)
    rwa [Rewriting.newAtom_of_ne_lost (c := Atom.cells) rfl hne] at ha'
  | lines axis r =>
    refine congrArg (Outcome.map (Atom.lines axis)) (narrow_lines_eq hc hb ⟨ha, fun hne => ?_⟩)
    rwa [Rewriting.newAtom_of_ne_lost (c := Atom.lines axis) rfl hne] at ha'
  | _ => rfl

end

/-- A formula whose new cell fits moves there. -/
lemma narrow_place_eq (h : (e.rewriting.place formula).IsNarrow) :
    e.narrowRewriting.place formula = e.rewriting.place formula := by
  cases e with
  | insert axis b => exact Cell.narrow_eq_self h
  | remove axis b => exact Cell.narrow_eq_self h
  | move inside outside =>
    simp only [narrowRewriting, rewriting, Rewriting.within] at h ⊢
    split
    · next hin =>
      rw [if_pos hin] at h
      exact Cell.narrow_eq_self h
    · rfl
  | removeSheet sheet => rfl

/-- If the formula fits after the edit, so does what becomes of each of its atoms. -/
lemma Fits.newAtom {f : Tree × Cell} (h : Fits (e.apply f)) {a : Atom} (ha : a ∈ f.1.atoms) :
    (e.rewriting.newAtom f.2 a).FitsAt (e.rewriting.place f.2) := by
  refine h.2 _ ?_
  rw [apply, Rewriting.tree, Tree.atoms_mapAtoms]
  exact List.mem_map_of_mem ha

/-- One edit does with 32 bits what it does with integers, if the formula fits before and after. -/
theorem narrowApply_eq (hc : e.Checked l) (hb : e.HasFittingBand) {f : Tree × Cell} (hf : Fits f)
    (hf' : Fits (e.apply f)) : e.narrowApply f = e.apply f := by
  refine Prod.ext (Tree.mapAtoms_congr fun a ha => ?_) (narrow_place_eq hf'.1)
  rw [Rewriting.newAtom, narrow_atom_eq hc hb (hf.2 a ha) (hf'.newAtom ha)]
  rfl

/-- A history does with 32 bits what it does with integers, as long as the formula fits. -/
theorem narrowApplyAll_eq {edits : List Edit} (hc : ∀ e ∈ edits, e.Checked l) {f : Tree × Cell}
    (hf : Fits f) (h : FitsAlong edits f) : narrowApplyAll edits f = applyAll edits f := by
  induction edits generalizing f with
  | nil => rfl
  | cons e edits ih =>
    obtain ⟨hfirst, hrest⟩ := List.forall_mem_cons.mp hc
    obtain ⟨hb, hf', h'⟩ := h
    have hstep : narrowApplyAll (e :: edits) f = narrowApplyAll edits (e.narrowApply f) := rfl
    rw [hstep, narrowApply_eq hfirst hb hf hf']
    exact ih hrest hf' h'

end Edit

/-- A formula is brought up to date with 32 bits as it is with integers, as long as it fits. -/
theorem History.narrowBringUpToDate_eq {l : Locale} {h : History}
    (hc : ∀ e ∈ h.edits, e.Checked l) {version : Nat} {formula : Tree × Cell}
    (hf : Edit.Fits formula) (hfits : Edit.FitsAlong (h.since version) formula) :
    h.narrowBringUpToDate version formula = h.bringUpToDate version formula :=
  Edit.narrowApplyAll_eq (fun e he => hc e (List.mem_of_mem_drop he)) hf hfits

end GridFormula
