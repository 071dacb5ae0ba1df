import GridFormula.Proofs.Edit.Frame
import GridFormula.Proofs.Formula.Atoms

/-!
# Which formulas an edit affects

An edit is said to affect a formula if it wants one of the references written anew. For nearly all
references that is so exactly if the new one differs from the old one. The exception is an area that
loses lines at one end. Suppose that this end is cut, and that the lines that stay and the formula
move in such a way that both numbers come out as they were. Then the reference is the same as before
and means fewer lines than before, and the edit affects the formula all the same.
-/

namespace GridFormula

/-! ## Outcomes that tell a change -/

namespace Outcome

variable {α : Type} {o : Outcome α} {a : α}

/-- What is never the result is not the result. -/
lemma Keeps.ne_shifted (h : o.Keeps (· ≠ a)) : o ≠ .shifted a :=
  fun heq => h a heq rfl

/-- A new reference is given only if it differs from the old one. -/
lemma keeps_ne_ofNew [DecidableEq α] (old new : α) : (ofNew old new).Keeps (· ≠ old) := by
  unfold ofNew
  split
  · exact keeps_unchanged
  · next hne => exact keeps_shifted (Ne.symm hne)

/-- Where a reference that has to be written anew is not the old one, the old one is unchanged. -/
lemma Keeps.eq_unchanged (h : o.Keeps (· ≠ a)) (hne : o ≠ .lost) (ha : o.getD a = a) :
    o = .unchanged := by
  cases o with
  | unchanged => rfl
  | shifted b => exact absurd ha (h b rfl)
  | lost => exact absurd rfl hne

/-- An outcome that is neither unchanged nor lost gives the reference that it stands for. -/
lemma eq_shifted (hne : o ≠ .unchanged) (hne' : o ≠ .lost) (ha : o.getD a = a) :
    o = .shifted a := by
  cases o with
  | unchanged => exact absurd rfl hne
  | shifted b => exact congrArg shifted ha
  | lost => exact absurd rfl hne'

end Outcome

/-- Outcomes for both ends, one of them a change, change the area. -/
lemma Area.withEnds_getD_ne {α : Type} {r : Area α} {o o' : Outcome α} (h : o.Keeps (· ≠ r.first))
    (h' : o'.Keeps (· ≠ r.last)) (hne : o ≠ .lost) (hne' : o' ≠ .lost)
    (hchange : o = .unchanged → o' ≠ .unchanged) :
    r.withEnds (o.getD r.first) (o'.getD r.last) ≠ r := by
  intro heq
  have hfirst : o.getD r.first = r.first := congrArg Area.first heq
  have hlast : o'.getD r.last = r.last := congrArg Area.last heq
  exact hchange (h.eq_unchanged hne hfirst) (h'.eq_unchanged hne' hlast)

/-! ## Bands -/

/-- A relative coordinate moves with the formula. -/
lemma Coord.resolve_add (c : Coord) (origin n : Int) :
    c.resolve (origin + n) = c.resolve origin + if c.isAbsolute then 0 else n := by
  obtain ⟨anchor, value⟩ := c
  cases anchor
  · simp [isAbsolute, resolve, Int.add_assoc]
  · simp [isAbsolute, resolve]

namespace Band

variable {α : Type} [Qualified α] {g : Grip α} {b : Band} {axis : Axis} {formula : Cell}

/-- The removal of the lines cuts the area at one end and leaves both of its numbers as they were:
the first end holds on to its line, the last one keeps its distance from the formula, and the
formula moves by as many lines as the area loses. -/
structure CutsInPlace (b : Band) (axis : Axis) (g : Grip α) (formula : Cell) (r : Area α) :
    Prop where
  sheet : r.resolvedSheet formula.sheet = b.sheet
  moves : formula.sheet = b.sheet ∧ b.start ≤ formula.along axis
  anchors : (g.coord r.first).isAbsolute = true ∧ (g.coord r.last).isAbsolute = false
  cut : g.index r.first (formula.along axis) = b.start ∧
      b.last < g.index r.last (formula.along axis) ∨
    g.index r.first (formula.along axis) < b.start ∧
      g.index r.last (formula.along axis) = b.last

/-- A band that cuts an area in place does not cover it. -/
lemma CutsInPlace.not_covers {r : Area α} (h : b.CutsInPlace axis g formula r) :
    ¬b.Covers (r.resolvedSheet formula.sheet) (g.index r.first (formula.along axis))
      (g.index r.last (formula.along axis)) := by
  rintro ⟨-, hfirst, hlast⟩
  have hcut := h.cut
  omega

/-- A removal leaves a line where it is or moves it up by the count. -/
lemma removalShift_cases (b : Band) (sheet : SheetId) (i : Int) :
    b.removalShift sheet i = 0 ∨ b.removalShift sheet i = -b.count := by
  unfold removalShift
  split
  · exact Or.inr rfl
  · exact Or.inl rfl

/-- The lines that move are those on the sheet of the band from its first line on. -/
lemma removalShift_eq_neg_iff (hb : 0 < b.count) {sheet : SheetId} {i : Int} :
    b.removalShift sheet i = -b.count ↔ sheet = b.sheet ∧ b.start ≤ i := by
  unfold removalShift
  split
  · next h => exact iff_of_true rfl h
  · next h => exact iff_of_false (by omega) h

/-- A line from the first one of the band on moves up by the count. -/
lemma afterRemoval_of_le {i : Int} (h : b.start ≤ i) :
    b.afterRemoval b.sheet i = i - b.count := by
  simp only [afterRemoval, removalShift, h, and_self, if_true]
  omega

/-- A line in front of the band stays. -/
lemma afterRemoval_of_lt {i : Int} (h : i < b.start) : b.afterRemoval b.sheet i = i := by
  simp only [afterRemoval, removalShift, Int.not_le.mpr h, and_false, if_false]
  omega

/-- A line of the band gives way to its replacement. -/
lemma keptOr_of_mem {i : Int} (h : i ∈ b) (k : Int) : b.keptOr b.sheet i k = k :=
  if_pos ⟨rfl, h⟩

/-- Both numbers of an area that loses lines at one end come out as they were exactly if the formula
moves with the lines behind the band, the first end does not move with it, and the last one does. -/
lemma afterRemoval_keptOr_iff (hb : 0 < b.count) {i j n : Int}
    (hkept : ¬(b.start ≤ i ∧ j ≤ b.last)) (hcut : i ∈ b ∨ j ∈ b) (hn : n = 0 ∨ n = -b.count)
    {p q : Bool} :
    (i + (if p then 0 else n) = b.afterRemoval b.sheet (b.keptOr b.sheet i (b.last + 1)) ∧
        j + (if q then 0 else n) = b.afterRemoval b.sheet (b.keptOr b.sheet j (b.start - 1))) ↔
      n = -b.count ∧ (p = true ∧ q = false) ∧
        (i = b.start ∧ b.last < j ∨ i < b.start ∧ j = b.last) := by
  have hlast : b.last = b.start + b.count - 1 := rfl
  rcases hcut with hi | hj
  · rw [mem_iff] at hi
    have hj : b.last < j := by omega
    rw [keptOr_of_mem hi, keptOr_eq_self (fun h => by have := h.2.2; omega),
      afterRemoval_of_le (by omega), afterRemoval_of_le (by omega)]
    cases p <;> cases q <;> simp only [if_true, Bool.false_eq_true, if_false, reduceCtorEq,
      and_false, false_and, true_and, iff_false] <;> omega
  · rw [mem_iff] at hj
    have hi : i < b.start := by omega
    rw [keptOr_eq_self (fun h => by have := h.2.1; omega), keptOr_of_mem hj,
      afterRemoval_of_lt hi, afterRemoval_of_lt (by omega)]
    cases p <;> cases q <;> simp only [if_true, Bool.false_eq_true, if_false, reduceCtorEq,
      and_false, false_and, true_and, iff_false] <;> omega

/-- An area that is cut is wanted anew, even if it is the same. -/
lemma removeClipped_ne_unchanged (r : Area α) (first last : α) :
    b.removeClipped axis g r first last true formula ≠ .unchanged := by
  unfold removeClipped
  split <;> simp

/-- An area with an end in the band does not count as unchanged. -/
lemma removeArea_ne_unchanged {r : Area α} (hs : r.resolvedSheet formula.sheet = b.sheet)
    (hcut : g.index r.first (formula.along axis) ∈ b ∨ g.index r.last (formula.along axis) ∈ b) :
    b.removeArea axis g r formula ≠ .unchanged := by
  have hclip : (g.index r.first (formula.along axis) ∈ b ||
      g.index r.last (formula.along axis) ∈ b : Bool) = true := by simpa using hcut
  by_cases hcovers : b.start ≤ g.index r.first (formula.along axis) ∧
      g.index r.last (formula.along axis) ≤ b.last
  · rw [removeArea_eq_lost b axis ⟨hs, hcovers⟩]
    simp
  · rw [removeArea_eq_removeClipped b axis hs hcovers, hclip]
    exact removeClipped_ne_unchanged r _ _

section

variable (hg : g.IsLawful)

include hg

/-- Following a target never gives the same reference as a new one. -/
lemma keeps_ne_follow (r : α) (m n : Int) : (g.follow r m n).Keeps (· ≠ r) := by
  unfold Grip.follow
  generalize (if (g.coord r).isAbsolute then m else m - n) = k
  dsimp only
  split
  · exact Outcome.keeps_unchanged
  · next hk =>
    refine Outcome.keeps_shifted fun heq => hk ?_
    have hindex := hg.index_shift r k 0
    rw [heq] at hindex
    omega

/-- An insertion never gives the same reference as a new one. -/
lemma keeps_ne_insertReference (b : Band) (axis : Axis) (r : α) (formula : Cell) :
    (b.insertReference axis g r formula).Keeps (· ≠ r) :=
  keeps_ne_follow hg r _ _

/-- A removal never gives the same reference as a new one. -/
lemma keeps_ne_removeReference (b : Band) (axis : Axis) (r : α) (formula : Cell) :
    (b.removeReference axis g r formula).Keeps (· ≠ r) := by
  unfold removeReference
  split
  · exact keeps_ne_follow hg r _ _
  · exact Outcome.keeps_lost

/-- An insertion never gives the same area as a new one. -/
lemma keeps_ne_insertArea (b : Band) (axis : Axis) (r : Area α) (formula : Cell) :
    (b.insertArea axis g r formula).Keeps (· ≠ r) := by
  unfold insertArea
  split
  · exact Outcome.keeps_unchanged
  · next hchange =>
    exact Outcome.keeps_shifted (Area.withEnds_getD_ne
      (keeps_ne_insertReference hg b axis r.first formula)
      (keeps_ne_insertReference hg b axis r.last formula)
      (follow_ne_lost g r.first _ _) (follow_ne_lost g r.last _ _) hchange)

/-- Where no end is cut, an area that is wanted anew is another one. -/
lemma keeps_ne_removeClipped (b : Band) (axis : Axis) (r : Area α) (formula : Cell) :
    (b.removeClipped axis g r r.first r.last false formula).Keeps (· ≠ r) := by
  unfold removeClipped
  split
  · exact Outcome.keeps_lost
  · exact Outcome.keeps_lost
  · exact Outcome.keeps_unchanged
  · next hfirst hlast hchange =>
    exact Outcome.keeps_shifted (Area.withEnds_getD_ne
      (keeps_ne_removeReference hg b axis r.first formula)
      (keeps_ne_removeReference hg b axis r.last formula) hfirst hlast hchange)

/-- Only an area that is cut can be wanted anew and be the same. -/
lemma cut_of_removeArea_eq {r : Area α} (h : b.removeArea axis g r formula = .shifted r) :
    r.resolvedSheet formula.sheet = b.sheet ∧
      (g.index r.first (formula.along axis) ∈ b ∨ g.index r.last (formula.along axis) ∈ b) := by
  by_contra hno
  refine Outcome.Keeps.ne_shifted ?_ h
  by_cases hs : r.resolvedSheet formula.sheet = b.sheet
  · obtain ⟨hfirst, hlast⟩ := not_or.mp fun hcut => hno ⟨hs, hcut⟩
    by_cases hcovers : b.start ≤ g.index r.first (formula.along axis) ∧
        g.index r.last (formula.along axis) ≤ b.last
    · rw [removeArea_eq_lost b axis ⟨hs, hcovers⟩]
      exact Outcome.keeps_lost
    · have hkeptFirst : b.clippedFirst g r.first (formula.along axis) = r.first := if_neg hfirst
      have hkeptLast : b.clippedLast g r.last (formula.along axis) = r.last := if_neg hlast
      rw [removeArea_eq_removeClipped b axis hs hcovers, hkeptFirst, hkeptLast,
        decide_eq_false hfirst, decide_eq_false hlast]
      exact keeps_ne_removeClipped hg b axis r formula
  · rw [removeArea_of_ne b axis hs]
    exact keeps_ne_removeClipped hg b axis r formula

/-- A removal wants an area written anew as it was exactly if it cuts it in place. -/
theorem removeArea_eq_shifted_iff (hb : 0 < b.count) {r : Area α}
    (hs : Qualified.sheet r.last = Qualified.sheet r.first) :
    b.removeArea axis g r formula = .shifted r ↔ b.CutsInPlace axis g formula r := by
  by_cases hcovers : b.Covers (r.resolvedSheet formula.sheet)
      (g.index r.first (formula.along axis)) (g.index r.last (formula.along axis))
  · rw [removeArea_eq_lost b axis hcovers]
    exact ⟨nofun, fun h => absurd hcovers h.not_covers⟩
  obtain ⟨hne, hresized⟩ := resized_removeArea b axis hg hs hcovers
  have hmoved := removalShift_cases b formula.sheet (formula.along axis)
  -- Seen from the new place of the formula, these are the lines of the old ends.
  have hfirst := Coord.resolve_add (g.coord r.first) (formula.along axis)
    (b.removalShift formula.sheet (formula.along axis))
  have hlast := Coord.resolve_add (g.coord r.last) (formula.along axis)
    (b.removalShift formula.sheet (formula.along axis))
  constructor
  · intro h
    obtain ⟨hsheet, hcut⟩ := cut_of_removeArea_eq hg h
    rw [h, hsheet] at hresized
    obtain ⟨hmoves, hanchors, hcut⟩ :=
      (afterRemoval_keptOr_iff hb (fun hc => hcovers ⟨hsheet, hc⟩) hcut hmoved).mp
        ⟨hfirst.symm.trans hresized.first.index_eq, hlast.symm.trans hresized.last.index_eq⟩
    exact ⟨hsheet, (removalShift_eq_neg_iff hb).mp hmoves, hanchors, hcut⟩
  · intro h
    have hcut : g.index r.first (formula.along axis) ∈ b ∨
        g.index r.last (formula.along axis) ∈ b := by
      have hcases := h.cut
      have hband : b.last = b.start + b.count - 1 := rfl
      rw [mem_iff, mem_iff]
      omega
    obtain ⟨hi, hj⟩ :=
      (afterRemoval_keptOr_iff hb (fun hc => hcovers ⟨h.sheet, hc⟩) hcut hmoved).mpr
        ⟨(removalShift_eq_neg_iff hb).mpr h.moves, h.anchors, h.cut⟩
    rw [h.sheet, ← hi, ← hj] at hresized
    unfold Grip.index at hresized
    rw [← hfirst, ← hlast] at hresized
    exact Outcome.eq_shifted (removeArea_ne_unchanged h.sheet hcut) hne (hresized.eq_self hg)

end

end Band

/-! ## Atoms -/

namespace Rewriting

variable {w : Rewriting} {formula : Cell} {β : Type} {c : β → Atom} {x : β} {o : Outcome β}

/-- What is lost becomes an error value and what is wanted anew the reference that is wanted. So an
atom is affected without a change only if the old reference is wanted. -/
lemma atom_ne_unchanged_iff (h : w.atom formula (c x) = o.map c) (hinj : Function.Injective c)
    (hc : ∀ d, c x ≠ .errorValue d) {P : Prop} (hP : o = .shifted x ↔ P) :
    (w.atom formula (c x) ≠ .unchanged ↔ w.newAtom formula (c x) ≠ c x ∨ P) ∧
      (P → w.newAtom formula (c x) = c x) := by
  rw [← hP]
  unfold newAtom
  rw [h]
  cases o with
  | unchanged => simp [Outcome.map]
  | shifted y =>
    have hsame : c y = c x ↔ y = x := hinj.eq_iff
    simp [Outcome.map, hsame, em']
  | lost => simpa [Outcome.map] using Ne.symm (hc _)

end Rewriting

namespace Edit

/-- The removal of lines cuts the area in place. -/
def CutsInPlace (e : Edit) (formula : Cell) : Atom → Prop
  | .cells r => ∃ axis b, e = .remove axis b ∧ b.CutsInPlace axis (CellRef.grip axis) formula r
  | .lines axis r => ∃ b, e = .remove axis b ∧ b.CutsInPlace axis LineRef.grip formula r
  | _ => False

variable {e : Edit} {l : Locale} {formula : Cell}

/-- An edit never gives the same reference to a cell as a new one. -/
lemma keeps_ne_cell (e : Edit) (r : CellRef) (formula : Cell) :
    (e.rewriting.cell r formula).Keeps (· ≠ r) := by
  cases e with
  | insert axis b =>
    exact Band.keeps_ne_insertReference (CellRef.isLawful_grip axis) b axis r formula
  | remove axis b =>
    exact Band.keeps_ne_removeReference (CellRef.isLawful_grip axis) b axis r formula
  | move inside outside =>
    exact Outcome.keeps_ite (Outcome.keeps_ne_ofNew _ _)
      (Outcome.keeps_ite (Outcome.keeps_ne_ofNew _ _) Outcome.keeps_unchanged)
  | removeSheet sheet => exact Outcome.keeps_ite Outcome.keeps_lost Outcome.keeps_unchanged

/-- An edit that removes no lines never gives the same area of cells as a new one. -/
lemma keeps_ne_cells (h : ∀ axis b, e ≠ .remove axis b) (r : Area CellRef) (formula : Cell) :
    (e.rewriting.cells r formula).Keeps (· ≠ r) := by
  cases e with
  | insert axis b => exact Band.keeps_ne_insertArea (CellRef.isLawful_grip axis) b axis r formula
  | remove axis b => exact absurd rfl (h axis b)
  | move inside outside =>
    exact Outcome.keeps_ite (Outcome.keeps_ne_ofNew _ _)
      (Outcome.keeps_ite (Outcome.keeps_ne_ofNew _ _) Outcome.keeps_unchanged)
  | removeSheet sheet => exact Outcome.keeps_ite Outcome.keeps_lost Outcome.keeps_unchanged

/-- An edit that removes no lines never gives the same rows or columns as new ones. -/
lemma keeps_ne_lines {axis : Axis} (h : ∀ b, e ≠ .remove axis b) (r : Area LineRef)
    (formula : Cell) : (e.rewriting.lines axis r formula).Keeps (· ≠ r) := by
  cases e with
  | insert other b =>
    exact Outcome.keeps_ite (Band.keeps_ne_insertArea LineRef.isLawful_grip b other r formula)
      Outcome.keeps_unchanged
  | remove other b =>
    have hne : axis ≠ other := fun heq => h b (heq ▸ rfl)
    simp only [rewriting, Band.removal, if_neg hne]
    exact Outcome.keeps_unchanged
  | move inside outside =>
    exact Outcome.keeps_ite (Outcome.keeps_ne_ofNew _ _) Outcome.keeps_unchanged
  | removeSheet sheet => exact Outcome.keeps_ite Outcome.keeps_lost Outcome.keeps_unchanged

/-- An edit gives the same area of cells as a new one exactly if it cuts the area in place. -/
lemma cells_eq_shifted_iff (hc : e.Checked l) {r : Area CellRef}
    (hs : Qualified.sheet r.last = Qualified.sheet r.first) :
    e.rewriting.cells r formula = .shifted r ↔ e.CutsInPlace formula (.cells r) := by
  by_cases h : ∃ axis b, e = .remove axis b
  · obtain ⟨axis, b, rfl⟩ := h
    have hb := (Band.checked_eq_ok_iff.mp hc).2.2
    refine (Band.removeArea_eq_shifted_iff (CellRef.isLawful_grip axis) hb hs).trans
      ⟨fun hcut => ⟨axis, b, rfl, hcut⟩, ?_⟩
    rintro ⟨_, _, ⟨⟩, hcut⟩
    exact hcut
  · have hexact := keeps_ne_cells (fun axis b he => h ⟨axis, b, he⟩) r formula
    exact iff_of_false hexact.ne_shifted fun ⟨axis, b, he, _⟩ => h ⟨axis, b, he⟩

/-- An edit gives the same rows or columns as new ones exactly if it cuts them in place. -/
lemma lines_eq_shifted_iff (hc : e.Checked l) {axis : Axis} {r : Area LineRef}
    (hs : Qualified.sheet r.last = Qualified.sheet r.first) :
    e.rewriting.lines axis r formula = .shifted r ↔ e.CutsInPlace formula (.lines axis r) := by
  by_cases h : ∃ b, e = .remove axis b
  · obtain ⟨b, rfl⟩ := h
    have hb := (Band.checked_eq_ok_iff.mp hc).2.2
    have hlines : (remove axis b).rewriting.lines axis r formula =
        b.removeArea axis LineRef.grip r formula := if_pos rfl
    rw [hlines, Band.removeArea_eq_shifted_iff LineRef.isLawful_grip hb hs]
    refine ⟨fun hcut => ⟨b, rfl, hcut⟩, ?_⟩
    rintro ⟨_, ⟨⟩, hcut⟩
    exact hcut
  · have hexact := keeps_ne_lines (fun b he => h ⟨b, he⟩) r formula
    exact iff_of_false hexact.ne_shifted fun ⟨b, he, _⟩ => h ⟨b, he⟩

/-- An edit wants an atom written anew exactly if it changes it or cuts it in place, and an atom
that is cut in place stays as it is. -/
lemma atom_ne_unchanged_iff (hc : e.Checked l) {a : Atom} (ha : a.IsOnOneSheet) (formula : Cell) :
    (e.rewriting.atom formula a ≠ .unchanged ↔
        e.rewriting.newAtom formula a ≠ a ∨ e.CutsInPlace formula a) ∧
      (e.CutsInPlace formula a → e.rewriting.newAtom formula a = a) := by
  cases a with
  | cell r =>
    exact Rewriting.atom_ne_unchanged_iff (c := Atom.cell) rfl (fun _ _ => Atom.cell.inj)
      (fun _ => by simp) (iff_of_false (keeps_ne_cell e r formula).ne_shifted not_false)
  | cells r =>
    exact Rewriting.atom_ne_unchanged_iff (c := Atom.cells) rfl (fun _ _ => Atom.cells.inj)
      (fun _ => by simp) (cells_eq_shifted_iff hc ha)
  | lines axis r =>
    exact Rewriting.atom_ne_unchanged_iff (c := Atom.lines axis) rfl
      (fun _ _ h => (Atom.lines.inj h).2) (fun _ => by simp) (lines_eq_shifted_iff hc ha)
  | _ => exact ⟨by simp [Rewriting.atom, Rewriting.newAtom, CutsInPlace], False.elim⟩

/-! ## Formulas -/

/-- An edit affects a formula if it changes it, and besides only if it cuts an area of it in place.
Such an area is the same as before. -/
theorem affects_iff (hc : e.Checked l) {t : Tree} (ht : ∀ a ∈ t.atoms, a.IsOnOneSheet)
    (formula : Cell) :
    (e.rewriting.affects t formula = true ↔
        e.rewriting.tree t formula ≠ t ∨ ∃ a ∈ t.atoms, e.CutsInPlace formula a) ∧
      ∀ a ∈ t.atoms, e.CutsInPlace formula a → e.rewriting.newAtom formula a = a := by
  have hatoms := fun a ha => atom_ne_unchanged_iff hc (ht a ha) formula
  refine ⟨?_, fun a ha => (hatoms a ha).2⟩
  have hchanged : e.rewriting.tree t formula ≠ t ↔
      ∃ a ∈ t.atoms, e.rewriting.newAtom formula a ≠ a := by
    rw [Rewriting.tree, Ne, Tree.mapAtoms_eq_self_iff]
    simp only [not_forall, exists_prop]
  simp only [Rewriting.affects, List.any_eq_true, decide_eq_true_eq]
  rw [hchanged]
  constructor
  · rintro ⟨a, ha, hne⟩
    rcases (hatoms a ha).1.mp hne with hnew | hcut
    · exact Or.inl ⟨a, ha, hnew⟩
    · exact Or.inr ⟨a, ha, hcut⟩
  · rintro (⟨a, ha, hnew⟩ | ⟨a, ha, hcut⟩)
    · exact ⟨a, ha, (hatoms a ha).1.mpr (Or.inl hnew)⟩
    · exact ⟨a, ha, (hatoms a ha).1.mpr (Or.inr hcut)⟩

/-- The rows 4 and 5 are removed. In `A11`, the area of `A1:A5` is changed, and so the formula is
affected. -/
theorem affects_iff_removed_rows :
    let e : Edit := .remove .row ⟨0, 3, 2⟩
    let formula : Cell := ⟨0, 0, 10⟩
    let t : Tree := .call none "SUM".toList [.atom none (.cells
      ⟨⟨⟨.relative, 0⟩, ⟨.relative, -10⟩, none⟩, ⟨⟨.relative, 0⟩, ⟨.relative, -6⟩, none⟩,
        .neither⟩)] none
    e.Checked .unitedStates ∧ (∀ a ∈ t.atoms, a.IsOnOneSheet) ∧ e.rewriting.tree t formula ≠ t ∧
      e.rewriting.affects t formula = true := by
  intro e formula t
  have hc : e.Checked .unitedStates := (by decide : Band.checked 0 3 2 = .ok ⟨0, 3, 2⟩)
  have ht : ∀ a ∈ t.atoms, a.IsOnOneSheet := by
    intro a ha
    simp only [t, Tree.atoms_call, List.flatMap_cons, List.flatMap_nil, Tree.atoms_atom,
      List.append_nil, List.mem_singleton] at ha
    subst ha
    exact rfl
  have hne : e.rewriting.tree t formula ≠ t := by decide
  exact ⟨hc, ht, hne, (affects_iff hc ht formula).1.mpr (Or.inl hne)⟩

/-- With `A$1:A5` in place of `A1:A5`, the formula is affected and is the same as before. -/
theorem exists_affects_tree_eq :
    ∃ (e : Edit) (t : Tree) (formula : Cell), e.Checked .unitedStates ∧
      (∀ a ∈ t.atoms, a.IsProper formula) ∧ e.rewriting.affects t formula = true ∧
      e.rewriting.tree t formula = t := by
  refine ⟨.remove .row ⟨0, 3, 2⟩, .atom none (.cells
    ⟨⟨⟨.relative, 0⟩, ⟨.absolute, 0⟩, none⟩, ⟨⟨.relative, 0⟩, ⟨.relative, -6⟩, none⟩, .neither⟩),
    ⟨0, 0, 10⟩, (by decide : Band.checked 0 3 2 = .ok ⟨0, 3, 2⟩), ?_, by decide, by decide⟩
  intro a ha
  rw [Tree.atoms_atom, List.mem_singleton] at ha
  subst ha
  exact Area.isProper_cells_iff.mpr (by decide)

end Edit

end GridFormula
