import GridFormula.Proofs.Edit.Frame

/-!
# What a move makes of an area

An area whose rectangle lies in the cells that move goes on meaning these cells, in their new place.
Every other area means the same cells as before, and whole rows or columns are never moved. It makes
no difference where the formula stands and whether it moves as well: a move treats the two ends of
an area alike, and each of them as it would treat a reference to a single cell.
-/

namespace GridFormula

/-- A new reference is not a lost one. -/
lemma Outcome.ofNew_ne_lost {α : Type} [DecidableEq α] (old new : α) : ofNew old new ≠ .lost := by
  unfold ofNew
  split <;> simp

namespace Relocation

variable (m : Relocation) {formula : Cell}

/-! ## Areas of cells -/

/-- What a move makes of a reference: it keeps its kind, and whether the two ends of an area name
one sheet. -/
structure Step (f : CellRef → CellRef) : Prop where
  sameKind : ∀ e, (f e).SameKind e
  sheet_eq : ∀ {e e'}, e.sheet = e'.sheet → (f e).sheet = (f e').sheet

/-- A move may leave a reference as it is. -/
lemma step_id : Step id where
  sameKind := .refl
  sheet_eq h := h

/-- A reference that moves with its cell takes such a step. -/
lemma step_carried : Step m.carried where
  sameKind := m.sameKind_carried
  sheet_eq h := congrArg (Option.map fun _ => m.toSheet) h

/-- A reference that is left behind takes such a step. -/
lemma step_left : Step m.left where
  sameKind := m.sameKind_left
  sheet_eq {e e'} h := by
    unfold left
    dsimp only
    rw [h]
    split
    · rfl
    · exact h

/-- A reference that follows its cell takes such a step. -/
lemma step_followed (formula : Cell) : Step (m.followed · formula) where
  sameKind e := m.sameKind_followed e formula
  sheet_eq {e e'} h := by
    unfold followed
    dsimp only
    rw [h]
    split
    · rfl
    · exact congrArg (Option.map fun _ => m.toSheet) h

section

variable {r : Area CellRef} (hs : r.last.sheet = r.first.sheet)

include hs

/-- The ends of an area that moves along are moved one by one. -/
lemma carriedArea_ends :
    (m.carriedArea r).first = m.carried r.first ∧ (m.carriedArea r).last = m.carried r.last := by
  obtain ⟨⟨column, row, sheet⟩, ⟨column', row', sheet'⟩, q⟩ := r
  obtain rfl : sheet' = sheet := hs
  cases sheet' with
  | none => exact ⟨rfl, rfl⟩
  | some s => exact ⟨rfl, rfl⟩

/-- The ends of an area that is left behind are rewritten one by one. -/
lemma leftArea_ends :
    (m.leftArea r).first = m.left r.first ∧ (m.leftArea r).last = m.left r.last := by
  have hsheet : (r.map fun e => e.shiftRelative (-m.right) (-m.down)).sheet = r.first.sheet := rfl
  unfold leftArea pinned left
  rw [hsheet, hs]
  dsimp only
  split
  · exact ⟨rfl, rfl⟩
  · exact ⟨rfl, rfl⟩

/-- The ends of an area that follows its cells are rewritten one by one. -/
lemma followedArea_ends (formula : Cell) :
    (m.followedArea r formula).first = m.followed r.first formula ∧
      (m.followedArea r formula).last = m.followed r.last formula := by
  have hsheet : r.sheet = r.first.sheet := rfl
  unfold followedArea followed
  rw [hsheet, hs]
  dsimp only
  split
  · exact ⟨rfl, rfl⟩
  · exact ⟨rfl, rfl⟩

/-- Both ends of an area are treated alike: if both mean cells that move, they follow these, and
otherwise they stay where they are. -/
lemma exists_step (formula : Cell) :
    (Edit.relocate m).rewriting.cells r formula ≠ .lost ∧
      ∃ f, Step f ∧
        (((Edit.relocate m).rewriting.cells r formula).getD r).first = f r.first ∧
        (((Edit.relocate m).rewriting.cells r formula).getD r).last = f r.last ∧
        ∀ e, (f e).resolve ((Edit.relocate m).rewriting.place formula) =
          if m.movesArea r formula then (e.resolve formula).moved m.toSheet m.right m.down
          else e.resolve formula := by
  simp only [Edit.relocate, Edit.rewriting, Rewriting.within, inside, outside]
  by_cases hf : formula ∈ m.source <;> by_cases hr : m.movesArea r formula = true
  · simp only [hf, hr, if_true]
    obtain ⟨hfirst, hlast⟩ := m.carriedArea_ends hs
    refine ⟨Outcome.ofNew_ne_lost _ _, m.carried, m.step_carried, ?_, ?_, ?_⟩
    · rw [Outcome.getD_ofNew, hfirst]
    · rw [Outcome.getD_ofNew, hlast]
    · exact fun e => m.resolve_carried e formula
  · simp only [hf, hr, if_true, if_false, Bool.false_eq_true]
    obtain ⟨hfirst, hlast⟩ := m.leftArea_ends hs
    refine ⟨Outcome.ofNew_ne_lost _ _, m.left, m.step_left, ?_, ?_, ?_⟩
    · rw [Outcome.getD_ofNew, hfirst]
    · rw [Outcome.getD_ofNew, hlast]
    · exact fun e => resolve_left hf
  · simp only [hf, hr, if_true, if_false]
    obtain ⟨hfirst, hlast⟩ := m.followedArea_ends hs formula
    refine ⟨Outcome.ofNew_ne_lost _ _, (m.followed · formula), m.step_followed formula, ?_, ?_, ?_⟩
    · rw [Outcome.getD_ofNew, hfirst]
    · rw [Outcome.getD_ofNew, hlast]
    · exact fun e => m.resolve_followed e formula
  · simp only [hf, hr, if_false, Bool.false_eq_true]
    exact ⟨by simp, id, step_id, rfl, rfl, fun _ => rfl⟩

end

/-- An area moves if both of its ends are in the source. -/
lemma movesArea_iff_ends {r : Area CellRef} : m.movesArea r formula = true ↔
    r.first.resolve formula ∈ m.source ∧ r.last.resolve formula ∈ m.source := by
  simp [movesArea, moves]

/-- An area with its ends in order moves if and only if all of its rectangle does. -/
lemma movesArea_iff {r : Area CellRef} (h : r.IsProper CellRef.frame formula) :
    m.movesArea r formula = true ↔ ∀ c ∈ r.rect formula, c ∈ m.source := by
  obtain ⟨hs, hrow, hcolumn⟩ := Area.isProper_cells_iff.mp h
  have hsheet : (r.last.resolve formula).sheet = (r.first.resolve formula).sheet :=
    congrArg (Option.getD · formula.sheet) hs
  rw [movesArea_iff_ends]
  constructor
  · rintro ⟨hfirst, hlast⟩ c hc
    obtain ⟨hcs, hc⟩ := h.mem_rect_iff.mp hc
    rw [Rect.mem_iff] at hfirst hlast ⊢
    exact ⟨hcs.trans hfirst.1, by omega⟩
  · intro hall
    exact ⟨hall _ (h.mem_rect_iff.mpr ⟨rfl, le_rfl, hrow, le_rfl, hcolumn⟩),
      hall _ (h.mem_rect_iff.mpr ⟨hsheet, hrow, le_rfl, hcolumn, le_rfl⟩)⟩

/-! ## Whole rows and columns -/

/-- On each axis a cell moves by the distance on that axis. -/
lemma along_moved (c : Cell) (axis : Axis) :
    (c.moved m.toSheet m.right m.down).along axis = c.along axis + m.along axis := by
  cases axis <;> rfl

/-- A reference to a line that stays behind on the right sheet when its formula moves away. -/
lemma resolve_leftLine (axis : Axis) {e : LineRef} {sheet : Option SheetId}
    (h : sheet.getD m.toSheet = e.sheet.getD formula.sheet) :
    LineRef.resolve { e.shiftRelative (-m.along axis) with sheet } axis
      (formula.moved m.toSheet m.right m.down) = e.resolve axis formula := by
  have hindex := Coord.resolve_shiftRelative e.position (m.along axis) (formula.along axis)
  rw [← along_moved] at hindex
  exact Line.mk.injEq .. ▸ ⟨h, hindex⟩

/-- Both ends of whole rows or columns go on meaning their lines when the formula moves away. -/
lemma resolve_leftLines (hf : formula ∈ m.source) (axis : Axis) {r : Area LineRef}
    (hs : r.last.sheet = r.first.sheet) :
    (m.leftLines axis r).first.resolve axis (formula.moved m.toSheet m.right m.down) =
        r.first.resolve axis formula ∧
      (m.leftLines axis r).last.resolve axis (formula.moved m.toSheet m.right m.down) =
        r.last.resolve axis formula := by
  have hsheet : formula.sheet = m.source.sheet := hf.1
  unfold leftLines pinned
  split
  · next h =>
    have hnone : r.first.sheet = none := h.1
    have hhome : m.source.sheet = r.first.sheet.getD formula.sheet := by
      rw [hnone, hsheet]
      exact rfl
    exact ⟨m.resolve_leftLine axis hhome, m.resolve_leftLine axis (hs ▸ hhome)⟩
  · next h =>
    have hhome : r.first.sheet.getD m.toSheet = r.first.sheet.getD formula.sheet := by
      cases hr : r.first.sheet with
      | none =>
        have hto : m.toSheet = m.source.sheet := by
          by_contra hne
          exact h ⟨hr, hne⟩
        rw [hto, hsheet]
      | some s => rfl
    exact ⟨m.resolve_leftLine axis hhome, m.resolve_leftLine axis (hs ▸ hhome)⟩

/-- After a move, rows or columns mean the same lines as before. -/
lemma resolve_lines_relocate (formula : Cell) (axis : Axis) {r : Area LineRef}
    (hs : r.last.sheet = r.first.sheet) :
    (((Edit.relocate m).rewriting.lines axis r formula).getD r).first.resolve axis
          ((Edit.relocate m).rewriting.place formula) = r.first.resolve axis formula ∧
      (((Edit.relocate m).rewriting.lines axis r formula).getD r).last.resolve axis
          ((Edit.relocate m).rewriting.place formula) = r.last.resolve axis formula := by
  simp only [Edit.relocate, Edit.rewriting, Rewriting.within, inside, outside]
  by_cases hf : formula ∈ m.source
  · simp only [hf, if_true]
    rw [Outcome.getD_ofNew]
    exact m.resolve_leftLines hf axis hs
  · simp only [hf, if_false]
    exact ⟨rfl, rfl⟩

/-! ## Any area -/

/-- The area lives on and is written as before: with the same `$`, with one sheet for both ends, and
with a sheet in front if and only if there is one, provided that this was so before. -/
structure KeepsForm {α : Type} [Qualified α] (fr : Frame α) (r : Area α)
    (o : Outcome (Area α)) : Prop where
  ne_lost : o ≠ .lost
  anchors : ∀ axis, ∀ g ∈ fr.grip? axis,
    (g.coord (o.getD r).first).anchor = (g.coord r.first).anchor ∧
      (g.coord (o.getD r).last).anchor = (g.coord r.last).anchor
  sheets : Qualified.sheet (o.getD r).last = Qualified.sheet (o.getD r).first
  coherent : r.IsCoherent → (o.getD r).IsCoherent

/-- A move keeps the form of an area of cells. -/
lemma keepsForm_cells (formula : Cell) {r : Area CellRef} (hs : r.last.sheet = r.first.sheet) :
    KeepsForm CellRef.frame r ((Edit.relocate m).rewriting.cells r formula) := by
  obtain ⟨hne, f, hf, hfirst, hlast, -⟩ := m.exists_step hs formula
  refine ⟨hne, ?_, ?_, ?_⟩
  · rintro axis _ ⟨⟩
    rw [hfirst, hlast]
    obtain ⟨hcolumn, hrow⟩ := hf.sameKind r.first
    obtain ⟨hcolumn', hrow'⟩ := hf.sameKind r.last
    cases axis with
    | row => exact ⟨hrow, hrow'⟩
    | column => exact ⟨hcolumn, hcolumn'⟩
  · rw [hfirst, hlast]
    exact hf.sheet_eq hs
  · intro h
    exact ((Edit.relocate m).keepsCoherence.cells r formula h).getD h

/-- Rows or columns in a formula that moves keep their form. -/
lemma keepsForm_leftLines (axis : Axis) {r : Area LineRef} (hs : r.last.sheet = r.first.sheet) :
    KeepsForm (LineRef.frame axis) r (.ofNew r (m.leftLines axis r)) := by
  refine ⟨Outcome.ofNew_ne_lost _ _, ?_, ?_, ?_⟩
  · intro a g hg
    obtain ⟨-, ⟨⟩⟩ := Option.ite_none_right_eq_some.mp hg
    rw [Outcome.getD_ofNew]
    unfold leftLines pinned
    split <;> exact ⟨Coord.anchor_shiftRelative _ _, Coord.anchor_shiftRelative _ _⟩
  · rw [Outcome.getD_ofNew]
    unfold leftLines pinned
    split
    · exact rfl
    · exact hs
  · intro h
    exact (m.keepsCoherence_inside.lines axis r ⟨0, 0, 0⟩ h).getD h

/-- A move keeps the form of rows or columns. -/
lemma keepsForm_lines (formula : Cell) (axis : Axis) {r : Area LineRef}
    (hs : r.last.sheet = r.first.sheet) :
    KeepsForm (LineRef.frame axis) r ((Edit.relocate m).rewriting.lines axis r formula) := by
  simp only [Edit.relocate, Edit.rewriting, Rewriting.within, inside, outside]
  by_cases hf : formula ∈ m.source
  · simp only [hf, if_true]
    exact m.keepsForm_leftLines axis hs
  · simp only [hf, if_false]
    exact ⟨by simp, fun _ _ _ => ⟨rfl, rfl⟩, hs, id⟩

/-- After a move, an area of cells all of which have moved means these cells in their new place.
Every other area means what it meant before. -/
theorem relocate_areas (m : Relocation) (formula : Cell) :
    (∀ r, r.IsProper CellRef.frame formula →
      let o := (Edit.relocate m).rewriting.cells r formula
      let place := (Edit.relocate m).rewriting.place formula
      KeepsForm CellRef.frame r o ∧
        ((∀ c ∈ r.rect formula, c ∈ m.source) →
          (o.getD r).first.resolve place =
              (r.first.resolve formula).moved m.toSheet m.right m.down ∧
            (o.getD r).last.resolve place =
              (r.last.resolve formula).moved m.toSheet m.right m.down) ∧
        ((∃ c ∈ r.rect formula, c ∉ m.source) →
          (o.getD r).first.resolve place = r.first.resolve formula ∧
            (o.getD r).last.resolve place = r.last.resolve formula)) ∧
      ∀ axis r, r.IsProper (LineRef.frame axis) formula →
        let o := (Edit.relocate m).rewriting.lines axis r formula
        let place := (Edit.relocate m).rewriting.place formula
        KeepsForm (LineRef.frame axis) r o ∧
          (o.getD r).first.resolve axis place = r.first.resolve axis formula ∧
          (o.getD r).last.resolve axis place = r.last.resolve axis formula := by
  refine ⟨fun r h => ⟨m.keepsForm_cells formula h.sheets, ?_, ?_⟩,
    fun axis r h => ⟨m.keepsForm_lines formula axis h.sheets,
      m.resolve_lines_relocate formula axis h.sheets⟩⟩
  · intro hin
    obtain ⟨-, f, -, hfirst, hlast, hf⟩ := m.exists_step h.sheets formula
    simp only [(m.movesArea_iff h).mpr hin, if_true] at hf
    rw [hfirst, hlast]
    exact ⟨hf r.first, hf r.last⟩
  · rintro ⟨c, hc, hout⟩
    obtain ⟨-, f, -, hfirst, hlast, hf⟩ := m.exists_step h.sheets formula
    have hstays : ¬m.movesArea r formula = true := fun hmoves =>
      hout ((m.movesArea_iff h).mp hmoves c hc)
    simp only [hstays, if_false, Bool.false_eq_true] at hf
    rw [hfirst, hlast]
    exact ⟨hf r.first, hf r.last⟩

/-- The block `B2:D4` moves two columns to the right and one row down onto another sheet. The
formula in `B2` moves along, and so does what it refers to by `C$2:D3`; `C$2:E3` stays. -/
theorem relocate_areas_block :
    let m : Relocation := ⟨⟨⟨0, 1, 1⟩, ⟨0, 3, 3⟩⟩, 2, 1, 1⟩
    let formula : Cell := ⟨0, 1, 1⟩
    let r : Area CellRef :=
      ⟨⟨⟨.relative, 1⟩, ⟨.absolute, 1⟩, none⟩, ⟨⟨.relative, 2⟩, ⟨.relative, 1⟩, none⟩, .neither⟩
    let r' : Area CellRef :=
      ⟨⟨⟨.relative, 1⟩, ⟨.absolute, 1⟩, none⟩, ⟨⟨.relative, 3⟩, ⟨.relative, 1⟩, none⟩, .neither⟩
    let o := (Edit.relocate m).rewriting.cells r formula
    let o' := (Edit.relocate m).rewriting.cells r' formula
    m.checked .unitedStates = .ok m ∧
      r.IsProper CellRef.frame formula ∧ (∀ c ∈ r.rect formula, c ∈ m.source) ∧
      (o.getD r).first.resolve ⟨1, 3, 2⟩ = ⟨1, 4, 2⟩ ∧
      (o.getD r).last.resolve ⟨1, 3, 2⟩ = ⟨1, 5, 3⟩ ∧
      r'.IsProper CellRef.frame formula ∧ (∃ c ∈ r'.rect formula, c ∉ m.source) ∧
      (o'.getD r').first.resolve ⟨1, 3, 2⟩ = ⟨0, 2, 1⟩ ∧
      (o'.getD r').last.resolve ⟨1, 3, 2⟩ = ⟨0, 4, 2⟩ := by
  intro m formula r r' o o'
  have hr : r.IsProper CellRef.frame formula := Area.isProper_cells_iff.mpr (by decide)
  have hr' : r'.IsProper CellRef.frame formula := Area.isProper_cells_iff.mpr (by decide)
  have hin : ∀ c ∈ r.rect formula, c ∈ m.source := (m.movesArea_iff hr).mp (by decide)
  have hout : ∃ c ∈ r'.rect formula, c ∉ m.source := ⟨⟨0, 4, 2⟩, by decide, by decide⟩
  obtain ⟨hcells, -⟩ := relocate_areas m formula
  obtain ⟨hfirst, hlast⟩ := (hcells r hr).2.1 hin
  obtain ⟨hfirst', hlast'⟩ := (hcells r' hr').2.2 hout
  exact ⟨by decide, hr, hin, hfirst, hlast, hr', hout, hfirst', hlast'⟩

/-- An area both ends of which name a sheet may be built so that no sheet is written in front. After
a move this is still so. -/
theorem relocate_leaves_sheets_unwritten :
    let m : Relocation := ⟨⟨⟨0, 0, 0⟩, ⟨0, 1, 1⟩⟩, 1, 0, 0⟩
    let formula : Cell := ⟨0, 5, 5⟩
    let r : Area CellRef :=
      ⟨⟨⟨.absolute, 0⟩, ⟨.absolute, 0⟩, some 0⟩, ⟨⟨.absolute, 1⟩, ⟨.absolute, 1⟩, some 0⟩, .neither⟩
    let s := ((Edit.relocate m).rewriting.cells r formula).getD r
    m.checked .unitedStates = .ok m ∧ r.checked = .ok r ∧ r.IsProper CellRef.frame formula ∧
      ¬(s.first.sheet = none ∧ s.last.sheet = none ∧ s.qualification = .neither ∨
        s.first.sheet ≠ none ∧ s.last.sheet = s.first.sheet ∧ s.qualification ≠ .neither) := by
  intro m formula r s
  exact ⟨by decide, by decide, Area.isProper_cells_iff.mpr (by decide), by decide⟩

end Relocation

end GridFormula
