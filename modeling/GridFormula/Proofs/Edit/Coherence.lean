import GridFormula.Proofs.Edit.Tracking
import GridFormula.Proofs.Formula.Mapping

/-!
# Edits leave a formula legible

An edit gives an area other ends, or puts both of its ends on another sheet. Either way the ends lie
on one sheet afterwards if they did before, and the sheet is written if and only if there is one.
This is all that is asked of the atoms that an edit can change, so an edited formula can be written
and read again wherever the formula could.
-/

namespace GridFormula

/-- If the reference has to be written differently, the new one is as demanded. -/
def Outcome.Keeps {α : Type} (P : α → Prop) (o : Outcome α) : Prop :=
  ∀ a, o = .shifted a → P a

namespace Outcome

variable {α : Type} {P : α → Prop}

/-- Where nothing is new, nothing new has to satisfy the property. -/
lemma keeps_unchanged : (unchanged : Outcome α).Keeps P :=
  nofun

/-- Where the reference is lost, nothing has to satisfy the property. -/
lemma keeps_lost : (lost : Outcome α).Keeps P :=
  nofun

/-- A new reference satisfies the property that it has. -/
lemma keeps_shifted {a : α} (h : P a) : (shifted a).Keeps P := by
  intro b hb
  cases hb
  exact h

/-- If the new reference satisfies the property, the outcome keeps it, whether or not the old one
stays. -/
lemma keeps_ofNew [DecidableEq α] {old new : α} (h : P new) : (ofNew old new).Keeps P := by
  unfold ofNew
  split
  · exact keeps_unchanged
  · exact keeps_shifted h

/-- A choice between outcomes keeps what both of them keep. -/
lemma keeps_ite {p : Prop} [Decidable p] {o o' : Outcome α} (h : o.Keeps P) (h' : o'.Keeps P) :
    (if p then o else o').Keeps P := by
  split
  · exact h
  · exact h'

/-- A property of the reference that the outcome stands for is kept. -/
lemma keeps_of_getD {o : Outcome α} {a : α} (h : P (o.getD a)) : o.Keeps P := by
  rintro b rfl
  exact h

/-- If the old reference satisfies the property too, so does the one that the outcome stands for. -/
lemma Keeps.getD {o : Outcome α} (h : o.Keeps P) {a : α} (ha : P a) : P (o.getD a) := by
  cases o with
  | unchanged => exact ha
  | shifted b => exact h b rfl
  | lost => exact ha

/-- An outcome keeps whatever follows from a property that it keeps. -/
lemma Keeps.mono {Q : α → Prop} {o : Outcome α} (h : o.Keeps P) (hPQ : ∀ a, P a → Q a) :
    o.Keeps Q :=
  fun a ha => hPQ a (h a ha)

end Outcome

/-- A reference names the sheet that it was put on. -/
class Qualified.IsLawful (α : Type) [Qualified α] : Prop where
  sheet_onSheet : ∀ (r : α) sheet, Qualified.sheet (Qualified.onSheet r sheet) = sheet

instance : Qualified.IsLawful CellRef where
  sheet_onSheet _ _ := rfl

instance : Qualified.IsLawful LineRef where
  sheet_onSheet _ _ := rfl

/-! ## Areas -/

namespace Area

variable {α : Type} [Qualified α] {r : Area α}

/-- The ends of `s` name the sheets that those of `r` name, and these are written as in `r`. -/
structure SameSheets (r s : Area α) : Prop where
  first : Qualified.sheet s.first = Qualified.sheet r.first
  last : Qualified.sheet s.last = Qualified.sheet r.last
  qualification : s.qualification = r.qualification

/-- An area on the same sheets as a coherent one is coherent. -/
lemma SameSheets.isCoherent {s : Area α} (h : r.SameSheets s) (hr : r.IsCoherent) :
    s.IsCoherent where
  sheets := h.last.trans (hr.sheets.trans h.first.symm)
  qualified := by
    rw [h.qualification, h.first]
    exact hr.qualified

/-- Both ends are changed in one way, by which a sheet is neither gained nor lost. -/
lemma IsCoherent.map (h : r.IsCoherent) {f : α → α} (g : SheetId → SheetId)
    (hf : ∀ e, Qualified.sheet (f e) = (Qualified.sheet e).map g) : (r.map f).IsCoherent where
  sheets := by
    have hsheets := congrArg (Option.map g) h.sheets
    rwa [← hf, ← hf] at hsheets
  qualified := by
    refine h.qualified.trans ?_
    rw [← Option.map_eq_none_iff (f := g), ← hf]
    rfl

/-- Changing the ends of an area but not their sheets keeps it coherent. -/
lemma IsCoherent.map_of_sheet_eq (h : r.IsCoherent) {f : α → α}
    (hf : ∀ e, Qualified.sheet (f e) = Qualified.sheet e) : (r.map f).IsCoherent :=
  h.map id fun e => (hf e).trans (Option.map_id_apply).symm

/-- Wherever both ends are put on one sheet. -/
lemma isCoherent_onSheet [Qualified.IsLawful α] (r : Area α) (sheet : SheetId) :
    (r.onSheet (some sheet)).IsCoherent where
  sheets := by
    have hlaw := Qualified.IsLawful.sheet_onSheet (α := α)
    exact (hlaw r.last _).trans (hlaw r.first _).symm
  qualified := by
    have hsheet : Qualified.sheet (r.onSheet (some sheet)).first = some sheet :=
      Qualified.IsLawful.sheet_onSheet r.first _
    rw [hsheet]
    cases hq : r.qualification <;> simp [onSheet, hq]

end Area

/-! ## Bands -/

namespace Band

variable {α : Type} [Qualified α] {g : Grip α} (hg : g.KeepsSheet)

include hg

/-- Following a target keeps the sheet of a reference. -/
lemma sheet_getD_follow (r : α) (m n : Int) :
    Qualified.sheet ((g.follow r m n).getD r) = Qualified.sheet r := by
  have hshift : ∀ k, Qualified.sheet ((if k = 0 then Outcome.unchanged
      else .shifted (g.shift r k)).getD r) = Qualified.sheet r := by
    intro k
    split
    · rfl
    · exact hg r _
  exact hshift _

/-- A removal keeps the sheet of a reference. -/
lemma sheet_getD_removeReference (b : Band) (axis : Axis) (r : α) (formula : Cell) :
    Qualified.sheet ((b.removeReference axis g r formula).getD r) = Qualified.sheet r := by
  unfold removeReference
  split
  · exact sheet_getD_follow hg r _ _
  · rfl

variable (r : Area α)

/-- An insertion keeps the sheets of an area. -/
lemma keeps_insertArea (b : Band) (axis : Axis) (formula : Cell) :
    (b.insertArea axis g r formula).Keeps r.SameSheets := by
  unfold insertArea
  split
  · exact Outcome.keeps_unchanged
  · exact Outcome.keeps_shifted
      ⟨sheet_getD_follow hg _ _ _, sheet_getD_follow hg _ _ _, rfl⟩

/-- Moving the ends of a cut area keeps its sheets. -/
lemma keeps_removeClipped (b : Band) (axis : Axis) {first last : α}
    (hfirst : Qualified.sheet first = Qualified.sheet r.first)
    (hlast : Qualified.sheet last = Qualified.sheet r.last) (isClipped : Bool) (formula : Cell) :
    (b.removeClipped axis g r first last isClipped formula).Keeps r.SameSheets := by
  unfold removeClipped
  split
  · exact Outcome.keeps_lost
  · exact Outcome.keeps_lost
  · split
    · exact Outcome.keeps_shifted ⟨hfirst, hlast, rfl⟩
    · exact Outcome.keeps_unchanged
  · exact Outcome.keeps_shifted
      ⟨(sheet_getD_removeReference hg b axis first formula).trans hfirst,
        (sheet_getD_removeReference hg b axis last formula).trans hlast, rfl⟩

/-- Cutting an area keeps the sheet of its first end. -/
lemma sheet_clippedFirst (b : Band) (r : α) (origin : Int) :
    Qualified.sheet (b.clippedFirst g r origin) = Qualified.sheet r := by
  unfold clippedFirst
  dsimp only
  split
  · exact hg r _
  · rfl

/-- Cutting an area keeps the sheet of its last end. -/
lemma sheet_clippedLast (b : Band) (r : α) (origin : Int) :
    Qualified.sheet (b.clippedLast g r origin) = Qualified.sheet r := by
  unfold clippedLast
  dsimp only
  split
  · exact hg r _
  · rfl

/-- A removal keeps the sheets of an area. -/
lemma keeps_removeArea (b : Band) (axis : Axis) (formula : Cell) :
    (b.removeArea axis g r formula).Keeps r.SameSheets := by
  unfold removeArea
  dsimp only
  split
  · exact keeps_removeClipped hg r b axis rfl rfl _ formula
  · split
    · exact Outcome.keeps_lost
    · exact keeps_removeClipped hg r b axis (sheet_clippedFirst hg b _ _)
        (sheet_clippedLast hg b _ _) _ formula

end Band

/-! ## Edits -/

/-- What becomes of a coherent area is coherent. -/
structure Rewriting.KeepsCoherence (w : Rewriting) : Prop where
  cells : ∀ r formula, r.IsCoherent → (w.cells r formula).Keeps Area.IsCoherent
  lines : ∀ axis r formula, r.IsCoherent → (w.lines axis r formula).Keeps Area.IsCoherent

/-- So it is where an area keeps its sheets. -/
lemma Rewriting.keepsCoherence_of_sameSheets {w : Rewriting}
    (hcells : ∀ r formula, (w.cells r formula).Keeps r.SameSheets)
    (hlines : ∀ axis r formula, (w.lines axis r formula).Keeps r.SameSheets) :
    w.KeepsCoherence where
  cells r formula h := (hcells r formula).mono fun _ hs => hs.isCoherent h
  lines axis r formula h := (hlines axis r formula).mono fun _ hs => hs.isCoherent h

/-- Inserting lines keeps the sheets of an area of cells. -/
lemma Band.keeps_cells_insertion (b : Band) (axis : Axis) (r : Area CellRef) (formula : Cell) :
    ((b.insertion axis).cells r formula).Keeps r.SameSheets :=
  keeps_insertArea (CellRef.isLawful_grip axis).keepsSheet r b axis formula

/-- Inserting lines keeps the sheets of rows or columns. -/
lemma Band.keeps_lines_insertion (b : Band) (axis other : Axis) (r : Area LineRef)
    (formula : Cell) : ((b.insertion axis).lines other r formula).Keeps r.SameSheets :=
  Outcome.keeps_ite (keeps_insertArea LineRef.isLawful_grip.keepsSheet r b axis formula)
    Outcome.keeps_unchanged

/-- Removing lines keeps the sheets of an area of cells. -/
lemma Band.keeps_cells_removal (b : Band) (axis : Axis) (r : Area CellRef) (formula : Cell) :
    ((b.removal axis).cells r formula).Keeps r.SameSheets :=
  keeps_removeArea (CellRef.isLawful_grip axis).keepsSheet r b axis formula

/-- Removing lines keeps the sheets of rows or columns. -/
lemma Band.keeps_lines_removal (b : Band) (axis other : Axis) (r : Area LineRef) (formula : Cell) :
    ((b.removal axis).lines other r formula).Keeps r.SameSheets :=
  Outcome.keeps_ite (keeps_removeArea LineRef.isLawful_grip.keepsSheet r b axis formula)
    Outcome.keeps_unchanged

namespace Relocation

variable (m : Relocation)

/-- Pinning an area to the sheet that it is on keeps it coherent. -/
lemma isCoherent_pinned {α : Type} [Qualified α] [Qualified.IsLawful α] {r : Area α}
    (h : r.IsCoherent) : (m.pinned r).IsCoherent := by
  unfold pinned
  split
  · exact Area.isCoherent_onSheet r _
  · exact h

/-- A move keeps the areas in formulas outside of its source coherent. -/
lemma keepsCoherence_outside : m.outside.KeepsCoherence where
  cells r formula h := by
    have hmoved := h.map (fun _ => m.toSheet) (f := fun e => e.moved m.toSheet m.right m.down)
      fun _ => rfl
    unfold outside
    dsimp only
    split
    · refine Outcome.keeps_ofNew ?_
      unfold followedArea
      dsimp only
      split
      · exact Area.isCoherent_onSheet _ _
      · exact hmoved
    · exact Outcome.keeps_unchanged
  lines _ _ _ _ := Outcome.keeps_unchanged

/-- A move keeps the areas in the formulas that it takes along coherent. -/
lemma keepsCoherence_inside : m.inside.KeepsCoherence where
  cells r formula h := by
    refine Outcome.keeps_ofNew ?_
    split
    · have hshifted := h.map_of_sheet_eq (f := fun e => e.shiftAbsolute m.right m.down) fun _ => rfl
      unfold carriedArea
      dsimp only
      split
      · exact Area.isCoherent_onSheet _ _
      · exact hshifted
    · exact m.isCoherent_pinned (h.map_of_sheet_eq fun _ => rfl)
  lines _ _ _ h := Outcome.keeps_ofNew (m.isCoherent_pinned (h.map_of_sheet_eq fun _ => rfl))

end Relocation

/-- Two rewritings keep areas coherent together, one within a rectangle and one outside of it. -/
lemma Rewriting.KeepsCoherence.within {inside outside : Rewriting} (h : inside.KeepsCoherence)
    (h' : outside.KeepsCoherence) (r : Rect) :
    (Rewriting.within r inside outside).KeepsCoherence where
  cells x formula hx := Outcome.keeps_ite (h.cells x formula hx) (h'.cells x formula hx)
  lines axis x formula hx :=
    Outcome.keeps_ite (h.lines axis x formula hx) (h'.lines axis x formula hx)

namespace Edit

/-- Removing a sheet keeps areas coherent. -/
lemma keepsCoherence_sheetRemoval (sheet : SheetId) : (sheetRemoval sheet).KeepsCoherence where
  cells _ _ _ := Outcome.keeps_ite Outcome.keeps_lost Outcome.keeps_unchanged
  lines _ _ _ _ := Outcome.keeps_ite Outcome.keeps_lost Outcome.keeps_unchanged

/-- Every edit keeps areas coherent. -/
theorem keepsCoherence (e : Edit) : e.rewriting.KeepsCoherence := by
  cases e with
  | insert axis b =>
    exact Rewriting.keepsCoherence_of_sameSheets (b.keeps_cells_insertion axis)
      (b.keeps_lines_insertion axis)
  | remove axis b =>
    exact Rewriting.keepsCoherence_of_sameSheets (b.keeps_cells_removal axis)
      (b.keeps_lines_removal axis)
  | move inside outside =>
    exact inside.keepsCoherence_inside.within outside.keepsCoherence_outside inside.source
  | removeSheet sheet => exact keepsCoherence_sheetRemoval sheet

end Edit

/-! ## Atoms -/

namespace Rewriting

variable {w : Rewriting} {a : Atom}

/-- No argument becomes one that is left out, and none that is left out is written. -/
lemma newAtom_eq_omitted {formula : Cell} : w.newAtom formula a = .omitted ↔ a = .omitted := by
  cases a with
  | cell r => cases ho : w.cell r formula <;> simp [newAtom, atom, ho, Outcome.map]
  | cells r => cases ho : w.cells r formula <;> simp [newAtom, atom, ho, Outcome.map]
  | lines axis r => cases ho : w.lines axis r formula <;> simp [newAtom, atom, ho, Outcome.map]
  | _ => exact Iff.rfl

/-- An atom stays legible. -/
lemma KeepsCoherence.legible_newAtom (h : w.KeepsCoherence) {l : Locale} {sheets : SheetNames}
    (ha : a.Legible l sheets) (formula : Cell) : (w.newAtom formula a).Legible l sheets := by
  cases a with
  | cell r => cases ho : w.cell r formula <;> simp [newAtom, atom, ho, Outcome.map, Atom.Legible]
  | cells r =>
    cases ho : w.cells r formula with
    | unchanged => simpa [newAtom, atom, ho, Outcome.map] using ha
    | shifted s =>
      have hs : (Atom.cells s).Legible l sheets := h.cells r formula ha s ho
      simpa [newAtom, atom, ho, Outcome.map] using hs
    | lost => simp [newAtom, atom, ho, Outcome.map, Atom.Legible]
  | lines axis r =>
    cases ho : w.lines axis r formula with
    | unchanged => simpa [newAtom, atom, ho, Outcome.map] using ha
    | shifted s =>
      have hs : (Atom.lines axis s).Legible l sheets := h.lines axis r formula ha s ho
      simpa [newAtom, atom, ho, Outcome.map] using hs
    | lost => simp [newAtom, atom, ho, Outcome.map, Atom.Legible]
  | _ => exact ha

end Rewriting

namespace Edit

/-- Edits neither make nor fill an omitted argument. -/
lemma finalAtom_eq_omitted (edits : List Edit) (formula : Cell) (a : Atom) :
    finalAtom edits formula a = .omitted ↔ a = .omitted := by
  induction edits generalizing formula a with
  | nil => exact Iff.rfl
  | cons e edits ih => rw [finalAtom, ih, Rewriting.newAtom_eq_omitted]

/-- An atom stays legible through all edits. -/
theorem legible_finalAtom {l : Locale} {sheets : SheetNames} (edits : List Edit) (formula : Cell)
    {a : Atom} (ha : a.Legible l sheets) : (finalAtom edits formula a).Legible l sheets := by
  induction edits generalizing formula a with
  | nil => exact ha
  | cons e edits ih => exact ih _ (e.keepsCoherence.legible_newAtom ha formula)

/-- The marks of a formula stay legible. -/
lemma legible_mapAtom {l : Locale} {sheets : SheetNames} (edits : List Edit) (formula : Cell)
    {m : Mark} (hm : m.Legible l sheets) :
    (m.mapAtom (finalAtom edits formula)).Legible l sheets := by
  cases m with
  | atom a =>
    obtain ⟨hne, ha⟩ := hm
    exact ⟨fun h => hne ((finalAtom_eq_omitted edits formula a).mp h),
      legible_finalAtom edits formula ha⟩
  | _ => exact hm

end Edit

end GridFormula
