import GridFormula.Proofs.Edit.Moving
import GridFormula.Proofs.Formula.Placed
import GridFormula.Proofs.Grid.SheetChanges

/-!
# Formulas refer to sheets that exist

A formula keeps the numbers of the sheets that it refers to, and it cannot be written when one of
them has no name. Such a number comes from the text of the formula or from a move, which may put a
reference on the sheet that its cells leave or on the one that they go to. When a sheet is removed
from the workbook and this is recorded as an edit, every reference to the sheet is lost. So if moves
are made between sheets that exist, all formulas refer to sheets that exist, and each of them can be
written, whatever else is done to the workbook.
-/

namespace GridFormula

/-! ## The ends of areas -/

/-- Both ends of an area lie on one sheet, which is written if and only if it is named. -/
def Atom.IsCoherent : Atom → Prop
  | .cells r => r.IsCoherent
  | .lines _ r => r.IsCoherent
  | _ => True

/-- An atom stays known where no sheet loses its name. -/
lemma Atom.IsKnown.mono {sheets sheets' : SheetNames} {a : Atom} (h : a.IsKnown sheets)
    (hkept : ∀ id, sheets.Knows (some id) → sheets'.Knows (some id)) : a.IsKnown sheets' := by
  have hknows : ∀ {sheet}, sheets.Knows sheet → sheets'.Knows sheet := by
    rintro sheet hsheet id rfl
    exact hkept id hsheet id rfl
  cases a with
  | cell r => exact hknows h
  | cells r => exact ⟨hknows h.1, hknows h.2⟩
  | lines axis r => exact ⟨hknows h.1, hknows h.2⟩
  | _ => trivial

namespace Site

/-- What an offset comes to is coherent. -/
lemma isCoherent_offsetFrom (site : Site) (origin : CellRef) (rows columns height width : Int) :
    (site.offsetFrom origin rows columns height width).IsCoherent := by
  unfold offsetFrom
  dsimp only
  split
  · trivial
  · split
    · trivial
    · refine ⟨rfl, ?_⟩
      have hsheet : Qualified.sheet (origin.shift (narrowed columns) (narrowed rows)) =
          origin.sheet := rfl
      rw [hsheet]
      cases origin.sheet <;> simp

/-- Whatever is read, the ends of its areas fit. -/
lemma ensures_isCoherent (site : Site) : site.Ensures Atom.IsCoherent where
  constant a ha := by
    cases a with
    | cell _ | cells _ | lines _ _ => exact absurd trivial ha
    | _ => trivial
  cell _ := trivial
  cells _ _ hsheet hq := isCoherent_ofCells hsheet rfl hq
  lines hr hr' hq := isCoherent_ofLines (sheet_of_lineRef? hr) (sheet_of_lineRef? hr') hq
  offset _ h := by
    obtain ⟨-, origin, -, rows, columns, height, width, -, -, -, rfl⟩ := Reader.offset_eq_ok h
    exact isCoherent_offsetFrom _ origin rows columns height width

end Site

/-- A rewriting that keeps areas coherent keeps atoms coherent. -/
lemma Rewriting.KeepsCoherence.isCoherent_newAtom {w : Rewriting} (h : w.KeepsCoherence) {a : Atom}
    (ha : a.IsCoherent) (formula : Cell) : (w.newAtom formula a).IsCoherent := by
  cases a with
  | cell r =>
    exact forall_newAtom (P := Atom.IsCoherent) (c := Atom.cell) rfl trivial fun _ => trivial
  | cells r =>
    exact forall_newAtom (P := Atom.IsCoherent) (c := Atom.cells) rfl trivial fun _ =>
      (h.cells r formula ha).getD ha
  | lines axis r =>
    exact forall_newAtom (P := Atom.IsCoherent) (c := Atom.lines axis) rfl trivial fun _ =>
      (h.lines axis r formula ha).getD ha
  | _ => trivial

/-! ## What an edit makes of the sheets -/

namespace Edit

/-- The sheets that an edit may put references on. -/
def pins : Edit → List SheetId
  | move inside outside => [inside.source.sheet, inside.toSheet, outside.toSheet]
  | insert _ _ | remove _ _ | removeSheet _ => []

/-- Every sheet that had a name has one after the edit, unless it is removed. So have the sheets
that the edit may put references on. -/
structure Spares (e : Edit) (sheets sheets' : SheetNames) : Prop where
  kept : ∀ id, sheets.Knows (some id) → e ≠ .removeSheet id → sheets'.Knows (some id)
  pinned : ∀ id ∈ e.pins, sheets'.Knows (some id)

/-- A reference names the same sheet as before or one that the edit puts references on. -/
def Names (e : Edit) (old new : Option SheetId) : Prop :=
  new = old ∨ ∃ id ∈ e.pins, new = some id

variable {e : Edit} {sheets sheets' : SheetNames}

/-- What has a sheet with a name keeps one, unless it is lost with its sheet. -/
lemma Spares.knows_getD (h : e.Spares sheets sheets') {β : Type} (sheetOf : β → Option SheetId)
    {x : β} {o : Outcome β} (hx : sheets.Knows (sheetOf x)) (hne : o ≠ .lost)
    (hremoved : ∀ id, e = .removeSheet id → sheetOf x = some id → o = .lost)
    (hnames : o.Keeps fun y => e.Names (sheetOf x) (sheetOf y)) :
    sheets'.Knows (sheetOf (o.getD x)) := by
  have hgetD : e.Names (sheetOf x) (sheetOf (o.getD x)) := hnames.getD (Or.inl rfl)
  rcases hgetD with hsame | ⟨id, hid, hpin⟩
  · rw [hsame]
    intro id hid
    have hid : sheetOf x = some id := hid
    rw [hid] at hx
    exact h.kept id hx (fun he => hne (hremoved id he hid)) id rfl
  · rw [hpin]
    exact h.pinned id hid

/-- The same for both ends of an area. -/
lemma Spares.knows_ends (h : e.Spares sheets sheets') {α : Type} [Qualified α] {r : Area α}
    {o : Outcome (Area α)} (hr : sheets.Knows r.sheet) (hne : o ≠ .lost)
    (hremoved : ∀ id, e = .removeSheet id → r.sheet = some id → o = .lost)
    (hnames : o.Keeps fun s => e.Names r.sheet s.sheet) (hcoherent : (o.getD r).IsCoherent) :
    sheets'.Knows (Qualified.sheet (o.getD r).first) ∧
      sheets'.Knows (Qualified.sheet (o.getD r).last) := by
  have hfirst := h.knows_getD Area.sheet hr hne hremoved hnames
  rw [hcoherent.sheets]
  exact ⟨hfirst, hfirst⟩

/-! ## The sheets that an edit names -/

section

variable (inside outside : Relocation)

/-- A reference that moves with its cell names the sheet that it did or one that the move puts it
on. -/
lemma names_carried (r : CellRef) :
    (move inside outside).Names r.sheet (inside.carried r).sheet := by
  cases hr : r.sheet with
  | none => exact Or.inl (by rw [Relocation.carried, hr]; rfl)
  | some id =>
    exact Or.inr ⟨inside.toSheet, by simp [pins], by rw [Relocation.carried, hr]; rfl⟩

/-- A reference that is left behind names the sheet that it did or one that the move puts it on. -/
lemma names_left (r : CellRef) : (move inside outside).Names r.sheet (inside.left r).sheet := by
  unfold Relocation.left
  dsimp only
  split
  · exact Or.inr ⟨inside.source.sheet, by simp [pins], rfl⟩
  · exact Or.inl rfl

/-- A reference that follows its cell names the sheet that it did or one that the move puts it on.
-/
lemma names_followed (r : CellRef) (formula : Cell) :
    (move inside outside).Names r.sheet (outside.followed r formula).sheet := by
  have hpin : outside.toSheet ∈ (move inside outside).pins := by simp [pins]
  unfold Relocation.followed
  dsimp only
  split
  · exact Or.inr ⟨outside.toSheet, hpin, rfl⟩
  · cases hr : r.sheet with
    | none => exact Or.inl (by rw [CellRef.moved, hr]; rfl)
    | some id => exact Or.inr ⟨outside.toSheet, hpin, by rw [CellRef.moved, hr]; rfl⟩

/-- Rows or columns in a formula that moves name the sheet that they did or one that the move puts
them on. -/
lemma names_leftLines (axis : Axis) (r : Area LineRef) :
    (move inside outside).Names r.sheet (inside.leftLines axis r).sheet := by
  unfold Relocation.leftLines Relocation.pinned
  split
  · exact Or.inr ⟨inside.source.sheet, by simp [pins], rfl⟩
  · exact Or.inl rfl

end

/-- A new reference to a cell names the sheet that the old one did or one that the edit puts it on.
-/
lemma names_cell (e : Edit) (r : CellRef) (formula : Cell) :
    (e.rewriting.cell r formula).Keeps fun s => e.Names r.sheet s.sheet := by
  cases e with
  | insert axis b =>
    exact Outcome.keeps_of_getD (a := r)
      (Or.inl (Band.sheet_getD_follow (CellRef.isLawful_grip axis).keepsSheet r _ _))
  | remove axis b =>
    exact Outcome.keeps_of_getD (a := r) (Or.inl
      (Band.sheet_getD_removeReference (CellRef.isLawful_grip axis).keepsSheet b axis r formula))
  | move inside outside =>
    simp only [rewriting, Rewriting.within, Relocation.inside, Relocation.outside]
    split
    · refine Outcome.keeps_ofNew ?_
      split
      · exact names_carried inside outside r
      · exact names_left inside outside r
    · split
      · exact Outcome.keeps_ofNew (names_followed inside outside r formula)
      · exact Outcome.keeps_unchanged
  | removeSheet sheet => exact Outcome.keeps_ite Outcome.keeps_lost Outcome.keeps_unchanged

/-- A new area of cells names the sheet that the old one did or one that the edit puts it on. -/
lemma names_cells (e : Edit) {r : Area CellRef} (hr : r.IsCoherent) (formula : Cell) :
    (e.rewriting.cells r formula).Keeps fun s => e.Names r.sheet s.sheet := by
  cases e with
  | insert axis b => exact (b.keeps_cells_insertion axis r formula).mono fun _ hs => Or.inl hs.first
  | remove axis b => exact (b.keeps_cells_removal axis r formula).mono fun _ hs => Or.inl hs.first
  | move inside outside =>
    simp only [rewriting, Rewriting.within, Relocation.inside, Relocation.outside]
    have hsheet : ∀ s : Area CellRef, s.sheet = s.first.sheet := fun _ => rfl
    split
    · refine Outcome.keeps_ofNew ?_
      split
      · rw [hsheet (inside.carriedArea r), (inside.carriedArea_ends hr.sheets).1]
        exact names_carried inside outside r.first
      · rw [hsheet (inside.leftArea r), (inside.leftArea_ends hr.sheets).1]
        exact names_left inside outside r.first
    · split
      · refine Outcome.keeps_ofNew ?_
        rw [hsheet (outside.followedArea r formula),
          (outside.followedArea_ends hr.sheets formula).1]
        exact names_followed inside outside r.first formula
      · exact Outcome.keeps_unchanged
  | removeSheet sheet => exact Outcome.keeps_ite Outcome.keeps_lost Outcome.keeps_unchanged

/-- New rows or columns name the sheet that the old ones did or one that the edit puts them on. -/
lemma names_lines (e : Edit) (axis : Axis) (r : Area LineRef) (formula : Cell) :
    (e.rewriting.lines axis r formula).Keeps fun s => e.Names r.sheet s.sheet := by
  cases e with
  | insert other b =>
    exact (b.keeps_lines_insertion other axis r formula).mono fun _ hs => Or.inl hs.first
  | remove other b =>
    exact (b.keeps_lines_removal other axis r formula).mono fun _ hs => Or.inl hs.first
  | move inside outside =>
    simp only [rewriting, Rewriting.within, Relocation.inside, Relocation.outside]
    split
    · exact Outcome.keeps_ofNew (names_leftLines inside outside axis r)
    · exact Outcome.keeps_unchanged
  | removeSheet sheet => exact Outcome.keeps_ite Outcome.keeps_lost Outcome.keeps_unchanged

/-! ## Atoms after an edit -/

/-- Of an atom that refers to sheets with names, an edit makes one that does so as well. -/
theorem isKnown_newAtom (h : e.Spares sheets sheets') {a : Atom} (ha : a.IsCoherent)
    (hknown : a.IsKnown sheets) (formula : Cell) :
    (e.rewriting.newAtom formula a).IsKnown sheets' := by
  cases a with
  | cell r =>
    refine Rewriting.forall_newAtom (P := (·.IsKnown sheets')) (c := Atom.cell) rfl trivial
      fun ho => h.knows_getD CellRef.sheet hknown ho ?_ (e.names_cell r formula)
    rintro id rfl hid
    exact if_pos (by rw [hid]; rfl)
  | cells r =>
    refine Rewriting.forall_newAtom (P := (·.IsKnown sheets')) (c := Atom.cells) rfl trivial
      fun ho => h.knows_ends (r := r) hknown.1 ho ?_ (e.names_cells ha formula)
        ((e.keepsCoherence.cells r formula ha).getD ha)
    rintro id rfl hid
    exact if_pos (by rw [Area.resolvedSheet, hid]; rfl)
  | lines axis r =>
    refine Rewriting.forall_newAtom (P := (·.IsKnown sheets')) (c := Atom.lines axis) rfl trivial
      fun ho => h.knows_ends (r := r) hknown.1 ho ?_ (e.names_lines axis r formula)
        ((e.keepsCoherence.lines axis r formula ha).getD ha)
    rintro id rfl hid
    exact if_pos (by rw [Area.resolvedSheet, hid]; rfl)
  | _ => trivial

end Edit

/-! ## Formulas -/

/-- All that the formula refers to lies on sheets with names. -/
def Tree.IsSettled (sheets : SheetNames) (t : Tree) : Prop :=
  ∀ a ∈ t.atoms, a.IsCoherent ∧ a.IsKnown sheets

namespace Tree.IsSettled

variable {sheets sheets' : SheetNames} {t : Tree}

/-- A formula stays settled where no sheet loses its name. -/
lemma mono (h : t.IsSettled sheets)
    (hkept : ∀ id, sheets.Knows (some id) → sheets'.Knows (some id)) : t.IsSettled sheets' :=
  fun a ha => ⟨(h a ha).1, (h a ha).2.mono hkept⟩

/-- An edit that spares the sheets of a formula leaves it on sheets with names. -/
lemma apply (h : t.IsSettled sheets) {e : Edit} (he : e.Spares sheets sheets') (formula : Cell) :
    (e.apply (t, formula)).1.IsSettled sheets' := by
  have hatoms : (e.apply (t, formula)).1.atoms = t.atoms.map (e.rewriting.newAtom formula) :=
    Tree.atoms_mapAtoms _ t
  intro a ha
  rw [hatoms] at ha
  obtain ⟨a₀, ha₀, rfl⟩ := List.mem_map.mp ha
  obtain ⟨hcoherent, hknown⟩ := h a₀ ha₀
  exact ⟨e.keepsCoherence.isCoherent_newAtom hcoherent formula,
    e.isKnown_newAtom he hcoherent hknown formula⟩

end Tree.IsSettled

/-- A formula that has been read refers to sheets with names. -/
lemma Site.isSettled_read {site : Site} (hnames : site.sheets.IsComplete) (text : Text) :
    (site.read text).tree.IsSettled site.sheets :=
  fun a ha => ⟨forall_atoms_read site.ensures_isCoherent text a ha,
    forall_atoms_read (ensures_isKnown hnames) text a ha⟩

/-- An edit that is recorded is made last. -/
lemma History.bringUpToDate_record {h : History} {version : Nat} (hv : version ≤ h.version)
    (e : Edit) (formula : Tree × Cell) :
    (h.record e).bringUpToDate version formula = e.apply (h.bringUpToDate version formula) := by
  rw [bringUpToDate, since_record hv, Edit.applyAll, List.foldl_append]
  rfl

/-! ## Workbooks -/

/-- A workbook with its sheets and the edits that were made in it. -/
structure Workbook (fold : Text → Text) where
  sheets : Sheets fold
  history : History

/-- What can be done to a workbook. -/
inductive Workbook.Change where
  | addSheet (name : Text)
  | renameSheet (id : SheetId) (name : Text)
  /-- Removes a sheet and, as an edit, all references to it. -/
  | removeSheet (id : SheetId)
  | edit (e : Edit)

namespace Workbook

variable {fold : Text → Text} {b : Workbook fold}

/-- The workbook after a change. -/
def after (b : Workbook fold) : Change → Workbook fold
  | .addSheet name => { b with sheets := b.sheets.after (.add name) }
  | .renameSheet id name => { b with sheets := b.sheets.after (.rename id name) }
  | .removeSheet id => ⟨b.sheets.after (.remove id), b.history.record (.removeSheet id)⟩
  | .edit e => { b with history := b.history.record e }

/-- The workbook after changes, made one after the other. -/
def run (b : Workbook fold) (changes : List Change) : Workbook fold :=
  changes.foldl after b

/-- A move goes from a sheet that exists to one that exists, and what refers to a sheet is not
removed without the sheet. -/
def Allows (b : Workbook fold) : Change → Prop
  | .edit e => (∀ id, e ≠ .removeSheet id) ∧ ∀ id ∈ e.pins, b.sheets.IsLive id
  | .addSheet _ | .renameSheet _ _ | .removeSheet _ => True

/-- Each change is allowed when it is made. -/
def MayRun : Workbook fold → List Change → Prop
  | _, [] => True
  | b, c :: changes => b.Allows c ∧ (b.after c).MayRun changes

/-- The version of the history does not decrease. -/
lemma version_le_after (b : Workbook fold) (c : Change) :
    b.history.version ≤ (b.after c).history.version := by
  cases c <;> simp [after]

/-- A sheet has a name in the directory of a workbook if it is there. -/
lemma knows_directory_iff {s : Sheets fold} {id : SheetId} :
    s.directory.Knows (some id) ↔ s.IsLive id := by
  simp [SheetNames.Knows, Sheets.directory, Sheets.IsLive]

/-- A formula that is up to date stays settled when the workbook is changed. -/
lemma isSettled_after {version : Nat} (hv : version ≤ b.history.version) {formula : Tree × Cell}
    (h : (b.history.bringUpToDate version formula).1.IsSettled b.sheets.directory) {c : Change}
    (hc : b.Allows c) :
    ((b.after c).history.bringUpToDate version formula).1.IsSettled
      (b.after c).sheets.directory := by
  -- A sheet goes away by its own removal only.
  have hkept : ∀ {change : SheetChange} {id}, change ≠ .remove id →
      b.sheets.directory.Knows (some id) → (b.sheets.after change).directory.Knows (some id) := by
    intro change id hne hid
    exact knows_directory_iff.mpr ((knows_directory_iff.mp hid).after hne)
  cases c with
  | addSheet name => exact h.mono fun id => hkept nofun
  | renameSheet id name => exact h.mono fun id => hkept nofun
  | removeSheet id =>
    have hspares : (Edit.removeSheet id).Spares b.sheets.directory
        (b.sheets.after (.remove id)).directory := by
      refine ⟨fun id' hid' hne => hkept ?_ hid', nofun⟩
      rintro ⟨⟩
      exact hne rfl
    rw [after, History.bringUpToDate_record hv]
    exact h.apply hspares _
  | edit e =>
    have hspares : e.Spares b.sheets.directory b.sheets.directory :=
      ⟨fun _ hid _ => hid, fun id hid => knows_directory_iff.mpr (hc.2 id hid)⟩
    rw [after, History.bringUpToDate_record hv]
    exact h.apply hspares _

/-- It stays settled through all changes. -/
lemma isSettled_run {version : Nat} (hv : version ≤ b.history.version) {formula : Tree × Cell}
    (h : (b.history.bringUpToDate version formula).1.IsSettled b.sheets.directory)
    {changes : List Change} (hrun : b.MayRun changes) :
    ((b.run changes).history.bringUpToDate version formula).1.IsSettled
      (b.run changes).sheets.directory := by
  induction changes generalizing b with
  | nil => exact h
  | cons c changes ih =>
    exact ih (hv.trans (b.version_le_after c)) (isSettled_after hv h hrun.1) hrun.2

/-- A formula is read in a workbook, and sheets are added, renamed and removed and edits are made in
any order. When it is brought up to date, it refers only to sheets that exist, and it can be written
in the cell that it stands in by then, in any locale. -/
theorem exists_write_bringUpToDate (hb : b.sheets.IsReachable) (l : Locale) (base : Cell)
    (text : Text) {changes : List Change} (hrun : b.MayRun changes) :
    let b' := b.run changes
    let formula := b'.history.bringUpToDate b.history.version
      ((Site.read ⟨l, b.sheets.directory, base⟩ text).tree, base)
    (∀ a ∈ formula.1.atoms, a.IsKnown b'.sheets.directory) ∧
      ∀ w : Wording, w.sheets = b'.sheets.directory →
        ∃ s, w.write formula.1 formula.2 = .ok s := by
  intro b' formula
  have hread : (b.history.bringUpToDate b.history.version
      ((Site.read ⟨l, b.sheets.directory, base⟩ text).tree, base)).1.IsSettled
        b.sheets.directory := by
    have hsince : b.history.since b.history.version = [] := List.drop_length
    rw [History.bringUpToDate, hsince]
    exact Site.isSettled_read hb.isComplete_directory text
  have hsettled : formula.1.IsSettled b'.sheets.directory := isSettled_run le_rfl hread hrun
  have hknown : ∀ a ∈ formula.1.atoms, a.IsKnown b'.sheets.directory :=
    fun a ha => (hsettled a ha).2
  refine ⟨hknown, fun w hw => ?_⟩
  rw [← hw] at hknown
  exact Wording.exists_write_eq_ok hknown formula.2

/-- Of the cells that `C1` and `D1` mean, one is moved to `B` and one to `C`. Then `C` is given
another name and `B` is removed. -/
theorem exists_write_bringUpToDate_moved :
    let b : Workbook (List.map Char.toUpper) :=
      ⟨.ofNames ["A".toList, "B".toList, "C".toList], .empty⟩
    let base : Cell := ⟨0, 1, 0⟩
    let text := "=B!A1+C1+D1".toList
    let changes : List Change := [.edit (.relocate ⟨⟨⟨0, 2, 0⟩, ⟨0, 2, 0⟩⟩, 0, 0, 1⟩),
      .edit (.relocate ⟨⟨⟨0, 3, 0⟩, ⟨0, 3, 0⟩⟩, 0, 1, 2⟩), .renameSheet 2 "Data".toList,
      .removeSheet 1]
    let b' := b.run changes
    let formula := b'.history.bringUpToDate 0
      ((Site.read ⟨.unitedStates, b.sheets.directory, base⟩ text).tree, base)
    b.sheets.IsReachable ∧ b.MayRun changes ∧
      (∀ a ∈ formula.1.atoms, a.IsKnown b'.sheets.directory) ∧
      Wording.write ⟨.unitedStates, b'.sheets.directory, fun _ _ => none⟩ formula.1 formula.2 =
        .ok "=#REF!+#REF!+Data!D2".toList := by
  intro b base text changes b' formula
  have hb : b.sheets.IsReachable := .add _ (.add _ (.add _ .empty))
  have hrun : b.MayRun changes :=
    ⟨⟨nofun, by decide⟩, ⟨nofun, by decide⟩, trivial, trivial, trivial⟩
  obtain ⟨hknown, -⟩ := exists_write_bringUpToDate hb .unitedStates base text hrun
  exact ⟨hb, hrun, hknown, by decide +kernel⟩

end Workbook

end GridFormula
