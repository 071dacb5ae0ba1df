import GridFormula.Proofs.Lookup.Postings

/-!
# The index in use

An index of columns is used together with the history of its workbook: values come and go, edits are
recorded, columns are inserted and removed, and now and then the index is asked for something. What
it answers is what an eager index would answer. It never matters what it was asked for before, even
though every question brings some bucket up to date. The eager index works with integers; so all
this holds as long as its rows, the cells that values move to, and the lines behind removed bands
fit in 32 bits.
-/

namespace GridFormula

/-- What is done with an index of columns and with the history of its workbook. -/
inductive IndexAction where
  /-- An edit is recorded in the history. -/
  | record (e : Edit)
  | add (value : Value) (cell : Cell)
  | remove (value : Value) (cell : Cell)
  | change (v : ValueChange)
  | changeAll (changes : List ValueChange)
  | removeAll (values : List (Value × Cell))
  | moveAll (values : List (Value × Cell)) (right down : Int) (toSheet : SheetId)
  | insertColumns (b : Band)
  | removeColumns (b : Band)
  | removeSheet (sheet : SheetId)
  /-- The index is asked for the rows of a value. -/
  | rows (value : Value) (sheet : SheetId) (column : Int)
  /-- The index is asked for the place of a value in a range. -/
  | find (value : Value) (range : Option Rect) (values : List Value) (options : SearchOptions)
      (fallback : Search)

namespace IndexAction

/-- The band of the action has passed the check made when it is built. -/
def HasCheckedBand : IndexAction → Prop
  | record e => e.HasCheckedBand
  | insertColumns b => (Edit.insert .column b).HasCheckedBand
  | removeColumns b => (Edit.remove .column b).HasCheckedBand
  | _ => True

/-- The line behind a removed band and the cells that values move to fit in 32 bits. -/
def HasFittingNumbers : IndexAction → Prop
  | record e => e.HasFittingBand
  | removeColumns b => b.Fits
  | moveAll values right down toSheet => ∀ v ∈ values, (v.2.moved toSheet right down).IsNarrow
  | _ => True

instance : DecidablePred HasFittingNumbers
  | record e => inferInstanceAs (Decidable e.HasFittingBand)
  | removeColumns b => inferInstanceAs (Decidable b.Fits)
  | moveAll values right down toSheet =>
    inferInstanceAs (Decidable (∀ v ∈ values, (v.2.moved toSheet right down).IsNarrow))
  | add _ _ | remove _ _ | change _ | changeAll _ | removeAll _ | insertColumns _ | removeSheet _
  | rows _ _ _ | find _ _ _ _ _ => inferInstanceAs (Decidable True)

/-- The index is only asked for something. -/
def isLookup : IndexAction → Bool
  | rows _ _ _ | find _ _ _ _ _ => true
  | _ => false

variable {fold : Text → Text}

/-- The index and the history after an action. -/
def perform (s : ColumnIndex fold × History) : IndexAction → Option (ColumnIndex fold × History)
  | record e => some (s.1, s.2.record e)
  | add value cell => (s.1.add? value cell s.2).map (·, s.2)
  | remove value cell => (s.1.remove? value cell s.2).map (·, s.2)
  | change v => (s.1.change? v.old v.new v.cell s.2).map (·, s.2)
  | changeAll changes => (s.1.changeAll? changes s.2).map (·, s.2)
  | removeAll values => (s.1.removeAll? values s.2).map (·, s.2)
  | moveAll values right down toSheet =>
    (s.1.moveAll? values right down toSheet s.2).map (·, s.2)
  | insertColumns b => some (s.1.insertColumns b, s.2)
  | removeColumns b => some (s.1.removeColumns b, s.2)
  | removeSheet sheet => some (s.1.removeSheet sheet, s.2)
  | rows value sheet column => (s.1.rows? value sheet column s.2).map fun t => (t.2, s.2)
  | find value range values options fallback =>
    (s.1.find? value range values options s.2 fallback).map fun t => (t.2, s.2)

/-- The eager index after an action. -/
def performEagerly (m : EagerIndex fold) : IndexAction → EagerIndex fold
  | record e => m.record e
  | add value cell => m.add value cell
  | remove value cell => m.remove value cell
  | change v => m.change v
  | changeAll changes => m.changeAll changes
  | removeAll values => m.removeAll values
  | moveAll values right down toSheet => m.moveAll values right down toSheet
  | insertColumns b => m.carry (.insert .column b)
  | removeColumns b => m.carry (.remove .column b)
  | removeSheet sheet => m.carry (.removeSheet sheet)
  | rows _ _ _ | find _ _ _ _ _ => m

/-- The index and the history after actions, from the beginning. -/
def run (fold : Text → Text) (actions : List IndexAction) : Option (ColumnIndex fold × History) :=
  actions.foldlM perform (.empty, .empty)

/-- The numbers of all actions fit in 32 bits, and so do the rows of the eager index after each. -/
def FitAlong (m : EagerIndex fold) : List IndexAction → Prop
  | [] => True
  | a :: actions =>
    a.HasFittingNumbers ∧ (a.performEagerly m).IsNarrow ∧ FitAlong (a.performEagerly m) actions

instance decidableFitAlong : (m : EagerIndex fold) → DecidablePred (FitAlong m)
  | _, [] => inferInstanceAs (Decidable True)
  | m, a :: actions =>
    have := decidableFitAlong (a.performEagerly m) actions
    inferInstanceAs (Decidable (a.HasFittingNumbers ∧ (a.performEagerly m).IsNarrow ∧
      FitAlong (a.performEagerly m) actions))

/-- The rows that the index answers for a value after actions. -/
def rowsAfter? (fold : Text → Text) (actions : List IndexAction) (value : Value) (sheet : SheetId)
    (column : Int) : Option (List Int) := do
  let s ← run fold actions
  let t ← s.1.rows? value sheet column s.2
  return t.1

end IndexAction

/-- Actions whose numbers fit in 32 bits have led to the index and to the history. -/
def ColumnIndex.IsReachable {fold : Text → Text} (i : ColumnIndex fold) (h : History) : Prop :=
  ∃ actions : List IndexAction, (∀ a ∈ actions, a.HasCheckedBand) ∧
    IndexAction.FitAlong (.empty : EagerIndex fold) actions ∧
      IndexAction.run fold actions = some (i, h)

namespace ColumnIndex.Represents

variable {fold : Text → Text} {i : ColumnIndex fold} {h : History} {m : EagerIndex fold}

/-- Asking for rows gives those of the postings and does not change what the index stands for. -/
lemma rows? (hi : i.Represents h m) (value : Value) (sheet : SheetId) (column : Int) :
    ∃ rows i', i.rows? value sheet column h = some (rows, i') ∧ rows.SortedLT ∧
      (∀ row, row ∈ rows ↔ ∃ key, value.key? fold = some key ∧
        ⟨⟨sheet, column, row⟩, key⟩ ∈ m.postings) ∧ i'.Represents h m := by
  unfold ColumnIndex.rows? slot?
  cases value.key? fold with
  | none => exact ⟨[], i, rfl, List.Pairwise.nil.sortedLT, by simp, hi⟩
  | some key =>
    obtain ⟨rows, i', htouch, hlists, hi'⟩ := hi.touch? ⟨sheet, column, key⟩
    refine ⟨rows, i', htouch, hlists.sortedLT, fun row => ?_, hi'⟩
    rw [hlists.mem_iff]
    simp [Slot.posting]

/-- Asking for a place does not change what the index stands for. -/
lemma find? (hi : i.Represents h m) (value : Value) (range : Option Rect) (values : List Value)
    (options : SearchOptions) (fallback : Search) :
    ∃ t, i.find? value range values options h fallback = some t ∧ t.2.Represents h m := by
  unfold ColumnIndex.find?
  dsimp only
  split
  · exact ⟨_, rfl, hi⟩
  · next range =>
    split
    · exact ⟨_, rfl, hi⟩
    · obtain ⟨rows, i', hrows, -, -, hi'⟩ := hi.rows? value range.sheet range.first.column
      rw [hrows, Option.bind_eq_bind, Option.bind_some]
      dsimp only
      split
      · exact ⟨_, rfl, hi'⟩
      · exact ⟨_, rfl, hi'⟩

/-- What an operation on the index gives, beside the history. -/
lemma map_left {o : Option (ColumnIndex fold)}
    (ho : ∃ i', o = some i' ∧ i'.Represents h m) :
    ∃ s : ColumnIndex fold × History, o.map (·, h) = some s ∧ s.1.Represents s.2 m := by
  obtain ⟨i', rfl, hi'⟩ := ho
  exact ⟨(i', h), rfl, hi'⟩

/-- One action does to the index what it does to the eager one. -/
lemma perform {s : ColumnIndex fold × History} (hs : s.1.Represents s.2 m) {a : IndexAction}
    (ha : a.HasCheckedBand) (hn : a.HasFittingNumbers) (hm : (a.performEagerly m).IsNarrow) :
    ∃ s', a.perform s = some s' ∧ s'.1.Represents s'.2 (a.performEagerly m) := by
  cases a with
  | record e => exact ⟨_, rfl, hs.record ha hn hm⟩
  | add value cell => exact map_left (hs.add? value cell)
  | remove value cell => exact map_left (hs.remove? value cell)
  | change v => exact map_left (hs.change? v)
  | changeAll changes => exact map_left (hs.changeAll? changes)
  | removeAll values => exact map_left (hs.removeAll? values)
  | moveAll values right down toSheet => exact map_left (hs.moveAll? hn)
  | insertColumns b => exact ⟨_, rfl, hs.insertColumns ha⟩
  | removeColumns b => exact ⟨_, rfl, hs.removeColumns ha hn⟩
  | removeSheet sheet => exact ⟨_, rfl, hs.removeSheet sheet⟩
  | rows value sheet column =>
    obtain ⟨rows, i', hrows, -, -, hi'⟩ := hs.rows? value sheet column
    exact ⟨(i', s.2), Option.map_eq_some_iff.mpr ⟨_, hrows, rfl⟩, hi'⟩
  | find value range values options fallback =>
    obtain ⟨t, hfind, hi'⟩ := hs.find? value range values options fallback
    exact ⟨(t.2, s.2), Option.map_eq_some_iff.mpr ⟨t, hfind, rfl⟩, hi'⟩

end ColumnIndex.Represents

variable {fold : Text → Text}

/-- Postings on the grid stay there. -/
lemma EagerIndex.IsOnGrid.perform {m : EagerIndex fold} (hm : m.IsOnGrid)
    {a : IndexAction} (ha : a.HasCheckedBand) : (a.performEagerly m).IsOnGrid := by
  cases a with
  | record e => exact hm.record e
  | add value cell => exact hm.add value cell
  | remove value cell => exact hm.remove value cell
  | change v => exact hm.change v
  | changeAll changes => exact hm.changeAll changes
  | removeAll values => exact hm.removeAll values
  | moveAll values right down toSheet => exact hm.moveAll values right down toSheet
  | insertColumns b => exact hm.carry ha fun _ _ => Slot.carried?_posting_insert_column b
  | removeColumns b => exact hm.carry ha fun _ _ => Slot.carried?_posting_remove_column b
  | removeSheet sheet =>
    exact hm.carry (e := .removeSheet sheet) trivial
      fun _ _ => Slot.carried?_posting_removeSheet sheet
  | rows value sheet column => exact hm
  | find value range values options fallback => exact hm

namespace IndexAction

variable {actions : List IndexAction}

/-- A question does not change the eager index. -/
lemma performEagerly_of_isLookup {a : IndexAction} (ha : a.isLookup = true) (m : EagerIndex fold) :
    a.performEagerly m = m := by
  cases a <;> first | rfl | cases ha

/-- Without the questions all still fits. -/
lemma FitAlong.filter {m : EagerIndex fold} (h : FitAlong m actions) :
    FitAlong m (actions.filter fun a => !a.isLookup) := by
  induction actions generalizing m with
  | nil => trivial
  | cons a actions ih =>
    obtain ⟨hn, hm, hrest⟩ := h
    by_cases ha : a.isLookup = true
    · rw [List.filter_cons_of_neg (by simp [ha])]
      rw [performEagerly_of_isLookup ha] at hrest
      exact ih hrest
    · rw [List.filter_cons_of_pos (by simp [ha])]
      exact ⟨hn, hm, ih hrest⟩

end IndexAction

end GridFormula
