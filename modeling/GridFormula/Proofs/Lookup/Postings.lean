import GridFormula.Lookup.ColumnIndex
import GridFormula.Proofs.Lookup.Bucket
import Mathlib.Data.Finset.Option

/-!
# The index as a set of postings

What an index of columns stands for is a set of postings: keys in cells. An eager index keeps this
set, and an edit of the rows takes every posting at once where it takes the cell. The index of
columns does the same work later, with rows of 32 bits. It stands for an eager index if each of its
buckets, brought up to date, lists the rows of its postings; this is so whatever has been brought up
to date already.
-/

namespace GridFormula

/-- A key that stands in a cell. -/
structure Posting where
  cell : Cell
  key : LookupKey
deriving DecidableEq, Repr

/-- The posting of a slot in a row. -/
def Slot.posting (slot : Slot) (row : Int) : Posting :=
  ⟨⟨slot.sheet, slot.column, row⟩, slot.key⟩

/-- The slot that a posting belongs to. -/
def Posting.slot (p : Posting) : Slot :=
  ⟨p.cell.sheet, p.cell.column, p.key⟩

/-- A posting is made of its slot and its row. -/
lemma Slot.posting_eq_iff {slot : Slot} {row : Int} {p : Posting} :
    slot.posting row = p ↔ slot = p.slot ∧ row = p.cell.row := by
  obtain ⟨sheet, column, key⟩ := slot
  obtain ⟨⟨sheet', column', row'⟩, key'⟩ := p
  simp only [posting, Posting.slot, Posting.mk.injEq, Cell.mk.injEq, Slot.mk.injEq]
  tauto

/-- A posting is determined by its slot and its row. -/
lemma Posting.posting_slot_eq_iff (p : Posting) {row : Int} :
    p.slot.posting row = p ↔ row = p.cell.row :=
  Slot.posting_eq_iff.trans (and_iff_right rfl)

/-- Where an edit takes a posting; nowhere if it removes the cell. -/
def Posting.carried? (e : Edit) (p : Posting) : Option Posting :=
  if e.Removes p.cell then none else some { p with cell := e.rewriting.place p.cell }

namespace Slot

variable {slot : Slot} {row : Int}

/-- An insertion of rows takes a posting where it takes its row. -/
lemma carried?_posting_insert_row (b : Band) :
    (slot.posting row).carried? (.insert .row b) =
      ((Edit.insert .row b).rowTo? slot.sheet row).map slot.posting :=
  if_neg not_false

/-- A removal of rows takes a posting where it takes its row. -/
lemma carried?_posting_remove_row (b : Band) :
    (slot.posting row).carried? (.remove .row b) =
      ((Edit.remove .row b).rowTo? slot.sheet row).map slot.posting := by
  by_cases hr : (Edit.remove .row b).Removes (slot.posting row).cell
  · have hnone : b.survivorShift? slot.sheet row = none := Band.survivorShift?_eq_none hr.1 hr.2
    rw [Posting.carried?, if_pos hr, Edit.rowTo?, hnone]
    rfl
  · have hsome : b.survivorShift? slot.sheet row = some (b.removalShift slot.sheet row) :=
      Band.survivorShift?_eq hr
    rw [Posting.carried?, if_neg hr, Edit.rowTo?, hsome]
    rfl

/-- Where an edit takes the postings of a slot; nowhere if it removes them. An edit of rows or of
cells says nothing about this. -/
def carriedTo? (slot : Slot) : Edit → Option Slot
  | .insert .column b =>
    some { slot with column := slot.column + b.insertionShift slot.sheet slot.column }
  | .remove .column b =>
    (b.survivorShift? slot.sheet slot.column).map fun n => { slot with column := slot.column + n }
  | .removeSheet sheet => if slot.sheet = sheet then none else some slot
  | _ => some slot

/-- An insertion of columns takes a posting where it takes its slot. -/
lemma carried?_posting_insert_column (b : Band) :
    (slot.posting row).carried? (.insert .column b) =
      (slot.carriedTo? (.insert .column b)).map fun slot => slot.posting row :=
  if_neg not_false

/-- A removal of columns takes a posting where it takes its slot. -/
lemma carried?_posting_remove_column (b : Band) :
    (slot.posting row).carried? (.remove .column b) =
      (slot.carriedTo? (.remove .column b)).map fun slot => slot.posting row := by
  by_cases hr : (Edit.remove .column b).Removes (slot.posting row).cell
  · have hnone : b.survivorShift? slot.sheet slot.column = none :=
      Band.survivorShift?_eq_none hr.1 hr.2
    rw [Posting.carried?, if_pos hr, carriedTo?, hnone]
    rfl
  · have hsome : b.survivorShift? slot.sheet slot.column =
        some (b.removalShift slot.sheet slot.column) := Band.survivorShift?_eq hr
    rw [Posting.carried?, if_neg hr, carriedTo?, hsome]
    rfl

/-- The removal of a sheet takes away the slots of the sheet. -/
lemma carried?_posting_removeSheet (sheet : SheetId) :
    (slot.posting row).carried? (.removeSheet sheet) =
      (slot.carriedTo? (.removeSheet sheet)).map fun slot => slot.posting row := by
  by_cases hs : slot.sheet = sheet
  · rw [carriedTo?, if_pos hs]
    exact if_pos hs
  · rw [carriedTo?, if_neg hs]
    exact if_neg hs

/-- An edit leaves a slot on its sheet. -/
lemma sheet_of_carriedTo?_eq_some {e : Edit} {l : Slot} (hl : slot.carriedTo? e = some l) :
    l.sheet = slot.sheet := by
  unfold carriedTo? at hl
  split at hl
  · cases hl
    rfl
  · obtain ⟨n, -, rfl⟩ := Option.map_eq_some_iff.mp hl
    rfl
  · split at hl
    · cases hl
    · cases hl
      rfl
  · cases hl
    rfl

/-- No two slots become one. -/
lemma eq_of_carriedTo?_eq_some {e : Edit} (he : e.HasCheckedBand) {slot' l : Slot}
    (hl : slot.carriedTo? e = some l) (hl' : slot'.carriedTo? e = some l) : slot = slot' := by
  have hsheet := (sheet_of_carriedTo?_eq_some hl).symm.trans (sheet_of_carriedTo?_eq_some hl')
  obtain ⟨sheet, column, key⟩ := slot
  obtain ⟨sheet', column', key'⟩ := slot'
  cases e with
  | insert axis b =>
    obtain ⟨-, -, hcount⟩ := Band.checked_eq_ok_iff.mp he
    cases axis with
    | row => exact Option.some.inj (hl.trans hl'.symm)
    | column =>
      simp only [carriedTo?, Band.insertionShift, Option.some.injEq] at hl hl'
      grind
  | remove axis b =>
    obtain ⟨-, -, hcount⟩ := Band.checked_eq_ok_iff.mp he
    cases axis with
    | row => exact Option.some.inj (hl.trans hl'.symm)
    | column =>
      simp only [carriedTo?, Band.survivorShift?, Band.last] at hl hl'
      grind
  | move inside outside => exact Option.some.inj (hl.trans hl'.symm)
  | removeSheet removed =>
    simp only [carriedTo?] at hl hl'
    grind

/-- A column of the grid is taken to a column of the grid. -/
lemma column_nonneg_of_carriedTo? {e : Edit} (he : e.HasCheckedBand) {l : Slot}
    (hl : slot.carriedTo? e = some l) (hc : 0 ≤ slot.column) : 0 ≤ l.column := by
  unfold carriedTo? at hl
  split at hl
  · obtain ⟨-, -, hcount⟩ := Band.checked_eq_ok_iff.mp he
    cases hl
    dsimp only [Band.insertionShift]
    split <;> omega
  · obtain ⟨-, hstart, -⟩ := Band.checked_eq_ok_iff.mp he
    obtain ⟨n, hn, rfl⟩ := Option.map_eq_some_iff.mp hl
    simp only [Band.survivorShift?, Band.last] at hn
    grind
  · split at hl
    · cases hl
    · cases hl
      exact hc
  · cases hl
    exact hc

end Slot

/-! ## The eager index -/

/-- An index that does all work at once, and with integers. Texts are folded. -/
structure EagerIndex (fold : Text → Text) where
  postings : Finset Posting

namespace EagerIndex

variable {fold : Text → Text}

/-- The index of no values. -/
def empty : EagerIndex fold := ⟨∅⟩

/-- Every posting goes where an edit takes its cell. -/
def carry (m : EagerIndex fold) (e : Edit) : EagerIndex fold :=
  ⟨(m.postings.image (Posting.carried? e)).eraseNone⟩

/-- An edit of rows is recorded; the other edits say nothing about rows. -/
def record (m : EagerIndex fold) : Edit → EagerIndex fold
  | .insert .row b => m.carry (.insert .row b)
  | .remove .row b => m.carry (.remove .row b)
  | _ => m

/-- Adds the value of a cell. -/
def add (m : EagerIndex fold) (value : Value) (cell : Cell) : EagerIndex fold :=
  match value.key? fold with
  | none => m
  | some key =>
    if cell.column < 0 then m else ⟨insert ⟨cell, key⟩ m.postings⟩

/-- Removes the value of a cell. -/
def remove (m : EagerIndex fold) (value : Value) (cell : Cell) : EagerIndex fold :=
  match value.key? fold with
  | none => m
  | some key => ⟨m.postings.erase ⟨cell, key⟩⟩

/-- Replaces the value of a cell, unless both have the same key. -/
def change (m : EagerIndex fold) (v : ValueChange) : EagerIndex fold :=
  if v.old.key? fold = v.new.key? fold then m else (m.remove v.old v.cell).add v.new v.cell

/-- Replaces the values of cells, one after the other. -/
def changeAll (m : EagerIndex fold) (changes : List ValueChange) : EagerIndex fold :=
  changes.foldl change m

/-- Removes the values of cells. -/
def removeAll (m : EagerIndex fold) (values : List (Value × Cell)) : EagerIndex fold :=
  values.foldl (fun m v => m.remove v.1 v.2) m

/-- Moves the values of cells: all are removed, then all are added where they come to stand. -/
def moveAll (m : EagerIndex fold) (values : List (Value × Cell)) (right down : Int)
    (toSheet : SheetId) : EagerIndex fold :=
  values.foldl (fun m v => m.add v.1 (v.2.moved toSheet right down)) (m.removeAll values)

variable {m : EagerIndex fold} {e : Edit} {slot : Slot} {row : Int}

/-- After an edit there are the postings that it carries there. -/
lemma posting_mem_carry :
    slot.posting row ∈ (m.carry e).postings ↔ ∃ (slot' : Slot) (row' : Int),
      slot'.posting row' ∈ m.postings ∧ (slot'.posting row').carried? e = some (slot.posting row) := by
  rw [carry, Finset.mem_eraseNone, Finset.mem_image]
  constructor
  · rintro ⟨p, hp, hq⟩
    exact ⟨p.slot, p.cell.row, hp, hq⟩
  · rintro ⟨slot', row', hp, hq⟩
    exact ⟨_, hp, hq⟩

/-- What an edit of rows makes of the postings. -/
lemma posting_mem_carry_of_rows
    (he : ∀ slot row, (Slot.posting slot row).carried? e =
      (e.rowTo? slot.sheet row).map slot.posting) :
    slot.posting row ∈ (m.carry e).postings ↔
      ∃ old, slot.posting old ∈ m.postings ∧ e.rowTo? slot.sheet old = some row := by
  rw [posting_mem_carry]
  constructor
  · rintro ⟨slot', old, hp, hq⟩
    rw [he] at hq
    obtain ⟨r, hr, heq⟩ := Option.map_eq_some_iff.mp hq
    obtain ⟨rfl, rfl⟩ := Slot.posting_eq_iff.mp heq
    exact ⟨old, hp, hr⟩
  · rintro ⟨old, hold, hr⟩
    exact ⟨slot, old, hold, by rw [he, hr, Option.map_some]⟩

/-- What an edit of columns or of sheets makes of the postings. -/
lemma posting_mem_carry_of_slots
    (he : ∀ slot row, (Slot.posting slot row).carried? e =
      (slot.carriedTo? e).map fun slot => slot.posting row) :
    slot.posting row ∈ (m.carry e).postings ↔
      ∃ old : Slot, old.posting row ∈ m.postings ∧ old.carriedTo? e = some slot := by
  rw [posting_mem_carry]
  constructor
  · rintro ⟨old, row', hp, hq⟩
    rw [he] at hq
    obtain ⟨l, hl, heq⟩ := Option.map_eq_some_iff.mp hq
    obtain ⟨rfl, rfl⟩ := Slot.posting_eq_iff.mp heq
    exact ⟨old, hp, hl⟩
  · rintro ⟨old, hold, hl⟩
    exact ⟨old, row, hold, by rw [he, hl, Option.map_some]⟩

/-- What an edit makes of the postings when it is recorded. -/
lemma posting_mem_record :
    slot.posting row ∈ (m.record e).postings ↔
      ∃ old, slot.posting old ∈ m.postings ∧ e.rowTo? slot.sheet old = some row := by
  have hfar (hrecord : m.record e = m) (hstay : ∀ old, e.rowTo? slot.sheet old = some old) :
      slot.posting row ∈ (m.record e).postings ↔
        ∃ old, slot.posting old ∈ m.postings ∧ e.rowTo? slot.sheet old = some row := by
    simp [hrecord, hstay]
  cases e with
  | insert axis b =>
    cases axis with
    | row => exact posting_mem_carry_of_rows fun _ _ => Slot.carried?_posting_insert_row b
    | column => exact hfar rfl fun _ => rfl
  | remove axis b =>
    cases axis with
    | row => exact posting_mem_carry_of_rows fun _ _ => Slot.carried?_posting_remove_row b
    | column => exact hfar rfl fun _ => rfl
  | move inside outside => exact hfar rfl fun _ => rfl
  | removeSheet sheet => exact hfar rfl fun _ => rfl

/-! ### The grid -/

/-- All postings stand in columns of the grid. -/
def IsOnGrid (m : EagerIndex fold) : Prop :=
  ∀ p ∈ m.postings, 0 ≤ p.cell.column

namespace IsOnGrid

/-- Recording an edit keeps postings on the grid. -/
lemma record (hm : m.IsOnGrid) (e : Edit) : (m.record e).IsOnGrid := by
  intro p hp
  obtain ⟨old, hold, -⟩ :=
    posting_mem_record.mp (show p.slot.posting p.cell.row ∈ (m.record e).postings from hp)
  exact hm (p.slot.posting old) hold

/-- An edit of columns or of sheets keeps postings on the grid. -/
lemma carry (hm : m.IsOnGrid) (he : e.HasCheckedBand)
    (hcarried : ∀ slot row, (Slot.posting slot row).carried? e =
      (slot.carriedTo? e).map fun slot => slot.posting row) : (m.carry e).IsOnGrid := by
  intro p hp
  obtain ⟨old, hold, hl⟩ := (posting_mem_carry_of_slots hcarried).mp
    (show p.slot.posting p.cell.row ∈ (m.carry e).postings from hp)
  exact Slot.column_nonneg_of_carriedTo? he hl (hm _ hold)

/-- Adding a value keeps postings on the grid. -/
lemma add (hm : m.IsOnGrid) (value : Value) (cell : Cell) : (m.add value cell).IsOnGrid := by
  unfold EagerIndex.add
  split
  · exact hm
  · split
    · exact hm
    · next hcolumn =>
      intro p hp
      rcases Finset.mem_insert.mp hp with rfl | hp
      · exact not_lt.mp hcolumn
      · exact hm p hp

/-- Removing a value keeps postings on the grid. -/
lemma remove (hm : m.IsOnGrid) (value : Value) (cell : Cell) : (m.remove value cell).IsOnGrid := by
  unfold EagerIndex.remove
  split
  · exact hm
  · exact fun p hp => hm p (Finset.mem_of_mem_erase hp)

/-- Replacing a value keeps postings on the grid. -/
lemma change (hm : m.IsOnGrid) (v : ValueChange) : (m.change v).IsOnGrid := by
  unfold EagerIndex.change
  split
  · exact hm
  · exact (hm.remove v.old v.cell).add v.new v.cell

/-- Replacing values keeps postings on the grid. -/
lemma changeAll (hm : m.IsOnGrid) (changes : List ValueChange) : (m.changeAll changes).IsOnGrid :=
  List.foldlRecOn changes _ hm fun _ hm v _ => hm.change v

/-- Removing values keeps postings on the grid. -/
lemma removeAll (hm : m.IsOnGrid) (values : List (Value × Cell)) : (m.removeAll values).IsOnGrid :=
  List.foldlRecOn values _ hm fun _ hm v _ => hm.remove v.1 v.2

/-- Moving values keeps postings on the grid. -/
lemma moveAll (hm : m.IsOnGrid) (values : List (Value × Cell)) (right down : Int)
    (toSheet : SheetId) : (m.moveAll values right down toSheet).IsOnGrid :=
  List.foldlRecOn values _ (hm.removeAll values)
    fun _ hm v _ => hm.add v.1 (v.2.moved toSheet right down)

end IsOnGrid

/-! ### 32 bits -/

/-- The rows of all postings fit in 32 bits. -/
def IsNarrow (m : EagerIndex fold) : Prop :=
  ∀ p ∈ m.postings, GridFormula.IsNarrow p.cell.row

instance (m : EagerIndex fold) : Decidable m.IsNarrow :=
  inferInstanceAs (Decidable (∀ p ∈ m.postings, GridFormula.IsNarrow p.cell.row))

/-- The rows of a slot ascend and are those of its postings. -/
structure Lists (m : EagerIndex fold) (slot : Slot) (rows : List Int) : Prop where
  sortedLT : rows.SortedLT
  mem_iff : ∀ row, row ∈ rows ↔ slot.posting row ∈ m.postings

namespace Lists

variable {rows : List Int}

/-- A slot has only one list of rows. -/
lemma unique (h : m.Lists slot rows) {rows' : List Int} (h' : m.Lists slot rows') : rows = rows' :=
  h.sortedLT.eq_of_mem_iff h'.sortedLT fun row => (h.mem_iff row).trans (h'.mem_iff row).symm

/-- A slot without rows has no postings. -/
lemma nil (h : ∀ row, slot.posting row ∉ m.postings) : m.Lists slot [] :=
  ⟨List.Pairwise.nil.sortedLT, fun row => iff_of_false List.not_mem_nil (h row)⟩

/-- An edit that is recorded takes the rows of a slot where it takes its postings. -/
lemma record (h : m.Lists slot rows) {e : Edit} (he : e.HasCheckedBand) :
    (m.record e).Lists slot (rows.filterMap (e.rowTo? slot.sheet)) := by
  refine ⟨Bucket.sortedLT_filterMap_rowTo? h.sortedLT he slot.sheet, fun row => ?_⟩
  rw [List.mem_filterMap, posting_mem_record]
  simp only [h.mem_iff]

/-- If all postings fit after the edit, it keeps the rows of each slot in 32 bits. -/
lemma keepsNarrow (h : m.Lists slot rows) {e : Edit} (hm : (m.record e).IsNarrow) :
    Bucket.KeepsNarrow e slot.sheet rows :=
  fun row hrow r hr => hm (slot.posting r) (posting_mem_record.mpr ⟨row, (h.mem_iff row).mp hrow, hr⟩)

end Lists

end EagerIndex

/-! ## What the index of columns stands for -/

namespace ColumnIndex

variable {fold : Text → Text} {i : ColumnIndex fold} {h : History} {m : EagerIndex fold}
  {slot : Slot} {b : Bucket}

/-- The rows of a slot as they are now. -/
def rowsNow? (i : ColumnIndex fold) (h : History) (slot : Slot) : Option (List Int) :=
  (i.buckets.get? slot).elim (some []) fun b => (b.caughtUp? slot.sheet h).map Bucket.rows

/-- The index stands for an eager one. -/
structure Represents (i : ColumnIndex fold) (h : History) (m : EagerIndex fold) : Prop where
  /-- No bucket is ahead of the history. -/
  version_le {slot : Slot} {b : Bucket} (hb : i.buckets.get? slot = some b) :
    b.version ≤ h.version
  /-- Every bucket can be brought up to date, and then lists the rows of its postings. -/
  lists (slot : Slot) : ∃ rows, i.rowsNow? h slot = some rows ∧ m.Lists slot rows

/-- A bucket is found where it was stored, unless it is without rows. -/
lemma get?_store (i : ColumnIndex fold) (slot : Slot) (b : Bucket) (l : Slot) :
    (i.store slot b).buckets.get? l =
      if l = slot then (if b.rows = [] then none else some b) else i.buckets.get? l := by
  unfold store
  by_cases hb : b.rows = []
  · simp only [hb, if_true, Table.get?_erase]
  · simp only [hb, if_false, Table.get?_insert]

/-- A bucket that is up to date is seen as it is stored. -/
lemma rowsNow?_store (i : ColumnIndex fold) (hb : b.version = h.version) (l : Slot) :
    (i.store slot b).rowsNow? h l = if l = slot then some b.rows else i.rowsNow? h l := by
  unfold rowsNow?
  rw [get?_store]
  split
  · split
    · next hempty =>
      rw [hempty]
      rfl
    · exact congrArg (Option.map Bucket.rows) (Bucket.caughtUp?_eq_some_self hb)
  · rfl

namespace Represents

/-- A bucket is stored in the place of one with other postings. -/
lemma store (hi : i.Represents h m) (hb : b.version = h.version) {s : Finset Posting}
    (hslot : (⟨s⟩ : EagerIndex fold).Lists slot b.rows)
    (hother : ∀ l row, l ≠ slot → (Slot.posting l row ∈ s ↔ l.posting row ∈ m.postings)) :
    (i.store slot b).Represents h (⟨s⟩ : EagerIndex fold) where
  version_le {l b'} hb' := by
    rw [get?_store] at hb'
    split at hb'
    · split at hb'
      · cases hb'
      · cases hb'
        exact hb.le
    · exact hi.version_le hb'
  lists l := by
    rw [rowsNow?_store i hb]
    split
    · next heq => exact ⟨b.rows, rfl, heq ▸ hslot⟩
    · next hne =>
      obtain ⟨rows, hrows, hlists⟩ := hi.lists l
      exact ⟨rows, hrows, hlists.sortedLT,
        fun row => (hlists.mem_iff row).trans (hother l row hne).symm⟩

/-- Bringing a bucket up to date gives its rows and does not change what the index stands for. -/
lemma touch? (hi : i.Represents h m) (slot : Slot) :
    ∃ rows i', i.touch? slot h = some (rows, i') ∧ m.Lists slot rows ∧ i'.Represents h m := by
  obtain ⟨rows, hrows, hlists⟩ := hi.lists slot
  unfold ColumnIndex.touch?
  unfold rowsNow? at hrows
  cases hb : i.buckets.get? slot with
  | none =>
    rw [hb] at hrows
    cases hrows
    exact ⟨[], i, rfl, hlists, hi⟩
  | some b =>
    rw [hb] at hrows
    obtain ⟨b', hb', rfl⟩ := Option.map_eq_some_iff.mp hrows
    refine ⟨b'.rows, i.store slot b', ?_, hlists, ?_⟩
    · dsimp only
      rw [hb']
      rfl
    · exact hi.store (Bucket.version_of_caughtUp?_eq_some (hi.version_le hb) hb') hlists
        fun _ _ _ => Iff.rfl

/-- A value is added. -/
lemma add? (hi : i.Represents h m) (value : Value) (cell : Cell) :
    ∃ i', i.add? value cell h = some i' ∧ i'.Represents h (m.add value cell) := by
  unfold ColumnIndex.add? slot? EagerIndex.add
  cases value.key? fold with
  | none => exact ⟨i, rfl, hi⟩
  | some key =>
    dsimp only [Option.map_some]
    split
    · exact ⟨i, rfl, hi⟩
    · obtain ⟨rows, i', htouch, hlists, hi'⟩ := hi.touch? (Posting.slot ⟨cell, key⟩)
      obtain ⟨hsorted, hmem⟩ := Bucket.insertRow_spec hlists.sortedLT cell.row
      refine ⟨i'.store (Posting.slot ⟨cell, key⟩) ⟨h.version, Bucket.insertRow cell.row rows⟩,
        Option.bind_eq_some_iff.mpr ⟨_, htouch, rfl⟩, ?_⟩
      refine hi'.store rfl ⟨hsorted, fun row => ?_⟩ fun l row hne => ?_
      · refine (hmem row).trans ?_
        rw [hlists.mem_iff, Finset.mem_insert]
        exact or_congr_left (Posting.posting_slot_eq_iff ⟨cell, key⟩).symm
      · rw [Finset.mem_insert, Slot.posting_eq_iff]
        exact or_iff_right fun heq => hne heq.1

/-- A value is removed. -/
lemma remove? (hi : i.Represents h m) (value : Value) (cell : Cell) :
    ∃ i', i.remove? value cell h = some i' ∧ i'.Represents h (m.remove value cell) := by
  unfold ColumnIndex.remove? slot? EagerIndex.remove
  cases value.key? fold with
  | none => exact ⟨i, rfl, hi⟩
  | some key =>
    dsimp only [Option.map_some]
    obtain ⟨rows, i', htouch, hlists, hi'⟩ := hi.touch? (Posting.slot ⟨cell, key⟩)
    obtain ⟨hsorted, hmem⟩ := Bucket.eraseRow_spec hlists.sortedLT cell.row
    refine ⟨i'.store (Posting.slot ⟨cell, key⟩) ⟨h.version, Bucket.eraseRow cell.row rows⟩,
      Option.bind_eq_some_iff.mpr ⟨_, htouch, rfl⟩, ?_⟩
    refine hi'.store rfl ⟨hsorted, fun row => ?_⟩ fun l row hne => ?_
    · refine (hmem row).trans ?_
      rw [hlists.mem_iff, Finset.mem_erase, and_comm]
      exact and_congr_left' (not_congr (Posting.posting_slot_eq_iff ⟨cell, key⟩).symm)
    · rw [Finset.mem_erase]
      exact and_iff_right fun heq => hne (Slot.posting_eq_iff.mp heq).1

/-- A value takes the place of another one. -/
lemma change? (hi : i.Represents h m) (v : ValueChange) :
    ∃ i', i.change? v.old v.new v.cell h = some i' ∧ i'.Represents h (m.change v) := by
  unfold ColumnIndex.change? EagerIndex.change
  split
  · exact ⟨i, rfl, hi⟩
  · obtain ⟨i₁, hremove, hi₁⟩ := hi.remove? v.old v.cell
    obtain ⟨i₂, hadd, hi₂⟩ := hi₁.add? v.new v.cell
    exact ⟨i₂, Option.bind_eq_some_iff.mpr ⟨i₁, hremove, hadd⟩, hi₂⟩

/-- Where each step answers and does what the eager index does, so do all steps together. -/
lemma foldlM {α : Type} {step : ColumnIndex fold → α → Option (ColumnIndex fold)}
    {eager : EagerIndex fold → α → EagerIndex fold} {xs : List α}
    (hstep : ∀ x ∈ xs, ∀ {i m}, i.Represents h m →
      ∃ i', step i x = some i' ∧ i'.Represents h (eager m x)) (hi : i.Represents h m) :
    ∃ i', xs.foldlM step i = some i' ∧ i'.Represents h (xs.foldl eager m) := by
  induction xs generalizing i m with
  | nil => exact ⟨i, rfl, hi⟩
  | cons x xs ih =>
    obtain ⟨hfirst, hrest⟩ := List.forall_mem_cons.mp hstep
    obtain ⟨i₁, hx, hi₁⟩ := hfirst hi
    obtain ⟨i₂, hxs, hi₂⟩ := ih hrest hi₁
    exact ⟨i₂, Option.bind_eq_some_iff.mpr ⟨i₁, hx, hxs⟩, hi₂⟩

/-- Values take the places of others, one after the other. -/
lemma changeAll? (hi : i.Represents h m) (changes : List ValueChange) :
    ∃ i', i.changeAll? changes h = some i' ∧ i'.Represents h (m.changeAll changes) :=
  hi.foldlM fun v _ _ _ hi => hi.change? v

/-- Values are removed. -/
lemma removeAll? (hi : i.Represents h m) (values : List (Value × Cell)) :
    ∃ i', i.removeAll? values h = some i' ∧ i'.Represents h (m.removeAll values) :=
  hi.foldlM fun v _ _ _ hi => hi.remove? v.1 v.2

/-- Values move to cells that fit. -/
lemma moveAll? (hi : i.Represents h m) {values : List (Value × Cell)} {right down : Int}
    {toSheet : SheetId} (hfits : ∀ v ∈ values, (v.2.moved toSheet right down).IsNarrow) :
    ∃ i', i.moveAll? values right down toSheet h = some i' ∧
      i'.Represents h (m.moveAll values right down toSheet) := by
  obtain ⟨i₁, hremove, hi₁⟩ := hi.removeAll? values
  obtain ⟨i₂, hadd, hi₂⟩ : ∃ i₂,
      values.foldlM (fun i v => i.add? v.1 (v.2.moved toSheet right down).narrow h) i₁ = some i₂ ∧
        i₂.Represents h (m.moveAll values right down toSheet) :=
    hi₁.foldlM fun v hv _ _ hi => by
      rw [Cell.narrow_eq_self (hfits v hv)]
      exact hi.add? v.1 _
  exact ⟨i₂, Option.bind_eq_some_iff.mpr ⟨i₁, hremove, hadd⟩, hi₂⟩

/-! ### Edits -/

/-- The slots of columns are given other columns, or taken out. -/
lemma rekey (hi : i.Represents h m) {e : Edit} (he : e.HasCheckedBand)
    (hcarried : ∀ slot row, (Slot.posting slot row).carried? e =
      (slot.carriedTo? e).map fun slot => slot.posting row) :
    ColumnIndex.Represents
      { i with buckets := i.buckets.rekey fun slot => slot.carriedTo? e } h (m.carry e) := by
  have hfound {slot l : Slot} (hl : slot.carriedTo? e = some l) :
      (i.buckets.rekey fun slot => slot.carriedTo? e).get? l = i.buckets.get? slot :=
    i.buckets.get?_rekey_of_eq_some hl fun _ hl' => Slot.eq_of_carriedTo?_eq_some he hl' hl
  have hnone {l : Slot} (hl : ∀ slot : Slot, slot.carriedTo? e ≠ some l) :
      (i.buckets.rekey fun slot => slot.carriedTo? e).get? l = none :=
    i.buckets.get?_rekey_eq_none hl
  -- A slot has the bucket of the one old slot that becomes it, or there is none and it is empty.
  refine ⟨fun {l b} hb => ?_, fun l => ?_⟩
  all_goals by_cases hl : ∃ slot : Slot, slot.carriedTo? e = some l
  · obtain ⟨slot, hl⟩ := hl
    exact hi.version_le ((hfound hl).symm.trans hb)
  · cases (hnone (not_exists.mp hl)).symm.trans hb
  · obtain ⟨slot, hl⟩ := hl
    obtain ⟨rows, hrows, hlists⟩ := hi.lists slot
    refine ⟨rows, ?_, hlists.sortedLT, fun row => ?_⟩
    · rw [rowsNow?, hfound hl, Slot.sheet_of_carriedTo?_eq_some hl]
      exact hrows
    · rw [hlists.mem_iff, EagerIndex.posting_mem_carry_of_slots hcarried]
      constructor
      · intro hrow
        exact ⟨slot, hrow, hl⟩
      · rintro ⟨slot', hrow, hl'⟩
        rwa [Slot.eq_of_carriedTo?_eq_some he hl hl']
  · refine ⟨[], ?_, .nil fun row hrow => ?_⟩
    · rw [rowsNow?, hnone (not_exists.mp hl)]
      rfl
    · obtain ⟨slot, -, hl'⟩ := (EagerIndex.posting_mem_carry_of_slots hcarried).mp hrow
      exact hl ⟨slot, hl'⟩

/-- Columns are inserted. -/
lemma insertColumns (hi : i.Represents h m) {b : Band}
    (hb : (Edit.insert .column b).HasCheckedBand) :
    (i.insertColumns b).Represents h (m.carry (.insert .column b)) :=
  hi.rekey hb fun _ _ => Slot.carried?_posting_insert_column b

/-- Columns are removed, and the one behind them fits. -/
lemma removeColumns (hi : i.Represents h m) {b : Band}
    (hb : (Edit.remove .column b).HasCheckedBand) (hfits : b.Fits) :
    (i.removeColumns b).Represents h (m.carry (.remove .column b)) := by
  have hwell := (Band.checked_eq_ok_iff.mp hb).2
  have hlast : ¬b.narrowLast < 0 := by
    rw [Band.narrowLast_eq hwell hfits, Band.last]
    obtain ⟨hstart, hcount⟩ := hwell
    omega
  have hshift : b.narrowSurvivorShift? = b.survivorShift? := by
    funext sheet column
    exact Band.narrowSurvivorShift?_eq hwell hfits sheet column
  unfold ColumnIndex.removeColumns
  rw [if_neg hlast, hshift]
  exact hi.rekey hb fun _ _ => Slot.carried?_posting_remove_column b

/-- A sheet is removed. -/
lemma removeSheet (hi : i.Represents h m) (sheet : SheetId) :
    (i.removeSheet sheet).Represents h (m.carry (.removeSheet sheet)) :=
  hi.rekey (e := .removeSheet sheet) trivial fun _ _ => Slot.carried?_posting_removeSheet sheet

/-- An edit is recorded: each bucket replays it when it is touched next. -/
lemma record (hi : i.Represents h m) {e : Edit} (he : e.HasCheckedBand) (hb : e.HasFittingBand)
    (hfits : (m.record e).IsNarrow) : i.Represents (h.record e) (m.record e) := by
  refine ⟨fun hb => ?_, fun slot => ?_⟩
  · rw [History.version_record]
    exact (hi.version_le hb).trans (Nat.le_succ _)
  · obtain ⟨rows, hrows, hlists⟩ := hi.lists slot
    have hafter := Bucket.rowsAfter?_eq_some_filterMap hlists.sortedLT he hb
      (hlists.keepsNarrow hfits)
    refine ⟨_, ?_, hlists.record he⟩
    unfold rowsNow? at hrows ⊢
    cases hbucket : i.buckets.get? slot with
    | none =>
      rw [hbucket] at hrows
      cases hrows
      rfl
    | some b =>
      rw [hbucket] at hrows
      have hrows : (b.caughtUp? slot.sheet h).map Bucket.rows = some rows := hrows
      exact (Bucket.map_rows_caughtUp?_record (hi.version_le hbucket) e).trans
        (hrows ▸ hafter)

end Represents

end ColumnIndex

end GridFormula
