import GridFormula.Lookup.Bucket
import GridFormula.Proofs.Edit.Narrowing
import GridFormula.Proofs.Lookup.Bound

/-!
# What a bucket holds

A bucket is read as the set of its rows. As long as its rows ascend, what is put in and taken out by
halving is what should be, and an edit of the sheet takes each row where it takes the cells of that
row: the order of the rows is kept, because no edit of a proper band takes one row past another.
This needs the rows to fit in 32 bits afterwards, and with a removed band the line behind it.
-/

namespace GridFormula

/-- The band of an insertion or a removal has passed the check made when it is built. -/
def Edit.HasCheckedBand : Edit → Prop
  | insert _ b | remove _ b => Band.checked b.sheet b.start b.count = .ok b
  | move _ _ | removeSheet _ => True

/-- Where an edit takes a row of a sheet; nowhere if it removes the row. An edit of columns or of
cells takes no row anywhere else. -/
def Edit.rowTo? (sheet : SheetId) (row : Int) : Edit → Option Int
  | insert .row b => some (row + b.insertionShift sheet row)
  | remove .row b => (b.survivorShift? sheet row).map fun n => row + n
  | _ => some row

/-- No row is taken past another. -/
lemma Edit.rowTo?_lt {e : Edit} (he : e.HasCheckedBand) {sheet : SheetId} {row row' r r' : Int}
    (hlt : row < row') (hr : e.rowTo? sheet row = some r) (hr' : e.rowTo? sheet row' = some r') :
    r < r' := by
  cases e with
  | insert axis b =>
    obtain ⟨-, -, hcount⟩ := Band.checked_eq_ok_iff.mp he
    cases axis with
    | row =>
      cases hr
      cases hr'
      unfold Band.insertionShift
      grind
    | column =>
      cases hr
      cases hr'
      exact hlt
  | remove axis b =>
    obtain ⟨-, -, hcount⟩ := Band.checked_eq_ok_iff.mp he
    cases axis with
    | row =>
      obtain ⟨n, hn, rfl⟩ := Option.map_eq_some_iff.mp hr
      obtain ⟨n', hn', rfl⟩ := Option.map_eq_some_iff.mp hr'
      unfold Band.survivorShift? Band.last at hn hn'
      grind
    | column =>
      cases hr
      cases hr'
      exact hlt
  | move inside outside =>
    cases hr
    cases hr'
    exact hlt
  | removeSheet sheet =>
    cases hr
    cases hr'
    exact hlt

namespace Bucket

variable {rows : List Int} {row : Int}

/-! ## Single rows -/

/-- A row stands at its place. -/
lemma getElem?_of_placeOf? {n : Nat} (h : placeOf? row rows = some n) : rows[n]? = some row := by
  simpa using (Option.filter_eq_some_iff.mp h).2

/-- A row without a place is not there, if the rows ascend. -/
lemma not_mem_of_placeOf? (h : rows.SortedLT) (hnone : placeOf? row rows = none) : row ∉ rows := by
  intro hmem
  have hgreatest : IsGreatest {r | r ∈ rows ∧ r ≤ row} row := ⟨⟨hmem, le_rfl⟩, fun r hr => hr.2⟩
  obtain ⟨n, hn, hrow⟩ :=
    Option.bind_eq_some_iff.mp ((getElem?_lowerBound?_eq_some_iff h row).mpr hgreatest)
  rw [placeOf?, hn, Option.filter_some, if_pos (by simpa using hrow)] at hnone
  cases hnone

/-- Putting in a member behind those in front of a place. -/
lemma insertIdx_eq_append {α : Type} (xs : List α) (a : α) {n : Nat} (hn : n ≤ xs.length) :
    xs.insertIdx n a = xs.take n ++ a :: xs.drop n := by
  induction n generalizing xs with
  | zero => rfl
  | succ n ih =>
    cases xs with
    | nil => simp at hn
    | cons x xs => simp [ih xs (by simpa using hn)]

/-- A row is put in where it belongs. -/
lemma insertRow_spec (h : rows.SortedLT) (row : Int) :
    (insertRow row rows).SortedLT ∧ ∀ r, r ∈ insertRow row rows ↔ r = row ∨ r ∈ rows := by
  unfold insertRow
  split
  · next n hn =>
    have hmem : row ∈ rows := List.mem_of_getElem? (getElem?_of_placeOf? hn)
    refine ⟨h, fun r => ⟨Or.inr, ?_⟩⟩
    rintro (rfl | hr)
    · exact hmem
    · exact hr
  · next hnone =>
    have hnot := not_mem_of_placeOf? h hnone
    obtain ⟨hle, htake, hdrop⟩ := partitionLength_spec (comesFirst_le h row)
    refine ⟨?_, fun r => List.mem_insertIdx hle⟩
    rw [insertIdx_eq_append _ _ hle]
    have hsplit := h.pairwise
    rw [← List.take_append_drop (partitionLength (fun r => decide (r ≤ row)) rows) rows,
      List.pairwise_append] at hsplit
    obtain ⟨hfront, hback, -⟩ := hsplit
    -- The place is behind all rows up to the new one, and the new one is none of them.
    have hbelow : ∀ r ∈ rows.take (partitionLength (fun r => decide (r ≤ row)) rows), r < row := by
      intro r hr
      have hne : r ≠ row := by
        rintro rfl
        exact hnot (List.mem_of_mem_take hr)
      exact lt_of_le_of_ne (by simpa using htake r hr) hne
    have habove : ∀ r ∈ rows.drop (partitionLength (fun r => decide (r ≤ row)) rows), row < r :=
      fun r hr => by simpa using hdrop r hr
    refine (List.pairwise_append.mpr ⟨hfront, List.pairwise_cons.mpr ⟨habove, hback⟩, ?_⟩).sortedLT
    intro r hr r' hr'
    rcases List.mem_cons.mp hr' with rfl | hr'
    · exact hbelow r hr
    · exact (hbelow r hr).trans (habove r' hr')

/-- A row is taken out, and no other. -/
lemma eraseRow_spec (h : rows.SortedLT) (row : Int) :
    (eraseRow row rows).SortedLT ∧ ∀ r, r ∈ eraseRow row rows ↔ r ∈ rows ∧ r ≠ row := by
  unfold eraseRow
  split
  · next n hn =>
    obtain ⟨hlen, hrow⟩ := List.getElem?_eq_some_iff.mp (getElem?_of_placeOf? hn)
    have herase : rows.eraseIdx n = rows.erase row := by
      rw [← hrow, h.nodup.erase_getElem]
    rw [herase]
    refine ⟨(h.pairwise.sublist List.erase_sublist).sortedLT, fun r => ?_⟩
    rw [h.nodup.mem_erase_iff, and_comm]
  · next hnone =>
    have hnot := not_mem_of_placeOf? h hnone
    refine ⟨h, fun r => ⟨fun hr => ⟨hr, ?_⟩, And.left⟩⟩
    rintro rfl
    exact hnot hr

/-! ## Edits of the sheet -/

/-- A line cuts rows into those in front of it and those from it on. -/
lemma filterMap_eq_append (h : rows.SortedLT) (line : Int) (f : Int → Option Int) :
    rows.filterMap f = (rows.filter fun row => row < line).filterMap f ++
      (rows.filter fun row => line ≤ row).filterMap f := by
  conv_lhs => rw [← List.take_append_drop (upperBound rows line) rows, List.filterMap_append,
    take_upperBound h, drop_upperBound h]

/-- The rows that an edit takes somewhere fit in 32 bits there. -/
def KeepsNarrow (e : Edit) (sheet : SheetId) (rows : List Int) : Prop :=
  ∀ row ∈ rows, ∀ r ∈ e.rowTo? sheet row, IsNarrow r

/-- What an insertion leaves. -/
lemma rowsAfterInsertion_eq (h : rows.SortedLT) {b : Band}
    (hfits : KeepsNarrow (.insert .row b) b.sheet rows) :
    rowsAfterInsertion b rows = rows.filterMap ((Edit.insert .row b).rowTo? b.sheet) := by
  unfold rowsAfterInsertion
  dsimp only
  rw [take_upperBound h, drop_upperBound h, filterMap_eq_append h b.start]
  congr 1
  · refine List.filterMap_some.symm.trans (List.filterMap_congr fun row hrow => ?_)
    have hlt : row < b.start := by simpa using (List.mem_filter.mp hrow).2
    simp [Edit.rowTo?, Band.insertionShift, not_le.mpr hlt]
  · rw [← List.filterMap_eq_map]
    refine List.filterMap_congr fun row hrow => ?_
    obtain ⟨hmem, hle⟩ := List.mem_filter.mp hrow
    have hto : (Edit.insert .row b).rowTo? b.sheet row = some (row + b.count) := by
      simp [Edit.rowTo?, Band.insertionShift, of_decide_eq_true hle]
    rw [hto]
    exact congrArg some (narrowed_eq_self (hfits row hmem _ hto))

/-- What a removal leaves. -/
lemma rowsAfterRemoval?_eq (h : rows.SortedLT) {b : Band} (hb : b.WellFormed) (hband : b.Fits)
    (hfits : KeepsNarrow (.remove .row b) b.sheet rows) :
    rowsAfterRemoval? b rows = some (rows.filterMap ((Edit.remove .row b).rowTo? b.sheet)) := by
  have hcount : 0 < b.count := hb.2
  have hbehind : narrowed (b.narrowLast + 1) = b.last + 1 := by
    rw [Band.narrowLast, narrowed_narrowed_add]
    exact narrowed_eq_self hband
  have hle : b.start ≤ b.last + 1 := by
    unfold Band.last
    omega
  unfold rowsAfterRemoval?
  dsimp only
  rw [hbehind, if_pos (upperBound_le_upperBound h hle), take_upperBound h, drop_upperBound h,
    filterMap_eq_append h (b.last + 1)]
  -- Up to the end of the band rows stay or are removed, and behind it all of them move.
  congr 2
  · rw [← List.filterMap_eq_filter, List.filterMap_filter]
    refine List.filterMap_congr fun row _ => ?_
    simp only [Edit.rowTo?, Band.survivorShift?, Band.last, Option.guard]
    grind
  · rw [← List.filterMap_eq_map]
    refine List.filterMap_congr fun row hrow => ?_
    obtain ⟨hmem, hle⟩ := List.mem_filter.mp hrow
    have hto : (Edit.remove .row b).rowTo? b.sheet row = some (row - b.count) := by
      have hle := of_decide_eq_true hle
      simp only [Edit.rowTo?, Band.survivorShift?, Band.last] at hle ⊢
      grind
    rw [hto]
    exact congrArg some (narrowed_eq_self (hfits row hmem _ hto))

/-- An edit of a proper band takes every row where it should go. -/
theorem rowsAfter?_eq_some_filterMap (h : rows.SortedLT) {e : Edit} (he : e.HasCheckedBand)
    (hband : e.HasFittingBand) {sheet : SheetId} (hfits : KeepsNarrow e sheet rows) :
    rowsAfter? sheet rows e = some (rows.filterMap (e.rowTo? sheet)) := by
  -- Edits of columns and of other sheets leave every row where it is.
  have hfar {e : Edit} (hstay : ∀ row, e.rowTo? sheet row = some row) :
      some rows = some (rows.filterMap (e.rowTo? sheet)) := by
    rw [funext hstay, List.filterMap_some]
  cases e with
  | insert axis b =>
    cases axis with
    | row =>
      by_cases hs : b.sheet = sheet
      · subst hs
        rw [rowsAfter?, if_pos rfl, rowsAfterInsertion_eq h hfits]
      · rw [rowsAfter?, if_neg hs]
        exact hfar fun row => by simp [Edit.rowTo?, Band.insertionShift, Ne.symm hs]
    | column => exact hfar fun _ => rfl
  | remove axis b =>
    cases axis with
    | row =>
      by_cases hs : b.sheet = sheet
      · subst hs
        rw [rowsAfter?, if_pos rfl,
          rowsAfterRemoval?_eq h (Band.checked_eq_ok_iff.mp he).2 hband hfits]
      · rw [rowsAfter?, if_neg hs]
        exact hfar fun row => by simp [Edit.rowTo?, Band.survivorShift?, Ne.symm hs]
    | column => exact hfar fun _ => rfl
  | move inside outside => exact hfar fun _ => rfl
  | removeSheet removed => exact hfar fun _ => rfl

/-- Rows that ascend do so where an edit takes them. -/
theorem sortedLT_filterMap_rowTo? (h : rows.SortedLT) {e : Edit} (he : e.HasCheckedBand)
    (sheet : SheetId) : (rows.filterMap (e.rowTo? sheet)).SortedLT := by
  refine (List.pairwise_filterMap.mpr (h.pairwise.imp fun hlt r hr r' hr' => ?_)).sortedLT
  exact Edit.rowTo?_lt he hlt hr hr'

/-! ## Replaying the history -/

variable {b b' : Bucket} {sheet : SheetId} {h : History}

/-- A bucket that has been brought up to date has the version of the history. -/
lemma version_of_caughtUp?_eq_some (hv : b.version ≤ h.version)
    (hb' : b.caughtUp? sheet h = some b') : b'.version = h.version := by
  unfold caughtUp? at hb'
  split at hb'
  · next hle =>
    cases hb'
    exact hv.antisymm hle
  · obtain ⟨rows, -, rfl⟩ := Option.map_eq_some_iff.mp hb'
    rfl

/-- A bucket that is up to date is left alone. -/
lemma caughtUp?_eq_some_self (hv : b.version = h.version) : b.caughtUp? sheet h = some b :=
  if_pos hv.ge

/-- All edits since the version of the bucket are replayed, in their order. -/
lemma map_rows_caughtUp? :
    (b.caughtUp? sheet h).map Bucket.rows = (h.since b.version).foldlM (rowsAfter? sheet) b.rows := by
  unfold caughtUp?
  split
  · next hle =>
    have hnone : h.since b.version = [] := List.drop_eq_nil_of_le hle
    rw [hnone]
    rfl
  · rw [Option.map_map]
    exact Option.map_id'

/-- An edit that is recorded now is replayed last, whatever the version of the bucket. -/
lemma map_rows_caughtUp?_record (hv : b.version ≤ h.version) (e : Edit) :
    (b.caughtUp? sheet (h.record e)).map Bucket.rows =
      ((b.caughtUp? sheet h).map Bucket.rows).bind fun rows => rowsAfter? sheet rows e := by
  rw [map_rows_caughtUp?, map_rows_caughtUp?, History.since_record hv, List.foldlM_append]
  simp only [List.foldlM_cons, List.foldlM_nil, bind_pure]
  rfl

end Bucket

end GridFormula
