import GridFormula.Grid.Sheets
import Mathlib.Tactic.Common

/-!
# Every sheet is found under its name

The table from folded names to sheets is kept beside the names, and nothing but the way in which
both are changed together keeps them from drifting apart. In every workbook that comes about by
adding, removing and renaming sheets, the table holds the folded name of each sheet, with this
sheet, and nothing else. So the name of a sheet means this sheet, and every name that means a sheet
folds to the name of that sheet.
-/

namespace GridFormula

namespace Sheets

variable {fold : Text → Text} {s : Sheets fold}

/-- The workbook came about by adding, removing and renaming sheets. -/
inductive IsReachable : Sheets fold → Prop where
  | empty : IsReachable .empty
  | add {s : Sheets fold} (name : Text) : IsReachable s → IsReachable (s.add name).2
  | remove {s t : Sheets fold} {id : SheetId} {name : Text} :
    IsReachable s → s.remove? id = some (name, t) → IsReachable t
  | rename {s t : Sheets fold} {id : SheetId} {name : Text} :
    IsReachable s → s.rename? id name = some t → IsReachable t

/-! ## What a change makes of the names and of the table -/

/-- Only sheets that were added have a name. -/
lemma lt_length_of_name? {id : SheetId} {name : Text} (h : s.name? id = some name) :
    id < s.names.length := by
  by_contra hge
  rw [name?, List.getElem?_eq_none (Nat.le_of_not_lt hge)] at h
  cases h

/-- Another name, or none, is written down for a sheet. -/
lemma name?_set {id : SheetId} {own : Text} (h : s.name? id = some own) (name : Option Text)
    (keys : Table Text SheetId) (id' : SheetId) :
    (⟨s.names.set id name, keys⟩ : Sheets fold).name? id' =
      if id' = id then name else s.name? id' := by
  unfold name?
  by_cases heq : id' = id
  · subst heq
    rw [if_pos rfl, List.getElem?_set_self (lt_length_of_name? h)]
    rfl
  · rw [if_neg heq, List.getElem?_set_ne (Ne.symm heq)]

/-- A name that means a sheet already is not added again. -/
lemma add_of_id? {id : SheetId} {name : Text} (h : s.id? name = some id) :
    s.add name = (id, s) := by
  unfold add
  rw [h]

/-- A new sheet has the next number. -/
lemma add_of_id?_eq_none {name : Text} (h : s.id? name = none) :
    s.add name = (s.names.length,
      ⟨s.names ++ [some name], s.keys.insert (fold name) s.names.length⟩) := by
  unfold add
  rw [h]

/-- A sheet that is added has its name, and the others keep theirs. -/
lemma name?_append (name : Text) (keys : Table Text SheetId) (id : SheetId) :
    (⟨s.names ++ [some name], keys⟩ : Sheets fold).name? id =
      if id = s.names.length then some name else s.name? id := by
  unfold name?
  rcases Nat.lt_trichotomy id s.names.length with hlt | rfl | hgt
  · rw [if_neg (Nat.ne_of_lt hlt), List.getElem?_append_left hlt]
  · simp
  · rw [if_neg (Nat.ne_of_gt hgt), List.getElem?_eq_none (Nat.le_of_lt hgt), List.getElem?_eq_none]
    rw [List.length_append, List.length_singleton]
    exact hgt

/-- A sheet is removed if and only if it has a name. -/
lemma remove?_eq_some_iff {t : Sheets fold} {id : SheetId} {name : Text} :
    s.remove? id = some (name, t) ↔
      s.name? id = some name ∧ t = ⟨s.names.set id none, s.keys.erase (fold name)⟩ := by
  unfold remove?
  rw [Option.map_eq_some_iff]
  constructor
  · rintro ⟨own, hown, heq⟩
    cases heq
    exact ⟨hown, rfl⟩
  · rintro ⟨hown, rfl⟩
    exact ⟨name, hown, rfl⟩

/-- A sheet is renamed if and only if it has a name and the new name means no other sheet. -/
lemma rename?_eq_some_iff {t : Sheets fold} {id : SheetId} {name : Text} :
    s.rename? id name = some t ↔ ∃ old, s.name? id = some old ∧
      (∀ other, s.id? name = some other → other = id) ∧
        t = ⟨s.names.set id (some name), (s.keys.erase (fold old)).insert (fold name) id⟩ := by
  unfold rename?
  cases hold : s.name? id with
  | none => simp
  | some old =>
    have hfree : (s.id? name).any (fun other => other ≠ id) = true ↔
        ¬∀ other, s.id? name = some other → other = id := by
      cases s.id? name <;> simp
    dsimp only
    split
    · next htaken =>
      simp only [reduceCtorEq, false_iff]
      rintro ⟨-, -, hname, -⟩
      exact hfree.mp htaken hname
    · next hnot =>
      have hname := not_not.mp (mt hfree.mpr hnot)
      constructor
      · rintro ⟨⟩
        exact ⟨old, rfl, hname, rfl⟩
      · rintro ⟨_, ⟨⟩, -, rfl⟩
        rfl

/-! ## The table and the names say the same -/

/-- The table holds the folded name of each sheet, with this sheet, and nothing else. -/
def IsExact (s : Sheets fold) : Prop :=
  ∀ key id, s.keys.get? key = some id ↔ ∃ name, s.name? id = some name ∧ fold name = key

/-- Two sheets have two names, also after folding. -/
lemma IsExact.eq_of_fold_eq (h : s.IsExact) {id id' : SheetId} {name name' : Text}
    (hname : s.name? id = some name) (hname' : s.name? id' = some name')
    (hfold : fold name = fold name') : id = id' := by
  have hid := (h (fold name) id).mpr ⟨name, hname, rfl⟩
  have hid' := (h (fold name) id').mpr ⟨name', hname', hfold.symm⟩
  exact Option.some.inj (hid.symm.trans hid')

/-- Without sheets the table is exact. -/
lemma isExact_empty : (empty : Sheets fold).IsExact := by
  intro key id
  simp [empty, name?]

/-- Adding a sheet keeps the table exact. -/
lemma IsExact.add (h : s.IsExact) (name : Text) : (s.add name).2.IsExact := by
  cases hid : s.id? name with
  | some id =>
    rw [add_of_id? hid]
    exact h
  | none =>
    rw [add_of_id?_eq_none hid]
    intro key id
    have hnew : s.name? s.names.length = none := by
      cases hname : s.name? s.names.length with
      | none => rfl
      | some own => exact absurd (lt_length_of_name? hname) (Nat.lt_irrefl _)
    have hfree : ∀ id' own, s.name? id' = some own → fold own ≠ fold name := by
      intro id' own hown hfold
      have hkey : s.id? name = some id' := (h (fold name) id').mpr ⟨own, hown, hfold⟩
      cases hid.symm.trans hkey
    rw [Table.get?_insert, name?_append]
    -- The new name leads to the new sheet, whose number is that of none before it.
    by_cases hkey : key = fold name
    · subst hkey
      rw [if_pos rfl, Option.some_inj]
      constructor
      · rintro rfl
        exact ⟨name, if_pos rfl, rfl⟩
      · rintro ⟨own, hown, hfold⟩
        by_contra hne
        rw [if_neg (Ne.symm hne)] at hown
        exact hfree id own hown hfold
    · rw [if_neg hkey, h]
      by_cases hlast : id = s.names.length
      · subst hlast
        rw [hnew, if_pos rfl]
        constructor
        · rintro ⟨_, ⟨⟩, -⟩
        · rintro ⟨_, ⟨⟩, rfl⟩
          exact absurd rfl hkey
      · rw [if_neg hlast]

/-- Removing a sheet keeps the table exact. -/
lemma IsExact.remove? (h : s.IsExact) {t : Sheets fold} {id : SheetId} {name : Text}
    (ht : s.remove? id = some (name, t)) : t.IsExact := by
  obtain ⟨hname, rfl⟩ := remove?_eq_some_iff.mp ht
  intro key id'
  rw [name?_set hname, Table.get?_erase]
  by_cases hkey : key = fold name
  · subst hkey
    rw [if_pos rfl]
    constructor
    · rintro ⟨⟩
    · rintro ⟨own, hown, hfold⟩
      split at hown
      · cases hown
      · next hne => exact absurd (h.eq_of_fold_eq hown hname hfold) hne
  · rw [if_neg hkey, h]
    by_cases hid : id' = id
    · subst hid
      rw [if_pos rfl, hname]
      constructor
      · rintro ⟨_, ⟨⟩, rfl⟩
        exact absurd rfl hkey
      · rintro ⟨_, ⟨⟩, -⟩
    · rw [if_neg hid]

/-- Renaming a sheet keeps the table exact. -/
lemma IsExact.rename? (h : s.IsExact) {t : Sheets fold} {id : SheetId} {name : Text}
    (ht : s.rename? id name = some t) : t.IsExact := by
  obtain ⟨old, hold, hfree, rfl⟩ := rename?_eq_some_iff.mp ht
  intro key id'
  rw [name?_set hold, Table.get?_insert, Table.get?_erase]
  -- Four cases: the renamed sheet or another one, found under its new name or under another one.
  by_cases hid : id' = id
  · subst hid
    rw [if_pos rfl]
    by_cases hkey : key = fold name
    · subst hkey
      simp
    · rw [if_neg hkey]
      have hnot : ¬(if key = fold old then none else s.keys.get? key) = some id' := by
        split
        · nofun
        · next hne =>
          intro hget
          obtain ⟨own, hown, hfold⟩ := (h key id').mp hget
          cases hold.symm.trans hown
          exact hne hfold.symm
      simp [hnot, Ne.symm hkey]
  · rw [if_neg hid]
    by_cases hkey : key = fold name
    · subst hkey
      rw [if_pos rfl, Option.some_inj]
      constructor
      · exact fun heq => absurd heq.symm hid
      · rintro ⟨own, hown, hfold⟩
        exact absurd (hfree id' ((h (fold name) id').mpr ⟨own, hown, hfold⟩)) hid
    · rw [if_neg hkey, ← h]
      split
      · next hold' =>
        subst hold'
        constructor
        · rintro ⟨⟩
        · intro hget
          obtain ⟨own, hown, hfold⟩ := (h (fold old) id').mp hget
          exact absurd (h.eq_of_fold_eq hown hold hfold) hid
      · rfl

/-- However the sheets have come about, the table is exact. -/
theorem IsReachable.isExact (h : s.IsReachable) : s.IsExact := by
  induction h with
  | empty => exact isExact_empty
  | add name _ ih => exact ih.add name
  | remove _ ht ih => exact ih.remove? ht
  | rename _ ht ih => exact ih.rename? ht

/-- The name of each sheet means this sheet. -/
def IsConsistent (s : Sheets fold) : Prop :=
  ∀ id name, s.name? id = some name → s.id? name = some id

/-- A name that means a sheet folds to the same text as the name of the sheet. -/
def IsComplete (s : Sheets fold) : Prop :=
  ∀ id name, s.id? name = some id → ∃ own, s.name? id = some own ∧ fold own = fold name

/-- However the sheets have come about, what is found by a name has this name. -/
theorem IsReachable.isConsistent (h : s.IsReachable) : s.IsConsistent :=
  fun id name hname => (h.isExact (fold name) id).mpr ⟨name, hname, rfl⟩

/-- However the sheets have come about, each of them is found by its name. -/
theorem IsReachable.isComplete (h : s.IsReachable) : s.IsComplete :=
  fun id name hid => (h.isExact (fold name) id).mp hid

end Sheets

end GridFormula
