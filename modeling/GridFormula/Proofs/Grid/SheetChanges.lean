import GridFormula.Proofs.Grid.Sheets
import Mathlib.Data.Set.Card

/-!
# A workbook through any changes of its sheets

Sheets are added, removed and renamed in any order, under any names and also where there is nothing
to remove or to rename. Formulas keep no more of a sheet than its number, so the number must go on
meaning this sheet: after any changes the table has one entry for each sheet and no other, its size
is the number of sheets, and the number of a sheet that was removed is not given again.
-/

namespace GridFormula

/-! ## Tables with one entry for each key -/

namespace Table

variable {κ α : Type} [DecidableEq κ] {t : Table κ α}

/-- No key has two entries. -/
def IsFunctional (t : Table κ α) : Prop :=
  (t.entries.map Prod.fst).Nodup

/-- Taking out a key leaves one entry for each key. -/
lemma IsFunctional.erase (h : t.IsFunctional) (k : κ) : (t.erase k).IsFunctional :=
  h.sublist (List.filter_sublist.map Prod.fst)

/-- Putting in an entry leaves one for each key. -/
lemma IsFunctional.insert (h : t.IsFunctional) (k : κ) (a : α) : (t.insert k a).IsFunctional := by
  refine List.nodup_cons.mpr ⟨?_, h.erase k⟩
  intro hmem
  obtain ⟨e, he, hkey⟩ := List.mem_map.mp hmem
  exact of_decide_eq_true (List.mem_filter.mp he).2 hkey

/-- The value of a key is the one in its entry. -/
lemma IsFunctional.get?_eq_some_iff (h : t.IsFunctional) {k : κ} {a : α} :
    t.get? k = some a ↔ (k, a) ∈ t.entries := by
  have hfind : ∀ e, t.entries.find? (fun e => e.1 = k) = some e → e ∈ t.entries ∧ e.1 = k :=
    fun e he => ⟨List.mem_of_find?_eq_some he, by simpa using List.find?_some he⟩
  rw [get?, Option.map_eq_some_iff]
  constructor
  · rintro ⟨⟨k', a'⟩, he, rfl⟩
    obtain ⟨hmem, rfl⟩ := hfind _ he
    exact hmem
  · intro hmem
    have hsome : (t.entries.find? fun e => e.1 = k).isSome = true :=
      List.find?_isSome.mpr ⟨(k, a), hmem, decide_eq_true rfl⟩
    obtain ⟨e, he⟩ := Option.isSome_iff_exists.mp hsome
    obtain ⟨hmem', hkey⟩ := hfind e he
    obtain rfl : e = (k, a) := List.inj_on_of_nodup_map h hmem' hmem hkey
    exact ⟨_, he, rfl⟩

end Table

/-! ## Changes -/

/-- What can be done to the sheets of a workbook. -/
inductive SheetChange where
  | add (name : Text)
  | remove (id : SheetId)
  | rename (id : SheetId) (name : Text)
deriving DecidableEq, Repr

namespace Sheets

variable {fold : Text → Text} {s : Sheets fold}

/-- The sheets after a change. Where there is no answer they stay as they are. -/
def after (s : Sheets fold) : SheetChange → Sheets fold
  | .add name => (s.add name).2
  | .remove id => ((s.remove? id).map Prod.snd).getD s
  | .rename id name => (s.rename? id name).getD s

/-- The sheets after changes, made one after the other. -/
def afterAll (s : Sheets fold) (changes : List SheetChange) : Sheets fold :=
  changes.foldl after s

/-- There is no answer to the change. -/
def Refuses (s : Sheets fold) : SheetChange → Prop
  | .add _ => False
  | .remove id => s.remove? id = none
  | .rename id name => s.rename? id name = none

/-- The sheet has a name. -/
def IsLive (s : Sheets fold) (id : SheetId) : Prop :=
  (s.name? id).isSome = true

instance (s : Sheets fold) (id : SheetId) : Decidable (s.IsLive id) :=
  inferInstanceAs (Decidable (_ = _))

/-- A sheet is live if it has a name. -/
lemma isLive_iff {id : SheetId} : s.IsLive id ↔ ∃ name, s.name? id = some name :=
  Option.isSome_iff_exists

/-- A sheet is not live if it has no name. -/
lemma not_isLive_iff {id : SheetId} : ¬s.IsLive id ↔ s.name? id = none := by
  rw [IsLive, Bool.not_eq_true, Option.isSome_eq_false_iff, Option.isNone_iff_eq_none]

/-- Only a sheet that does not exist cannot be removed. -/
lemma refuses_remove_iff {id : SheetId} : s.Refuses (.remove id) ↔ ¬s.IsLive id :=
  Option.map_eq_none_iff.trans not_isLive_iff.symm

/-- A sheet that exists cannot be given a name that means another one. -/
lemma refuses_rename_iff {id : SheetId} {name : Text} : s.Refuses (.rename id name) ↔
    (s.IsLive id → ∃ other, s.id? name = some other ∧ other ≠ id) := by
  rw [Refuses, Option.eq_none_iff_forall_ne_some]
  constructor
  · intro hnone hlive
    obtain ⟨old, hold⟩ := isLive_iff.mp hlive
    by_contra hfree
    refine hnone _ (rename?_eq_some_iff.mpr ⟨old, hold, fun other hother => ?_, rfl⟩)
    by_contra hne
    exact hfree ⟨other, hother, hne⟩
  · intro htaken t ht
    obtain ⟨old, hold, hfree, -⟩ := rename?_eq_some_iff.mp ht
    obtain ⟨other, hother, hne⟩ := htaken (isLive_iff.mpr ⟨old, hold⟩)
    exact hne (hfree other hother)

/-- A change that is refused does nothing. -/
lemma after_of_refuses {c : SheetChange} (h : s.Refuses c) : s.after c = s := by
  cases c with
  | add name => exact h.elim
  | remove id =>
    have hnone : s.remove? id = none := h
    rw [after, hnone]
    rfl
  | rename id name =>
    have hnone : s.rename? id name = none := h
    rw [after, hnone]
    rfl

/-- Whatever can be said of the sheets after each of the three changes can be said of them after any
one, if it could be said before. -/
lemma after_induction {P : Sheets fold → Prop} (h : P s)
    (hadd : ∀ name, P (s.add name).2)
    (hremove : ∀ {id name t}, s.remove? id = some (name, t) → P t)
    (hrename : ∀ {id name t}, s.rename? id name = some t → P t) (c : SheetChange) :
    P (s.after c) := by
  cases c with
  | add name => exact hadd name
  | remove id =>
    cases ht : s.remove? id with
    | none =>
      rw [after_of_refuses (c := .remove id) ht]
      exact h
    | some answer =>
      rw [after, ht]
      exact hremove ht
  | rename id name =>
    cases ht : s.rename? id name with
    | none =>
      rw [after_of_refuses (c := .rename id name) ht]
      exact h
    | some t =>
      rw [after, ht]
      exact hrename ht

/-- What each change keeps, all changes keep. -/
lemma afterAll_induction {P : Sheets fold → Prop} (hstep : ∀ s c, P s → P (s.after c))
    (h : P s) (changes : List SheetChange) : P (s.afterAll changes) := by
  induction changes generalizing s with
  | nil => exact h
  | cons c changes ih => exact ih (hstep s c h)

/-- One more change can be made. -/
lemma IsReachable.after (h : s.IsReachable) (c : SheetChange) : (s.after c).IsReachable :=
  after_induction h (fun name => .add name h) (.remove h) (.rename h) c

/-- More changes can be made. -/
lemma IsReachable.afterAll (h : s.IsReachable) (changes : List SheetChange) :
    (s.afterAll changes).IsReachable :=
  afterAll_induction (fun _ c hs => hs.after c) h changes

/-- A sheet stays unless it is removed. -/
lemma IsLive.after {id : SheetId} (h : s.IsLive id) {c : SheetChange} (hc : c ≠ .remove id) :
    (s.after c).IsLive id := by
  cases c with
  | add name =>
    rw [Sheets.after]
    cases hid : s.id? name with
    | some id' =>
      rw [add_of_id? hid]
      exact h
    | none =>
      rw [add_of_id?_eq_none hid, IsLive, name?_append]
      split
      · rfl
      · exact h
  | remove id' =>
    have hne : id ≠ id' := fun heq => hc (heq ▸ rfl)
    cases ht : s.remove? id' with
    | none => rwa [after_of_refuses (c := .remove id') ht]
    | some answer =>
      obtain ⟨hname, heq⟩ := remove?_eq_some_iff.mp ht
      rw [Sheets.after, ht, Option.map_some, Option.getD_some, heq, IsLive, name?_set hname,
        if_neg hne]
      exact h
  | rename id' name =>
    cases ht : s.rename? id' name with
    | none => rwa [after_of_refuses (c := .rename id' name) ht]
    | some t =>
      obtain ⟨old, hold, -, rfl⟩ := rename?_eq_some_iff.mp ht
      rw [Sheets.after, ht, Option.getD_some, IsLive, name?_set hold]
      split
      · rfl
      · exact h

/-! ## The number of sheets -/

/-- The table never has two entries for a name. -/
lemma IsReachable.isFunctional_keys (h : s.IsReachable) : s.keys.IsFunctional := by
  induction h with
  | empty => exact List.nodup_nil
  | @add s name _ ih =>
    cases hid : s.id? name with
    | some id => rwa [add_of_id? hid]
    | none =>
      rw [add_of_id?_eq_none hid]
      exact ih.insert _ _
  | remove _ ht ih =>
    obtain ⟨-, rfl⟩ := remove?_eq_some_iff.mp ht
    exact ih.erase _
  | rename _ ht ih =>
    obtain ⟨old, -, -, rfl⟩ := rename?_eq_some_iff.mp ht
    exact (ih.erase _).insert _ _

/-- Each sheet has one entry in the table, so the size of the table is the number of sheets. -/
theorem IsReachable.size_eq_ncard (h : s.IsReachable) : s.size = {id | s.IsLive id}.ncard := by
  have hkeys := h.isFunctional_keys
  have hmem : ∀ {key id}, (key, id) ∈ s.keys.entries ↔
      ∃ name, s.name? id = some name ∧ fold name = key :=
    hkeys.get?_eq_some_iff.symm.trans (h.isExact _ _)
  have hnodup : (s.keys.entries.map Prod.snd).Nodup := by
    refine List.Nodup.map_on ?_ (List.Nodup.of_map _ hkeys)
    rintro ⟨key, id⟩ he ⟨key', _⟩ he' rfl
    obtain ⟨name, hname, rfl⟩ := hmem.mp he
    obtain ⟨name', hname', rfl⟩ := hmem.mp he'
    cases hname.symm.trans hname'
    rfl
  have hlive : {id | s.IsLive id} = ↑(s.keys.entries.map Prod.snd).toFinset := by
    ext id
    rw [Set.mem_ofPred_eq, isLive_iff, Finset.mem_coe, List.mem_toFinset, List.mem_map]
    constructor
    · rintro ⟨name, hname⟩
      exact ⟨(fold name, id), hmem.mpr ⟨name, hname, rfl⟩, rfl⟩
    · rintro ⟨⟨key, _⟩, he, rfl⟩
      obtain ⟨name, hname, -⟩ := hmem.mp he
      exact ⟨name, hname⟩
  rw [hlive, Set.ncard_coe_finset, List.toFinset_card_of_nodup hnodup, List.length_map]
  rfl

/-! ## Sheets that are gone -/

/-- The sheet was there and has been removed. -/
def IsGone (s : Sheets fold) (id : SheetId) : Prop :=
  id < s.names.length ∧ s.name? id = none

/-- A sheet that is removed is gone. -/
lemma isGone_remove? {t : Sheets fold} {id : SheetId} {name : Text}
    (h : s.remove? id = some (name, t)) : t.IsGone id := by
  obtain ⟨hname, rfl⟩ := remove?_eq_some_iff.mp h
  refine ⟨?_, ?_⟩
  · rw [List.length_set]
    exact lt_length_of_name? hname
  · rw [name?_set hname, if_pos rfl]

/-- A sheet that is gone stays gone: a new one has another number, and only a sheet that is there is
given another name. -/
lemma IsGone.after {id : SheetId} (h : s.IsGone id) (c : SheetChange) : (s.after c).IsGone id := by
  obtain ⟨hlt, hnone⟩ := h
  -- A name is only changed or taken away where there is one.
  have hset : ∀ {id' own} (hown : s.name? id' = some own) (name : Option Text) keys,
      (⟨s.names.set id' name, keys⟩ : Sheets fold).IsGone id := by
    intro id' own hown name keys
    refine ⟨by rwa [List.length_set], ?_⟩
    have hne : id ≠ id' := by
      rintro rfl
      cases hnone.symm.trans hown
    rw [name?_set hown, if_neg hne]
    exact hnone
  refine after_induction (P := (IsGone · id)) ⟨hlt, hnone⟩ (fun name => ?_) (fun ht => ?_)
    (fun ht => ?_) c
  · cases hid : s.id? name with
    | some id' =>
      rw [add_of_id? hid]
      exact ⟨hlt, hnone⟩
    | none =>
      rw [add_of_id?_eq_none hid]
      refine ⟨?_, ?_⟩
      · rw [List.length_append]
        exact Nat.lt_add_right _ hlt
      · rw [name?_append, if_neg (Nat.ne_of_lt hlt)]
        exact hnone
  · obtain ⟨hname, rfl⟩ := remove?_eq_some_iff.mp ht
    exact hset hname _ _
  · obtain ⟨old, hold, -, rfl⟩ := rename?_eq_some_iff.mp ht
    exact hset hold _ _

/-- A sheet that is removed is not there after any further changes. -/
lemma not_isLive_of_removed {before later : List SheetChange} {id : SheetId}
    (hlive : (s.afterAll before).IsLive id) :
    ¬(s.afterAll (before ++ .remove id :: later)).IsLive id := by
  have hsplit : s.afterAll (before ++ .remove id :: later) =
      ((s.afterAll before).after (.remove id)).afterAll later := List.foldl_append
  obtain ⟨name, hname⟩ := isLive_iff.mp hlive
  have hremove := remove?_eq_some_iff.mpr ⟨hname, rfl⟩
  have hgone : ((s.afterAll before).after (.remove id)).IsGone id := by
    rw [after, hremove]
    exact isGone_remove? hremove
  rw [hsplit, not_isLive_iff]
  exact (afterAll_induction (P := (IsGone · id)) (fun _ c hs => hs.after c) hgone later).2

/-- Whatever is done to a workbook without sheets, the table holds the folded name of each sheet,
with this sheet, and nothing else. So two sheets have two names, also after folding, the name of
each sheet means this sheet, and the size of the workbook is the number of its sheets. A sheet that
was removed is never there again. A change is refused only where it makes no sense, and then nothing
is changed. -/
theorem inStep_afterAll (changes : List SheetChange) :
    let s : Sheets fold := empty.afterAll changes
    (∀ key id, s.keys.get? key = some id ↔ ∃ name, s.name? id = some name ∧ fold name = key) ∧
      (∀ id id' name name', s.name? id = some name → s.name? id' = some name' → id ≠ id' →
        fold name ≠ fold name') ∧
      (∀ id name, s.name? id = some name → s.id? name = some id) ∧
      s.size = {id | s.IsLive id}.ncard ∧
      (∀ before id later, changes = before ++ .remove id :: later →
        (afterAll (empty : Sheets fold) before).IsLive id → ¬s.IsLive id) ∧
      (∀ id, s.Refuses (.remove id) ↔ ¬s.IsLive id) ∧
      (∀ id name, s.Refuses (.rename id name) ↔
        (s.IsLive id → ∃ other, s.id? name = some other ∧ other ≠ id)) ∧
      ∀ c, s.Refuses c → s.after c = s := by
  intro s
  have hreach : s.IsReachable := IsReachable.afterAll .empty changes
  refine ⟨hreach.isExact, ?_, hreach.isConsistent, hreach.size_eq_ncard, ?_,
    fun _ => refuses_remove_iff, fun _ _ => refuses_rename_iff, fun c => after_of_refuses⟩
  · intro id id' name name' hname hname' hne hfold
    exact hne (hreach.isExact.eq_of_fold_eq hname hname' hfold)
  · rintro before id later rfl hlive
    exact not_isLive_of_removed hlive

/-- A sheet is given its own name in other letters and is removed; its name is then given to a new
sheet, and not to a third one as well. -/
theorem inStep_afterAll_readded :
    let before : List SheetChange := [.add "A".toList, .add "B".toList, .rename 0 "a".toList]
    let changes := before ++ [.remove 0, .add "A".toList]
    let s : Sheets (List.map Char.toUpper) := empty.afterAll changes
    s.names = [none, some "B".toList, some "A".toList] ∧ s.id? "A".toList = some 2 ∧
      s.size = {id | s.IsLive id}.ncard ∧
      (afterAll (empty : Sheets (List.map Char.toUpper)) before).IsLive 0 ∧ ¬s.IsLive 0 ∧
      s.Refuses (.rename 1 "a".toList) ∧ s.after (.rename 1 "a".toList) = s := by
  intro before changes s
  obtain ⟨-, -, hname, hsize, hremoved, -, hrename, hrefused⟩ :=
    @inStep_afterAll (List.map Char.toUpper) changes
  have hlive : (afterAll (empty : Sheets (List.map Char.toUpper)) before).IsLive 0 := by decide
  have hrefuses : s.Refuses (.rename 1 "a".toList) :=
    (hrename 1 "a".toList).mpr fun _ => ⟨2, by decide, by decide⟩
  exact ⟨by decide, hname 2 "A".toList (by decide), hsize, hlive, hremoved before 0 _ rfl hlive,
    hrefuses, hrefused _ hrefuses⟩

end Sheets

end GridFormula
