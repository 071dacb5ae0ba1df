/-!
# Tables

A table holds at most one value for each key. It is a list of entries; an entry that is inserted
takes the place of the one that had its key.
-/

namespace GridFormula

/-- A list of keys with their values. -/
structure Table (κ α : Type) where
  entries : List (κ × α)
deriving DecidableEq, Repr

namespace Table

variable {κ α : Type} [DecidableEq κ]

/-- The table without entries. -/
def empty : Table κ α := ⟨[]⟩

/-- The value of a key. -/
def get? (t : Table κ α) (k : κ) : Option α :=
  (t.entries.find? fun e => e.1 = k).map Prod.snd

/-- Takes out the entry of a key. -/
def erase (t : Table κ α) (k : κ) : Table κ α :=
  ⟨t.entries.filter fun e => e.1 ≠ k⟩

/-- Gives a key a value. -/
def insert (t : Table κ α) (k : κ) (a : α) : Table κ α :=
  ⟨(k, a) :: (t.erase k).entries⟩

/-- Gives each entry another key, or takes it out where there is none. -/
def rekey (t : Table κ α) (f : κ → Option κ) : Table κ α :=
  ⟨t.entries.filterMap fun e => (f e.1).map fun k => (k, e.2)⟩

/-- The number of entries. -/
def size (t : Table κ α) : Nat :=
  t.entries.length

/-- The empty table holds nothing. -/
@[simp] theorem get?_empty (k : κ) : (empty : Table κ α).get? k = none := rfl

/-- Taking out an entry changes the value of its key only. -/
theorem get?_erase (t : Table κ α) (k l : κ) :
    (t.erase k).get? l = if l = k then none else t.get? l := by
  obtain ⟨es⟩ := t
  simp only [get?, erase]
  induction es with
  | nil => simp
  | cons e es ih =>
    by_cases hk : e.1 = k <;> by_cases hl : e.1 = l <;> grind

/-- Inserting an entry changes the value of its key only. -/
theorem get?_insert (t : Table κ α) (k l : κ) (a : α) :
    (t.insert k a).get? l = if l = k then some a else t.get? l := by
  have h := get?_erase t k l
  simp only [get?] at h
  simp only [get?, insert, List.find?_cons]
  by_cases hl : l = k
  · simp [hl]
  · have : decide (k = l) = false := by simpa using Ne.symm hl
    simp only [this, h, if_neg hl]

/-- Where no two keys become one, an entry is found under its new key. -/
theorem get?_rekey_of_eq_some (t : Table κ α) {f : κ → Option κ} {k l : κ} (hk : f k = some l)
    (hf : ∀ m, f m = some l → m = k) : (t.rekey f).get? l = t.get? k := by
  obtain ⟨es⟩ := t
  simp only [get?, rekey, List.find?_filterMap]
  have hfound : (fun e : κ × α => ((f e.1).map fun m => (m, e.2)).any fun e => e.1 = l) =
      fun e => decide (e.1 = k) := by
    funext e
    rw [Bool.eq_iff_iff, decide_eq_true_iff, Option.any_map, Option.any_eq_true]
    constructor
    · rintro ⟨m, hm, hml⟩
      have hml : m = l := of_decide_eq_true hml
      exact hf e.1 (hml ▸ hm)
    · rintro rfl
      exact ⟨l, hk, decide_eq_true rfl⟩
  rw [hfound]
  cases h : es.find? fun e => e.1 = k with
  | none => rfl
  | some e =>
    have hkey : e.1 = k := by simpa using List.find?_some h
    simp [hkey, hk]

/-- A key that no entry is given has no value. -/
theorem get?_rekey_eq_none (t : Table κ α) {f : κ → Option κ} {l : κ} (hf : ∀ m, f m ≠ some l) :
    (t.rekey f).get? l = none := by
  obtain ⟨es⟩ := t
  simp only [get?, rekey, Option.map_eq_none_iff, List.find?_eq_none, List.mem_filterMap]
  rintro e ⟨e', -, he⟩
  obtain ⟨m, hm, rfl⟩ := Option.map_eq_some_iff.mp he
  simp only [decide_eq_true_eq]
  rintro rfl
  exact hf _ hm

end Table

end GridFormula
