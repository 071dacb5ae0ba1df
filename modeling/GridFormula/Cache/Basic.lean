import GridFormula.Formula.Dependency
import GridFormula.Locale.Basic
import GridFormula.Table

/-!
# The cache of formulas

Formulas with one key have one tree, which is kept once together with what evaluation has to know
about it. An entry stays as it was stored first. The cache counts how often a key was found and
how often it was not.
-/

namespace GridFormula

/-- A tree, and what evaluation has to know about it. -/
structure Entry where
  tree : Tree
  dependencies : List Dependency
  /-- Whether a function is called whose value can change by itself. -/
  isVolatile : Bool
  /-- Whether a function is called whose value depends on the shape of the sheet. -/
  isStructural : Bool
deriving DecidableEq

/-- The entry of a tree. -/
def Entry.ofTree (l : Locale) (t : Tree) : Entry where
  tree := t
  dependencies := t.dependencies
  isVolatile := t.functions.any l.isVolatile
  isStructural := t.functions.any l.isStructural

/-- Entries by their keys. -/
structure Cache where
  entries : Table Text Entry
  /-- How often a key was found. -/
  hits : Nat
  /-- How often a key was not found. -/
  misses : Nat
deriving DecidableEq

namespace Cache

/-- The cache without entries. -/
def empty : Cache := ⟨.empty, 0, 0⟩

/-- The entry of a key. -/
def get? (s : Cache) (key : Text) : Option Entry :=
  s.entries.get? key

/-- The entry of a key, which counts as found or not found. -/
def lookup (s : Cache) (key : Text) : Option Entry × Cache :=
  match s.get? key with
  | some entry => (some entry, { s with hits := s.hits + 1 })
  | none => (none, { s with misses := s.misses + 1 })

/-- Stores a tree under a key, unless the key has an entry already. Gives the entry that the key
then has. -/
def insert (s : Cache) (l : Locale) (key : Text) (t : Tree) : Entry × Cache :=
  match s.get? key with
  | some entry => (entry, s)
  | none =>
    let entry := Entry.ofTree l t
    (entry, { s with entries := s.entries.insert key entry })

/-- The number of entries. -/
def size (s : Cache) : Nat :=
  s.entries.size

/-- Looking something up does not change what is stored. -/
@[simp] theorem get?_lookup (s : Cache) (key other : Text) :
    (s.lookup key).2.get? other = s.get? other := by
  unfold lookup
  split <;> rfl

/-- What is given back is what the key has from then on. -/
theorem get?_insert_self (s : Cache) (l : Locale) (key : Text) (t : Tree) :
    (s.insert l key t).2.get? key = some (s.insert l key t).1 := by
  unfold insert
  split
  · next h => exact h
  · simp [get?, Table.get?_insert]

/-- Storing under one key leaves all others alone. -/
theorem get?_insert_of_ne (s : Cache) (l : Locale) {key other : Text} (h : other ≠ key) (t : Tree) :
    (s.insert l key t).2.get? other = s.get? other := by
  unfold insert
  split
  · rfl
  · simp [get?, Table.get?_insert, h]

end Cache

end GridFormula
