import GridFormula.Grid.Cell

/-!
# Bands of rows or columns

A band is a run of neighbouring rows, or of neighbouring columns, on one sheet. It is what an edit
inserts or removes. A band that is checked on construction holds at least one line and starts on
the grid. It may still reach behind the last line that 32 bits can number; what is then taken for
its last line is said in `GridFormula.Grid.Narrow`.
-/

namespace GridFormula

/-- A run of neighbouring rows or columns of one sheet. -/
structure Band where
  sheet : SheetId
  /-- The first row or column of the band. -/
  start : Int
  /-- The number of rows or columns. -/
  count : Int
deriving DecidableEq, Repr

/-- Why a band was refused. -/
inductive Band.Fault where
  /-- The band would hold no line. -/
  | empty (count : Int)
  /-- The band would start before the first line. -/
  | offGrid (start : Int)
deriving DecidableEq, Repr

/-- The text that reports a refused band. -/
def Band.Fault.message : Band.Fault → Text
  | .empty count =>
    "span must cover at least one row or column (got ".toList ++ Text.ofInt count ++ [')']
  | .offGrid start =>
    "span cannot start before the first row or column (got ".toList ++ Text.ofInt start ++ [')']

namespace Band

/-- The band of `count` lines from `start`, if it holds a line and starts on the grid. -/
def checked (sheet : SheetId) (start count : Int) : Except Band.Fault Band :=
  if count ≤ 0 then .error (.empty count)
  else if start < 0 then .error (.offGrid start)
  else .ok ⟨sheet, start, count⟩

/-- A band holds at least one line and starts on the grid. -/
def WellFormed (b : Band) : Prop :=
  0 ≤ b.start ∧ 0 < b.count

/-- A band passes the check exactly if it is well formed. -/
theorem checked_eq_ok_iff {sheet : SheetId} {start count : Int} {b : Band} :
    checked sheet start count = .ok b ↔ b = ⟨sheet, start, count⟩ ∧ b.WellFormed := by
  unfold checked WellFormed
  split
  · simp only [reduceCtorEq, false_iff]; rintro ⟨rfl, h⟩; simp only at h; omega
  · split
    · simp only [reduceCtorEq, false_iff]; rintro ⟨rfl, h⟩; simp only at h; omega
    · constructor
      · rintro h; cases h; exact ⟨rfl, by simp only; omega⟩
      · rintro ⟨rfl, _⟩; rfl

/-- The last line of the band. -/
def last (b : Band) : Int :=
  b.start + b.count - 1

/-- A line lies in the band if its index is between the first and the last one. -/
instance : Membership Int Band where
  mem b index := b.start ≤ index ∧ index ≤ b.last

/-- The lines of a band are those from its first to its last one. -/
theorem mem_iff {b : Band} {index : Int} : index ∈ b ↔ b.start ≤ index ∧ index ≤ b.last :=
  Iff.rfl

instance (index : Int) (b : Band) : Decidable (index ∈ b) :=
  inferInstanceAs (Decidable (_ ∧ _))

end Band

end GridFormula
