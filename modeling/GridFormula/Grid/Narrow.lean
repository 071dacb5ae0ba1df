import GridFormula.Grid.Band

/-!
# Numbers in 32 bits

Rows, columns and the distances between them are kept in 32 bits with a sign. A sum that needs more
keeps its low 32 bits, so that it comes out negative behind the greatest number. Adding and cutting
down can be done in either order, and nothing is lost where the result needs no more than 32 bits.
-/

namespace GridFormula

/-- The number that the low 32 bits of `n` stand for. -/
def narrowed (n : Int) : Int :=
  Int.bmod n 0x100000000

/-- The number needs no more than 32 bits. -/
def IsNarrow (n : Int) : Prop :=
  -0x80000000 ≤ n ∧ n < 0x80000000

instance : DecidablePred IsNarrow :=
  fun _ => inferInstanceAs (Decidable (_ ∧ _))

/-- A number that needs no more than 32 bits is kept. -/
theorem narrowed_eq_self {n : Int} (h : IsNarrow n) : narrowed n = n := by
  obtain ⟨hlow, hhigh⟩ := h
  unfold narrowed
  refine Int.bmod_eq_of_le ?_ ?_ <;> omega

/-- What is kept needs no more than 32 bits. -/
theorem isNarrow_narrowed (n : Int) : IsNarrow (narrowed n) := by
  unfold IsNarrow narrowed
  have hlow := Int.le_bmod (x := n) (m := 0x100000000) (by decide)
  have hhigh := Int.bmod_lt (x := n) (m := 0x100000000) (by decide)
  omega

/-- A summand may be cut down before the sum is. -/
@[simp] theorem narrowed_narrowed_add (m n : Int) : narrowed (narrowed m + n) = narrowed (m + n) :=
  Int.bmod_add_bmod

/-- Cutting down twice is the same as once. -/
@[simp] theorem narrowed_narrowed (n : Int) : narrowed (narrowed n) = narrowed n :=
  narrowed_eq_self (isNarrow_narrowed n)

instance Axis.decidableForall {P : Axis → Prop} [DecidablePred P] : Decidable (∀ axis, P axis) :=
  decidable_of_iff (P .row ∧ P .column) <| by
    refine ⟨fun h axis => ?_, fun h => ⟨h .row, h .column⟩⟩
    cases axis with
    | row => exact h.1
    | column => exact h.2

namespace Cell

/-- The cell with both of its indices cut down to 32 bits. -/
def narrow (c : Cell) : Cell :=
  { c with column := narrowed c.column, row := narrowed c.row }

/-- Both indices of the cell need no more than 32 bits. -/
def IsNarrow (c : Cell) : Prop :=
  ∀ axis, GridFormula.IsNarrow (c.along axis)

instance : DecidablePred IsNarrow :=
  fun c => inferInstanceAs (Decidable (∀ axis, GridFormula.IsNarrow (c.along axis)))

/-- A cell whose indices need no more than 32 bits is kept. -/
theorem narrow_eq_self {c : Cell} (h : c.IsNarrow) : c.narrow = c :=
  Cell.ext rfl (narrowed_eq_self (h .column)) (narrowed_eq_self (h .row))

end Cell

namespace Band

/-- The last line of the band, cut down to 32 bits. -/
def narrowLast (b : Band) : Int :=
  narrowed b.last

/-- The first line behind the band needs no more than 32 bits. -/
def Fits (b : Band) : Prop :=
  IsNarrow (b.last + 1)

instance : DecidablePred Fits :=
  fun _ => inferInstanceAs (Decidable (IsNarrow _))

/-- The last line of a band that fits is kept. -/
theorem narrowLast_eq {b : Band} (hb : b.WellFormed) (h : b.Fits) : b.narrowLast = b.last := by
  obtain ⟨hstart, hcount⟩ := hb
  unfold Fits IsNarrow last at h
  refine narrowed_eq_self ?_
  unfold IsNarrow last
  omega

end Band

end GridFormula
