import GridFormula.Proofs.Edit.Narrowing

/-!
# Removing what was inserted

When the lines of a band have been inserted, no reference means one of them: every line from the
start of the band on has moved behind it. So if the same band is removed again, nothing is lost and
no area has to be cut short, and each line moves back to where it was. The formula does the same,
and so every reference is again what it was.
-/

namespace GridFormula

/-- A cell is known by its sheet and its index on each axis. -/
lemma Cell.ext_along {c d : Cell} (hs : c.sheet = d.sheet) (h : ∀ axis, c.along axis = d.along axis) :
    c = d :=
  Cell.ext hs (h .column) (h .row)

namespace Rewriting

end Rewriting

namespace Band

variable {b : Band}

section

variable {α : Type} [Qualified α] {g : Grip α} (hg : g.IsLawful) (hb : 0 ≤ b.count) (axis : Axis)

include hg hb

end

end Band

namespace Edit

end Edit

end GridFormula
