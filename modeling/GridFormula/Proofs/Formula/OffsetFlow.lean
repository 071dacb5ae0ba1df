import GridFormula.Proofs.Formula.Flow
import GridFormula.Proofs.Lexeme.ReferenceText

/-!
# How marks follow each other where there are offsets

The marks of a tree hold no offsets, because these are resolved while they are read. The marks of
lexemes do. An offset starts an operand, and it can be the end of an area: then a colon stands
between it and a cell or another offset. In all else such marks follow each other as those of a tree
do.
-/

namespace GridFormula

open Scan

/-- The atom can be an end of an area whose other end is an offset: it is a cell, or the text of one
that means nothing. -/
def Atom.IsAreaEnd (a : Atom) : Prop :=
  (∃ r, a = .cell r) ∨ ∃ w raw e, a = .unreadable raw e ∧ CellText w raw

namespace Mark

/-- Whether an operand starts with the mark, be it an offset or not. -/
def opensOperand (m : Mark) : Bool :=
  m.startsOperand || m = .offsetCall

/-- Whether the mark can stand at a place. Colons and offsets can stand anywhere. -/
def fitsWithOffsets (n : Nesting) : Mark → Bool
  | colon | offsetCall => true
  | m => m.fits n

/-- The mark can be followed by the marks `ms`, among which there may be offsets. -/
def MeetsWithOffsets (ms : List Mark) : Mark → Prop
  | space _ => ∃ m ∈ ms.head?, m.isSpace = false
  | atom a => FollowOperand ms ∨ a.IsAreaEnd ∧ ∃ ms', ms = .colon :: .offsetCall :: ms'
  | operator _ => ∃ m ∈ next ms, m.opensOperand = true
  | _ => True

end Mark

/-- Each of the marks can stand where it stands and can be followed by what follows it. There may be
offsets among them. -/
def FlowsWithOffsets : Nesting → List Mark → Prop
  | _, [] => True
  | n, m :: ms =>
    m.fitsWithOffsets n = true ∧ m.MeetsWithOffsets ms ∧ FlowsWithOffsets (m.inside n) ms

/-- What fits without offsets fits with them. -/
lemma Mark.fitsWithOffsets_of_fits {n : Nesting} {m : Mark} (h : m.fits n = true) :
    m.fitsWithOffsets n = true := by
  cases m <;> first | rfl | exact h

/-- What can be followed without offsets can be with them. -/
lemma Mark.Meets.withOffsets {ms : List Mark} {m : Mark} (h : m.Meets ms) :
    m.MeetsWithOffsets ms := by
  cases m with
  | atom a => exact Or.inl h
  | operator op =>
    obtain ⟨m, hm, hstarts⟩ := h
    exact ⟨m, hm, by simp [Mark.opensOperand, hstarts]⟩
  | space blanks => exact h
  | _ => trivial

/-- The marks of a tree flow as marks without offsets do. -/
lemma Flows.withOffsets {n : Nesting} {ms : List Mark} (h : Flows n ms) :
    FlowsWithOffsets n ms := by
  induction ms generalizing n with
  | nil => trivial
  | cons m ms ih =>
    exact ⟨Mark.fitsWithOffsets_of_fits h.1, h.2.1.withOffsets, ih h.2.2⟩

namespace FlowsWithOffsets

variable {n : Nesting} {ms : List Mark}

/-- Blanks may stand in front of anything else. -/
lemma spaces_append {m : Mark} (hm : m.isSpace = false) (h : FlowsWithOffsets n (m :: ms))
    (lead : Option Text) : FlowsWithOffsets n (Mark.spaces lead ++ m :: ms) := by
  cases lead with
  | none => exact h
  | some blanks => exact ⟨rfl, ⟨m, rfl, hm⟩, h⟩

/-- Marks that flow with blanks in front of them flow without these. -/
lemma of_spaces_append {lead : Option Text} (h : FlowsWithOffsets n (Mark.spaces lead ++ ms)) :
    FlowsWithOffsets n ms := by
  cases lead with
  | none => exact h
  | some blanks => exact h.2.2

end FlowsWithOffsets

end GridFormula
