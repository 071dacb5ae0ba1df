import GridFormula.Locale.Basic
import Mathlib.Tactic.Common

/-!
# The canonical names of functions

A function goes by the canonical name that its locale has for it, or else by its own name in upper
case. The second is the case if and only if the name in upper case is not in the table of the
locale. So a canonical name means its function wherever it is not taken by another one.
-/

namespace GridFormula.Locale

/-- The name is a local name in the table of functions. -/
def Takes (l : Locale) (name : Text) : Prop :=
  name ∈ l.functionNames.map Prod.fst

instance (l : Locale) (name : Text) : Decidable (l.Takes name) :=
  inferInstanceAs (Decidable (name ∈ l.functionNames.map Prod.fst))

/-- A function is found in the table by its name in upper case, or goes by this name. -/
lemma canonicalName_cases (l : Locale) (name : Text) :
    (Text.upper name, l.canonicalName name) ∈ l.functionNames ∨
      ¬l.Takes (Text.upper name) ∧ l.canonicalName name = Text.upper name := by
  cases hlookup : l.functionNames.lookup (Text.upper name) with
  | some function =>
    obtain ⟨s, t, hst, -⟩ := List.lookup_eq_some_iff.mp hlookup
    rw [canonicalName, hlookup, Option.getD_some]
    exact Or.inl (by rw [hst]; simp)
  | none =>
    rw [canonicalName, hlookup, Option.getD_none]
    refine Or.inr ⟨fun htakes => ?_, rfl⟩
    obtain ⟨entry, hentry, hname⟩ := List.mem_map.mp htakes
    have hne := List.lookup_eq_none_iff.mp hlookup entry hentry
    simp [hname] at hne

/-- A name in upper case that is not taken is canonical. -/
lemma canonicalName_eq_self {l : Locale} {name : Text} (h : ¬l.Takes name)
    (hupper : Text.upper name = name) : l.canonicalName name = name := by
  rcases l.canonicalName_cases name with hentry | ⟨-, heq⟩
  · rw [hupper] at hentry
    exact absurd (List.mem_map_of_mem (f := Prod.fst) hentry) h
  · exact heq.trans hupper

end GridFormula.Locale
