import GridFormula.Formula.Tree
import Mathlib.Data.List.Forall2

/-!
# Trees of one shape

Two trees have one shape if they differ in their atoms only: all operators, calls, brackets and
blanks are the same. A relation between atoms is then carried over to trees, atom by atom. Changing
the atoms of a tree by a function gives a tree of its shape.
-/

namespace GridFormula

namespace Tree

/-- Induction over trees, with the hypothesis for every member of a list of trees. -/
@[elab_as_elim]
theorem memberInduction {motive : Tree → Prop}
    (atom : ∀ lead a, motive (.atom lead a))
    (signed : ∀ lead sign t, motive t → motive (.signed lead sign t))
    (percent : ∀ lead t, motive t → motive (.percent lead t))
    (binary : ∀ lead op s t, motive s → motive t → motive (.binary lead op s t))
    (call : ∀ lead function ts inner, (∀ t ∈ ts, motive t) → motive (.call lead function ts inner))
    (parens : ∀ lead t inner, motive t → motive (.parens lead t inner))
    (array : ∀ lead rows inner, (∀ row ∈ rows, ∀ t ∈ row, motive t) →
      motive (.array lead rows inner))
    (t : Tree) : motive t := by
  refine Tree.rec (motive_1 := motive) (motive_2 := fun ts => ∀ t ∈ ts, motive t)
    (motive_3 := fun rows => ∀ row ∈ rows, ∀ t ∈ row, motive t) atom signed percent binary
    (fun lead function ts inner ih => call lead function ts inner ih) parens
    (fun lead rows inner ih => array lead rows inner ih) ?_ ?_ ?_ ?_ t
  · exact fun _ h => absurd h List.not_mem_nil
  · exact fun t ts ht hts => List.forall_mem_cons.mpr ⟨ht, hts⟩
  · exact fun _ h => absurd h List.not_mem_nil
  · exact fun row rows hrow hrows => List.forall_mem_cons.mpr ⟨hrow, hrows⟩

/-- Two trees of one shape whose atoms, place by place, are related. -/
inductive Alike (R : Atom → Atom → Prop) : Tree → Tree → Prop where
  | atom {lead a b} : R a b → Alike R (.atom lead a) (.atom lead b)
  | signed {lead sign s t} : Alike R s t → Alike R (.signed lead sign s) (.signed lead sign t)
  | percent {lead s t} : Alike R s t → Alike R (.percent lead s) (.percent lead t)
  | binary {lead op s s' t t'} :
    Alike R s t → Alike R s' t' → Alike R (.binary lead op s s') (.binary lead op t t')
  | call {lead function ss ts inner} :
    List.Forall₂ (Alike R) ss ts →
      Alike R (.call lead function ss inner) (.call lead function ts inner)
  | parens {lead s t inner} : Alike R s t → Alike R (.parens lead s inner) (.parens lead t inner)
  | array {lead rows rows' inner} :
    List.Forall₂ (List.Forall₂ (Alike R)) rows rows' →
      Alike R (.array lead rows inner) (.array lead rows' inner)

/-- Changing the atoms of a tree keeps its shape. -/
theorem alike_mapAtoms {R : Atom → Atom → Prop} {f : Atom → Atom} (h : ∀ a, R a (f a)) (t : Tree) :
    Alike R t (t.mapAtoms f) := by
  induction t using memberInduction with
  | atom lead a => exact .atom (h a)
  | signed lead sign t ih => exact .signed ih
  | percent lead t ih => exact .percent ih
  | binary lead op s t ihs iht => exact .binary ihs iht
  | call lead function ts inner ih =>
    rw [mapAtoms, mapAtomsList_eq_map]
    exact .call (List.forall₂_map_right_iff.mpr (List.forall₂_same.mpr ih))
  | parens lead t inner ih => exact .parens ih
  | array lead rows inner ih =>
    rw [mapAtoms, mapAtomsRows_eq_map]
    refine .array (List.forall₂_map_right_iff.mpr (List.forall₂_same.mpr fun row hrow => ?_))
    exact List.forall₂_map_right_iff.mpr (List.forall₂_same.mpr (ih row hrow))

/-- Leaving every atom as it is leaves the tree as it is. -/
theorem mapAtoms_id (t : Tree) : t.mapAtoms id = t := by
  induction t using memberInduction with
  | atom lead a => rfl
  | signed lead sign t ih => rw [mapAtoms, ih]
  | percent lead t ih => rw [mapAtoms, ih]
  | binary lead op s t ihs iht => rw [mapAtoms, ihs, iht]
  | call lead function ts inner ih =>
    rw [mapAtoms, mapAtomsList_eq_map, List.map_congr_left ih, List.map_id']
  | parens lead t inner ih => rw [mapAtoms, ih]
  | array lead rows inner ih =>
    have hrow : ∀ row ∈ rows, row.map (mapAtoms id) = row := fun row hrow => by
      rw [List.map_congr_left (ih row hrow), List.map_id']
    rw [mapAtoms, mapAtomsRows_eq_map, List.map_congr_left hrow, List.map_id']

/-- Changing the atoms twice is changing them once by both functions. -/
theorem mapAtoms_mapAtoms (f g : Atom → Atom) (t : Tree) :
    (t.mapAtoms f).mapAtoms g = t.mapAtoms (g ∘ f) := by
  induction t using memberInduction with
  | atom lead a => rfl
  | signed lead sign t ih => simp only [mapAtoms, ih]
  | percent lead t ih => simp only [mapAtoms, ih]
  | binary lead op s t ihs iht => simp only [mapAtoms, ihs, iht]
  | call lead function ts inner ih =>
    have hts : ∀ t ∈ ts, (mapAtoms g ∘ mapAtoms f) t = mapAtoms (g ∘ f) t := ih
    simp only [mapAtoms, mapAtomsList_eq_map, List.map_map]
    rw [List.map_congr_left hts]
  | parens lead t inner ih => simp only [mapAtoms, ih]
  | array lead rows inner ih =>
    have hrow : ∀ row ∈ rows, (List.map (mapAtoms g) ∘ List.map (mapAtoms f)) row =
        row.map (mapAtoms (g ∘ f)) := fun row hrow => by
      rw [Function.comp_apply, List.map_map]
      exact List.map_congr_left (ih row hrow)
    simp only [mapAtoms, mapAtomsRows_eq_map, List.map_map]
    rw [List.map_congr_left hrow]

end Tree

end GridFormula
