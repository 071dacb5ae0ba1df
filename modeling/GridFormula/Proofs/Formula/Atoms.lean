import GridFormula.Formula.Mark
import GridFormula.Proofs.Formula.Shape

/-!
# The atoms of a formula

The atoms of a tree are those of its parts, one after the other. A change of the atoms is seen in
the atoms alone, and two changes that do the same to each of them do the same to the tree.
-/

namespace GridFormula

namespace Tree

/-- Separators that are not picked leave no trace in what is picked from a separated list. -/
lemma filterMap_intercalate {α β : Type} {f : α → Option β} {sep : List α}
    (h : sep.filterMap f = []) (xss : List (List α)) :
    (sep.intercalate xss).filterMap f = xss.flatMap (List.filterMap f) := by
  induction xss with
  | nil => rfl
  | cons xs xss ih =>
    cases xss with
    | nil => simp
    | cons ys yss =>
      rw [List.intercalate_cons_cons, List.filterMap_append, List.filterMap_append, h, ih]
      simp

/-- There are no atoms among blanks. -/
lemma filterMap_spaces (lead : Option Text) : (Mark.spaces lead).filterMap Mark.atom? = [] := by
  cases lead <;> rfl

/-- A lone atom is the only one. -/
@[simp] lemma atoms_atom (lead : Option Text) (a : Atom) : (atom lead a).atoms = [a] := by
  rw [atoms, marks, List.filterMap_append, filterMap_spaces]
  exact rfl

/-- A sign adds no atoms. -/
@[simp] lemma atoms_signed (lead : Option Text) (sign : Sign) (t : Tree) :
    (signed lead sign t).atoms = t.atoms := by
  rw [atoms, marks, List.filterMap_append, filterMap_spaces]
  exact rfl

/-- A percent sign adds no atoms. -/
@[simp] lemma atoms_percent (lead : Option Text) (t : Tree) :
    (percent lead t).atoms = t.atoms := by
  rw [atoms, marks, List.filterMap_append, List.filterMap_append, filterMap_spaces,
    List.append_nil]
  exact List.append_nil _

/-- An operator has the atoms of its left operand and then those of its right one. -/
@[simp] lemma atoms_binary (lead : Option Text) (op : BinaryOp) (s t : Tree) :
    (binary lead op s t).atoms = s.atoms ++ t.atoms := by
  rw [atoms, marks, List.filterMap_append, List.filterMap_append, filterMap_spaces,
    List.append_nil]
  exact rfl

/-- Parentheses add no atoms. -/
@[simp] lemma atoms_parens (lead : Option Text) (t : Tree) (inner : Option Text) :
    (parens lead t inner).atoms = t.atoms := by
  rw [atoms, marks, List.filterMap_append, filterMap_spaces, List.nil_append]
  have hinner : (t.marks ++ Mark.spaces inner ++ [Mark.closeParen]).filterMap Mark.atom? =
      t.atoms := by
    rw [List.filterMap_append, List.filterMap_append, filterMap_spaces, List.append_nil]
    exact List.append_nil _
  exact hinner

/-- A call has the atoms of its arguments. -/
@[simp] lemma atoms_call (lead : Option Text) (function : Text) (ts : List Tree)
    (inner : Option Text) : (call lead function ts inner).atoms = ts.flatMap atoms := by
  have harguments : ([Mark.argumentSeparator].intercalate (ts.map marks) ++ Mark.spaces inner ++
      [Mark.closeParen]).filterMap Mark.atom? = ts.flatMap atoms := by
    rw [List.filterMap_append, List.filterMap_append, filterMap_spaces, List.append_nil,
      filterMap_intercalate rfl, List.flatMap_map]
    exact List.append_nil _
  rw [atoms, marks_call, List.filterMap_append, filterMap_spaces, List.nil_append]
  exact harguments

/-- An array has the atoms of its rows. -/
@[simp] lemma atoms_array (lead : Option Text) (rows : List (List Tree)) (inner : Option Text) :
    (array lead rows inner).atoms = rows.flatMap fun row => row.flatMap atoms := by
  have hrow : ∀ row : List Tree,
      ([Mark.columnSeparator].intercalate (row.map marks)).filterMap Mark.atom? =
        row.flatMap atoms := by
    intro row
    rw [filterMap_intercalate rfl, List.flatMap_map]
    exact rfl
  have hrows : ([Mark.rowSeparator].intercalate
      (rows.map fun row => [Mark.columnSeparator].intercalate (row.map marks)) ++
        Mark.spaces inner ++ [Mark.closeBrace]).filterMap Mark.atom? =
      rows.flatMap fun row => row.flatMap atoms := by
    rw [List.filterMap_append, List.filterMap_append, filterMap_spaces, List.append_nil,
      filterMap_intercalate rfl, List.flatMap_map]
    simp only [hrow]
    exact List.append_nil _
  rw [atoms, marks_array, List.filterMap_append, filterMap_spaces, List.nil_append]
  exact hrows

/-- The atoms of a changed tree. -/
theorem atoms_mapAtoms (f : Atom → Atom) (t : Tree) : (t.mapAtoms f).atoms = t.atoms.map f := by
  induction t using memberInduction with
  | atom lead a => simp [mapAtoms]
  | signed lead sign t ih => simp [mapAtoms, ih]
  | percent lead t ih => simp [mapAtoms, ih]
  | binary lead op s t ihs iht => simp [mapAtoms, ihs, iht]
  | call lead function ts inner ih =>
    rw [mapAtoms, mapAtomsList_eq_map, atoms_call, atoms_call, List.flatMap_map,
      List.map_flatMap]
    exact List.flatMap_congr ih
  | parens lead t inner ih => simp [mapAtoms, ih]
  | array lead rows inner ih =>
    rw [mapAtoms, mapAtomsRows_eq_map, atoms_array, atoms_array, List.flatMap_map,
      List.map_flatMap]
    refine List.flatMap_congr fun row hrow => ?_
    rw [List.flatMap_map, List.map_flatMap]
    exact List.flatMap_congr (ih row hrow)

/-- Two changes that do the same to each atom of a tree do the same to the tree. -/
theorem mapAtoms_congr {f g : Atom → Atom} {t : Tree} (h : ∀ a ∈ t.atoms, f a = g a) :
    t.mapAtoms f = t.mapAtoms g := by
  induction t using memberInduction with
  | atom lead a => simpa [mapAtoms] using h
  | signed lead sign t ih =>
    rw [atoms_signed] at h
    rw [mapAtoms, mapAtoms, ih h]
  | percent lead t ih =>
    rw [atoms_percent] at h
    rw [mapAtoms, mapAtoms, ih h]
  | binary lead op s t ihs iht =>
    rw [atoms_binary, List.forall_mem_append] at h
    rw [mapAtoms, mapAtoms, ihs h.1, iht h.2]
  | call lead function ts inner ih =>
    have hts : ∀ t ∈ ts, mapAtoms f t = mapAtoms g t := by
      refine fun t ht => ih t ht fun a ha => h a ?_
      rw [atoms_call]
      exact List.mem_flatMap.mpr ⟨t, ht, ha⟩
    rw [mapAtoms, mapAtoms, mapAtomsList_eq_map, mapAtomsList_eq_map, List.map_congr_left hts]
  | parens lead t inner ih =>
    rw [atoms_parens] at h
    rw [mapAtoms, mapAtoms, ih h]
  | array lead rows inner ih =>
    have hrows : ∀ row ∈ rows, row.map (mapAtoms f) = row.map (mapAtoms g) := by
      refine fun row hrow => List.map_congr_left fun t ht => ih row hrow t ht fun a ha => h a ?_
      rw [atoms_array]
      exact List.mem_flatMap.mpr ⟨row, hrow, List.mem_flatMap.mpr ⟨t, ht, ha⟩⟩
    rw [mapAtoms, mapAtoms, mapAtomsRows_eq_map, mapAtomsRows_eq_map, List.map_congr_left hrows]

/-- A tree stays as it is where all its atoms do. -/
lemma mapAtoms_eq_self {f : Atom → Atom} {t : Tree} (h : ∀ a ∈ t.atoms, f a = a) :
    t.mapAtoms f = t :=
  (mapAtoms_congr h).trans t.mapAtoms_id

/-- A change leaves a tree as it is only if it does so to each of its atoms. -/
lemma mapAtoms_eq_self_iff {f : Atom → Atom} {t : Tree} :
    t.mapAtoms f = t ↔ ∀ a ∈ t.atoms, f a = a := by
  refine ⟨fun h => ?_, mapAtoms_eq_self⟩
  have hatoms : t.atoms.map f = t.atoms.map id := by rw [← atoms_mapAtoms, h, List.map_id]
  exact List.map_inj_left.mp hatoms

end Tree

end GridFormula
