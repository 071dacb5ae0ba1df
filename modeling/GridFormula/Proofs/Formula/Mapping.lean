import GridFormula.Proofs.Formula.WrittenBlanks

/-!
# Changing the atoms of a formula

An edit changes the atoms of a tree and nothing else. As long as no argument is left out that was
not, and none is written that was left out, the marks change in the same way, the tree stays
canonical, and the blanks stay where they have a place.
-/

namespace GridFormula

/-- Changes the atom that the mark is. -/
def Mark.mapAtom (f : Atom → Atom) : Mark → Mark
  | atom a => .atom (f a)
  | m => m

namespace Mark

variable (f : Atom → Atom)

/-- Changing atoms does not make blanks. -/
@[simp] lemma isSpace_mapAtom (m : Mark) : (m.mapAtom f).isSpace = m.isSpace := by
  cases m <;> rfl

/-- Changing atoms does not change symbols. -/
@[simp] lemma symbol?_mapAtom (m : Mark) : (m.mapAtom f).symbol? = m.symbol? := by
  cases m <;> rfl

/-- Changing atoms does not change functions. -/
@[simp] lemma function?_mapAtom (m : Mark) : (m.mapAtom f).function? = m.function? := by
  cases m <;> rfl

/-- Changing atoms does not make separators. -/
lemma mapAtom_eq_argumentSeparator {m : Mark} :
    m.mapAtom f = .argumentSeparator ↔ m = .argumentSeparator := by
  cases m <;> simp [mapAtom]

/-- Changing atoms does not change blanks. -/
lemma map_mapAtom_spaces (lead : Option Text) : (spaces lead).map (mapAtom f) = spaces lead := by
  cases lead <;> rfl

end Mark

/-- The blanks stay where they have a place. -/
lemma NeatMarks.map {b : Bool} {ms : List Mark} (h : NeatMarks b ms) (f : Atom → Atom) :
    NeatMarks b (ms.map (Mark.mapAtom f)) := by
  induction ms generalizing b with
  | nil => trivial
  | cons m ms ih =>
    obtain ⟨hblanks, hms⟩ := h
    refine ⟨fun hspace m' hm' s hs => ?_, ?_⟩
    · rw [Mark.isSpace_mapAtom] at hspace
      rw [List.head?_map] at hm'
      obtain ⟨m₀, hm₀, rfl⟩ := Option.map_eq_some_iff.mp hm'
      rw [Mark.symbol?_mapAtom] at hs
      exact hblanks hspace m₀ hm₀ s hs
    · simp only [Mark.mapAtom_eq_argumentSeparator]
      exact ih hms

namespace Tree

section

variable (f : Atom → Atom)

/-- A map of a joined list joins the maps. -/
lemma map_intercalate {α β : Type} (g : α → β) (sep : List α) (xss : List (List α)) :
    (sep.intercalate xss).map g = (sep.map g).intercalate (xss.map (List.map g)) := by
  induction xss with
  | nil => rfl
  | cons xs xss ih =>
    by_cases hne : xss = []
    · subst hne
      rw [List.map_singleton, List.intercalate_singleton, List.intercalate_singleton]
    · have hne' : xss.map (List.map g) ≠ [] := by simpa using hne
      rw [List.map_cons, Reader.intercalate_cons sep xs hne,
        Reader.intercalate_cons (sep.map g) (xs.map g) hne', List.map_append, List.map_append, ih]

/-- The marks of arguments are changed one by one. -/
lemma map_marks_mapAtoms {ts : List Tree}
    (h : ∀ t ∈ ts, (t.mapAtoms f).marks = t.marks.map (Mark.mapAtom f)) :
    (ts.map (mapAtoms f)).map marks = (ts.map marks).map (List.map (Mark.mapAtom f)) := by
  rw [List.map_map, List.map_map]
  exact List.map_congr_left h

/-- The marks of rows are changed one by one. -/
lemma map_rowMarks_mapAtoms {rows : List (List Tree)}
    (h : ∀ row ∈ rows, ∀ t ∈ row, (t.mapAtoms f).marks = t.marks.map (Mark.mapAtom f)) :
    ((rows.map (List.map (mapAtoms f))).map fun row =>
        [Mark.columnSeparator].intercalate (row.map marks)) =
      (rows.map fun row => [Mark.columnSeparator].intercalate (row.map marks)).map
        (List.map (Mark.mapAtom f)) := by
  rw [List.map_map, List.map_map]
  refine List.map_congr_left fun row hrow => ?_
  rw [Function.comp_apply, Function.comp_apply, map_intercalate, map_marks_mapAtoms f (h row hrow)]
  rfl

/-- The marks of a tree change with its atoms. -/
theorem marks_mapAtoms (t : Tree) : (t.mapAtoms f).marks = t.marks.map (Mark.mapAtom f) := by
  induction t using memberInduction with
  | atom lead a =>
    rw [mapAtoms, marks, marks, List.map_append, Mark.map_mapAtom_spaces]
    rfl
  | signed lead sign t ih =>
    rw [mapAtoms, marks, marks, List.map_append, Mark.map_mapAtom_spaces, List.map_cons, ih]
    rfl
  | percent lead t ih =>
    rw [mapAtoms, marks, marks, List.map_append, List.map_append, Mark.map_mapAtom_spaces, ih]
    rfl
  | binary lead op s t ihs iht =>
    rw [mapAtoms, marks, marks, List.map_append, List.map_append, Mark.map_mapAtom_spaces,
      List.map_cons, ihs, iht]
    rfl
  | call lead function ts inner ih =>
    rw [mapAtoms, mapAtomsList_eq_map, marks_call, marks_call, map_marks_mapAtoms f ih,
      List.map_append, List.map_cons, List.map_append, List.map_append, map_intercalate,
      Mark.map_mapAtom_spaces, Mark.map_mapAtom_spaces]
    rfl
  | parens lead t inner ih =>
    rw [mapAtoms, marks, marks, List.map_append, List.map_cons, List.map_append, List.map_append,
      Mark.map_mapAtom_spaces, Mark.map_mapAtom_spaces, ih]
    rfl
  | array lead rows inner ih =>
    rw [mapAtoms, mapAtomsRows_eq_map, marks_array, marks_array, map_rowMarks_mapAtoms f ih,
      List.map_append, List.map_cons, List.map_append, List.map_append, map_intercalate,
      Mark.map_mapAtom_spaces, Mark.map_mapAtom_spaces]
    rfl

/-- Changing atoms does not change functions. -/
lemma functions_mapAtoms (t : Tree) : (t.mapAtoms f).functions = t.functions := by
  rw [functions, functions, marks_mapAtoms, List.filterMap_map]
  congr 1
  funext m
  exact Mark.function?_mapAtom f m

/-- Changing atoms does not change how tightly a tree binds. -/
lemma level_mapAtoms (t : Tree) : (t.mapAtoms f).level = t.level := by
  cases t <;> rfl

end

section

variable {f : Atom → Atom} (hf : ∀ a, f a = .omitted ↔ a = .omitted)

include hf

/-- If no atom is omitted or filled, no argument is. -/
lemma isOmitted_mapAtoms {t : Tree} : (t.mapAtoms f).IsOmitted ↔ t.IsOmitted := by
  cases t with
  | atom lead a => simp [mapAtoms, IsOmitted, hf]
  | _ => simp [mapAtoms, IsOmitted]

/-- If no atom is omitted or filled, the spelling changes mark by mark. -/
lemma spelling_mapAtoms (t : Tree) : (t.mapAtoms f).spelling = t.spelling.map (Mark.mapAtom f) := by
  have hwritten : Mark.isWritten ∘ Mark.mapAtom f = Mark.isWritten := by
    funext m
    cases m with
    | atom a => simp [Mark.mapAtom, Mark.isWritten, hf]
    | _ => rfl
  rw [spelling, spelling, marks_mapAtoms, List.filter_map, hwritten]

/-- The tree stays canonical. -/
theorem Canonical.mapAtoms {t : Tree} (h : t.Canonical) : (t.mapAtoms f).Canonical := by
  -- The rules look at levels, omissions and the widths of rows, none of which changes.
  induction t using memberInduction with
  | atom lead a =>
    cases h with
    | atom ha => exact .atom fun h => ha ((hf a).mp h)
  | signed lead sign t ih =>
    cases h with
    | signed ht hlevel => exact .signed (ih ht) (by rwa [level_mapAtoms])
  | percent lead t ih =>
    cases h with
    | percent ht hlevel => exact .percent (ih ht) (by rwa [level_mapAtoms])
  | binary lead op s t ihs iht =>
    cases h with
    | binary hs ht hslevel htlevel =>
      exact .binary (ihs hs) (iht ht) (by rwa [level_mapAtoms]) (by rwa [level_mapAtoms])
  | call lead function ts inner ih =>
    cases h with
    | call hts hsole hlast =>
      rw [Tree.mapAtoms, mapAtomsList_eq_map]
      refine .call ?_ ?_ ?_
      · intro t' ht' hno
        obtain ⟨t, ht, rfl⟩ := List.mem_map.mp ht'
        rw [isOmitted_mapAtoms hf] at hno
        exact ih t ht (hts t ht hno)
      · intro t' ht'
        obtain ⟨t, rfl, rfl⟩ := List.map_eq_singleton_iff.mp ht'
        rw [isOmitted_mapAtoms hf]
        exact hsole t rfl
      · intro t' ht' homitted
        rw [List.getLast?_map] at ht'
        obtain ⟨t, ht, rfl⟩ := Option.map_eq_some_iff.mp ht'
        exact hlast t ht ((isOmitted_mapAtoms hf).mp homitted)
  | parens lead t inner ih =>
    cases h with
    | parens ht => exact .parens (ih ht)
  | array lead rows inner ih =>
    cases h with
    | array hne hrow hrows heven =>
      rw [Tree.mapAtoms, mapAtomsRows_eq_map]
      refine .array (by simpa using hne) ?_ ?_ ((areEven_map _ rows).trans heven)
      · intro row' hrow'
        obtain ⟨row, hmem, rfl⟩ := List.mem_map.mp hrow'
        simpa using hrow row hmem
      · intro row' hrow' t' ht'
        obtain ⟨row, hmem, rfl⟩ := List.mem_map.mp hrow'
        obtain ⟨t, ht, rfl⟩ := List.mem_map.mp ht'
        exact ih row hmem t ht (hrows row hmem t ht)

end

end Tree

end GridFormula
