import GridFormula.Proofs.Formula.Atoms
import GridFormula.Proofs.Formula.Legible
import GridFormula.Proofs.Formula.OffsetMarks

/-!
# What a formula consists of

Apart from operators, brackets and blanks a formula consists of atoms and of calls. Nothing comes
into a formula that is not in its text: its functions are those that its lexemes call, and its atoms
are made by single lexemes or out of atoms before. So what holds of these, and is kept where two
ends are joined or an offset is resolved, holds of everything that a formula consists of.
-/

namespace GridFormula

variable {P : Atom → Prop} {Q : Text → Prop}

/-- The property holds of the mark if it is an atom, or else of the function that it calls. -/
def Mark.Satisfies (P : Atom → Prop) (Q : Text → Prop) : Mark → Prop
  | .atom a => P a
  | .call function => Q function
  | _ => True

namespace Tree

/-- The atoms of the tree have one property, and the functions that it calls another. -/
def ConsistsOf (P : Atom → Prop) (Q : Text → Prop) (t : Tree) : Prop :=
  ∀ m ∈ t.marks, m.Satisfies P Q

/-- The atoms of the tree have the first property. -/
lemma ConsistsOf.atoms {t : Tree} (h : t.ConsistsOf P Q) : ∀ a ∈ t.atoms, P a := by
  intro a ha
  obtain ⟨m, hm, hatom⟩ := List.mem_filterMap.mp ha
  cases m <;> cases hatom
  exact h _ hm

/-- The functions of the tree have the second property. -/
lemma ConsistsOf.functions {t : Tree} (h : t.ConsistsOf P Q) : ∀ f ∈ t.functions, Q f := by
  intro f hf
  obtain ⟨m, hm, hcall⟩ := List.mem_filterMap.mp hf
  cases m <;> cases hcall
  exact h _ hm

/-- What holds of the separator and of all members holds of the joined list. -/
lemma forall_mem_intercalate {α : Type} {R : α → Prop} {sep : List α} (hsep : ∀ x ∈ sep, R x)
    {xss : List (List α)} (h : ∀ xs ∈ xss, ∀ x ∈ xs, R x) : ∀ x ∈ sep.intercalate xss, R x := by
  induction xss with
  | nil => simp
  | cons xs xss ih =>
    obtain ⟨hxs, hxss⟩ := List.forall_mem_cons.mp h
    cases xss with
    | nil => simpa using hxs
    | cons ys yss =>
      rw [List.intercalate_cons_cons, List.forall_mem_append, List.forall_mem_append]
      exact ⟨⟨hxs, hsep⟩, ih hxss⟩

/-- Blanks satisfy any properties. -/
lemma satisfies_spaces (lead : Option Text) : ∀ m ∈ Mark.spaces lead, m.Satisfies P Q := by
  cases lead with
  | none => exact fun m hm => absurd hm List.not_mem_nil
  | some blanks => exact List.forall_mem_singleton.mpr trivial

/-- A lone atom has the properties that it has. -/
lemma consistsOf_atom (lead : Option Text) {a : Atom} (h : P a) : (atom lead a).ConsistsOf P Q :=
  List.forall_mem_append.mpr ⟨satisfies_spaces lead, List.forall_mem_singleton.mpr h⟩

/-- A sign does not change what a tree consists of. -/
lemma ConsistsOf.signed {t : Tree} (h : t.ConsistsOf P Q) (lead : Option Text) (sign : Sign) :
    (signed lead sign t).ConsistsOf P Q :=
  List.forall_mem_append.mpr ⟨satisfies_spaces lead, List.forall_mem_cons.mpr ⟨trivial, h⟩⟩

/-- A percent sign does not change what a tree consists of. -/
lemma ConsistsOf.percent {t : Tree} (h : t.ConsistsOf P Q) (lead : Option Text) :
    (percent lead t).ConsistsOf P Q :=
  List.forall_mem_append.mpr ⟨List.forall_mem_append.mpr ⟨h, satisfies_spaces lead⟩,
    List.forall_mem_singleton.mpr trivial⟩

/-- An operand put behind a tree with an operator adds what it consists of. -/
lemma ConsistsOf.append {s t : Tree} (hs : s.ConsistsOf P Q) (ht : t.ConsistsOf P Q)
    (lead : Option Text) (op : BinaryOp) : (s.append lead op t).ConsistsOf P Q := by
  rw [ConsistsOf, Reader.marks_append, List.forall_mem_append, List.forall_mem_append]
  exact ⟨hs, satisfies_spaces lead, List.forall_mem_cons.mpr ⟨trivial, ht⟩⟩

/-- Parentheses do not change what a tree consists of. -/
lemma ConsistsOf.parens {t : Tree} (h : t.ConsistsOf P Q) (lead inner : Option Text) :
    (parens lead t inner).ConsistsOf P Q := by
  rw [ConsistsOf, marks, List.forall_mem_append, List.forall_mem_cons, List.forall_mem_append,
    List.forall_mem_append]
  exact ⟨satisfies_spaces lead, trivial, ⟨h, satisfies_spaces inner⟩,
    List.forall_mem_singleton.mpr trivial⟩

/-- A call consists of its function and of what its arguments consist of. -/
lemma consistsOf_call {function : Text} {ts : List Tree} (hfunction : Q function)
    (h : ∀ t ∈ ts, t.ConsistsOf P Q) (lead inner : Option Text) :
    (call lead function ts inner).ConsistsOf P Q := by
  rw [ConsistsOf, marks_call, List.forall_mem_append, List.forall_mem_cons,
    List.forall_mem_append, List.forall_mem_append]
  refine ⟨satisfies_spaces lead, hfunction, ⟨?_, satisfies_spaces inner⟩,
    List.forall_mem_singleton.mpr trivial⟩
  exact forall_mem_intercalate (List.forall_mem_singleton.mpr trivial) (List.forall_mem_map.mpr h)

/-- An array consists of what its rows consist of. -/
lemma consistsOf_array {rows : List (List Tree)} (h : ∀ row ∈ rows, ∀ t ∈ row, t.ConsistsOf P Q)
    (lead inner : Option Text) : (array lead rows inner).ConsistsOf P Q := by
  rw [ConsistsOf, marks_array, List.forall_mem_append, List.forall_mem_cons,
    List.forall_mem_append, List.forall_mem_append]
  refine ⟨satisfies_spaces lead, trivial, ⟨?_, satisfies_spaces inner⟩,
    List.forall_mem_singleton.mpr trivial⟩
  refine forall_mem_intercalate (List.forall_mem_singleton.mpr trivial)
    (List.forall_mem_map.mpr fun row hrow => ?_)
  exact forall_mem_intercalate (List.forall_mem_singleton.mpr trivial)
    (List.forall_mem_map.mpr (h row hrow))

end Tree

/-! ## Atoms -/

/-- The atom refers to cells or lines. -/
def Atom.IsReference : Atom → Prop
  | .cell _ | .cells _ | .lines .. => True
  | _ => False

namespace Site

/-- The property holds of all references that are read at the site: of single cells, of areas and
runs between two ends, and of what offsets come to. Of anything else it holds by itself. -/
structure Ensures (site : Site) (P : Atom → Prop) : Prop where
  constant : ∀ a : Atom, ¬a.IsReference → P a
  cell : ∀ {w : WrittenCell} {name : Option Text} {r : CellRef},
    site.cellRef? w (site.writtenSheet name).join = some r → P (.cell r)
  cells : ∀ {r r' : CellRef} {q : Qualification} {sheet : Option SheetId},
    P (.cell r) → P (.cell r') → r.sheet = sheet → (q = .neither ↔ sheet = none) →
      P (.cells (.ofCells r { r' with sheet } q site.base))
  lines : ∀ {axis : Axis} {a b : WrittenLine} {name : Option Text} {r r' : LineRef}
    {q : Qualification}, site.lineRef? axis a (site.writtenSheet name).join = some r →
      site.lineRef? axis b (site.writtenSheet name).join = some r' →
        (q = .neither ↔ (site.writtenSheet name).join = none) →
          P (.lines axis (.ofLines axis r r' q site.base))
  offset : ∀ {ts : List Tree} {a : Atom}, (∀ t ∈ ts, ∀ a ∈ t.atoms, P a) →
    site.offset ts = .ok a → P a

/-- An optional value put inside and joined again is the same. -/
@[simp] lemma join_map_some {α : Type} (o : Option α) : (o.map some).join = o := by
  cases o <;> rfl

/-- The sheet of an area is the one that its first end names. -/
lemma sheet_of_compare {s t : Option (Option SheetId)} {sheet : Option SheetId} {q : Qualification}
    (h : EndSheets.compare s t = .agreed sheet q) : s.join = sheet := by
  unfold EndSheets.compare at h
  split at h
  · exact (EndSheets.agreed.inj h).1
  · cases h
  · exact (EndSheets.agreed.inj h).1
  · split at h
    · exact (EndSheets.agreed.inj h).1
    · cases h
  · cases h

namespace Ensures

variable {site : Site}

/-- The property holds of a written cell. -/
lemma of_cell (hP : site.Ensures P) (w : WrittenCell) (raw : Text) : P (site.cell w raw) := by
  unfold Site.cell
  split
  · exact hP.constant _ id
  · split
    · next hr => exact hP.cell hr
    · exact hP.constant _ id

/-- The property holds of an area between two written cells. -/
lemma of_cells? (hP : site.Ensures P) {a b : WrittenCell} {raw : Text} {atom : Atom}
    (h : site.cells? a b raw = some atom) : P atom := by
  cases Site.area?_eq_some_iff.mp h with
  | lost hcompare => exact hP.constant _ id
  | @found sheet q r r' hcompare hr hr' =>
    obtain rfl := sheet_of_compare hcompare
    have hlast : { r' with sheet := (site.writtenSheet a.sheet).join } = r' := by
      rw [← sheet_of_cellRef? hr']
    rw [← hlast]
    exact hP.cells (hP.cell hr) (hP.cell hr') (sheet_of_cellRef? hr) (agreed_of_compare hcompare)
  | beyond hcompare hnone => exact hP.constant _ id

/-- The property holds of a written run of lines. -/
lemma of_lines? (hP : site.Ensures P) {axis : Axis} {a b : WrittenLine} {raw : Text} {atom : Atom}
    (h : site.lines? axis a b raw = some atom) : P atom := by
  cases Site.area?_eq_some_iff.mp h with
  | lost hcompare => exact hP.constant _ id
  | found hcompare hr hr' =>
    obtain rfl := sheet_of_compare hcompare
    exact hP.lines hr hr' (agreed_of_compare hcompare)
  | beyond hcompare hnone => exact hP.constant _ id

/-- What one lexeme makes has the property. -/
lemma of_mark? (hP : site.Ensures P) {x : Spaced} {a : Atom}
    (h : site.mark? x = some (.atom a)) : P a := by
  unfold mark? at h
  split at h
  case h_5 =>
    cases h
    exact hP.of_cell _ _
  case h_6 =>
    obtain ⟨atom, hatom, ⟨⟩⟩ := Option.map_eq_some_iff.mp h
    exact hP.of_lines? hatom
  all_goals
    cases h
    try exact hP.constant _ id

/-- The property holds of the area between two ends that have been resolved. -/
lemma of_joined (hP : site.Ensures P) {raw : Text} {b b' a : Atom} (hb : P b) (hb' : P b')
    (h : Reader.joined site raw b b' = .ok a) : P a := by
  unfold Reader.joined at h
  split at h
  · next r r' =>
    split at h
    · cases h
    · cases h
      exact hP.constant _ id
    · next hcompare =>
      cases h
      have hsheet := sheet_of_compare hcompare
      rw [join_map_some] at hsheet
      exact hP.cells hb hb' hsheet (agreed_of_compare hcompare)
  all_goals
    cases h
    try exact hP.constant _ id

/-- What two ends come to has the property if both of them have. -/
lemma of_area (hP : site.Ensures P) {raw : Text} {e e' : Reader.AreaEnd} {a : Atom}
    (he : P (e.atom site)) (he' : P (e'.atom site)) (h : Reader.area site raw e e' = .ok a) :
    P a := by
  unfold Reader.area at h
  split at h
  · split at h
    · next ha =>
      cases h
      exact hP.of_cells? ha
    · cases h
  · exact hP.of_joined he he' h

end Ensures

end Site

/-! ## Phrases -/

namespace Reader

variable {site : Site}

/-- The phrase consists of what has the properties. Behind an operand, the whole does if the operand
does. -/
def Phrase.ConsistsOf (site : Site) (P : Atom → Prop) (Q : Text → Prop) : Phrase → Prop
  | expression t | operand t | primary t => t.ConsistsOf P Q
  | chain s t | percents s t => s.ConsistsOf P Q → t.ConsistsOf P Q
  | reference a => P a
  | areaEnd e => P (e.atom site)
  | arguments ts _ => ∀ t ∈ ts, t.ConsistsOf P Q
  | rows ts _ => ∀ row ∈ ts, ∀ t ∈ row, t.ConsistsOf P Q

/-- Dropping a sole omitted argument does not change what the arguments consist of. -/
lemma consistsOf_withoutSoleOmission {ts : List Tree} (h : ∀ t ∈ ts, t.ConsistsOf P Q)
    (inner : Option Text) : ∀ t ∈ (withoutSoleOmission (ts, inner)).1, t.ConsistsOf P Q := by
  rcases withoutSoleOmission_cases ts inner with ⟨lead, rfl, heq⟩ | ⟨-, heq⟩
  · rw [heq]
    exact fun t ht => absurd ht List.not_mem_nil
  · rwa [heq]

/-- Putting a tree in front of the first row adds what it consists of. -/
lemma consistsOf_intoFirstRow {t : Tree} {rows : List (List Tree)} (ht : t.ConsistsOf P Q)
    (hrows : ∀ row ∈ rows, ∀ t ∈ row, t.ConsistsOf P Q) :
    ∀ row ∈ intoFirstRow t rows, ∀ t ∈ row, t.ConsistsOf P Q := by
  cases rows with
  | nil => simpa [intoFirstRow] using ht
  | cons row rows =>
    obtain ⟨hrow, hrows⟩ := List.forall_mem_cons.mp hrows
    exact List.forall_mem_cons.mpr ⟨List.forall_mem_cons.mpr ⟨ht, hrow⟩, hrows⟩

/-- What is read consists of what the site ensures and of the functions that the lexemes call. -/
theorem Reads.consistsOf (hP : site.Ensures P) {p : Phrase} {xs rest : List Spaced}
    (h : Reads site p xs rest) (hQ : ∀ x ∈ xs, ∀ f, x.symbol = .call f → Q f) :
    p.ConsistsOf site P Q := by
  have htail : ∀ {x : Spaced} {xs : List Spaced},
      (∀ y ∈ x :: xs, ∀ f, y.symbol = .call f → Q f) → ∀ y ∈ xs, ∀ f, y.symbol = .call f → Q f :=
    fun h => (List.forall_mem_cons.mp h).2
  have hrest : ∀ {p : Phrase} {xs ys : List Spaced}, Reads site p xs ys →
      (∀ x ∈ xs, ∀ f, x.symbol = .call f → Q f) → ∀ y ∈ ys, ∀ f, y.symbol = .call f → Q f :=
    fun h hQ y hy => hQ y (h.isSuffix.subset hy)
  induction h with
  | expression hs _ ihs iht => exact iht (hrest hs hQ) (ihs hQ)
  | chainEnd _ => exact id
  | chainStep _ hr _ ihr ih =>
    exact fun hs => ih (hrest hr (htail hQ)) (hs.append (ihr (htail hQ)) _ _)
  | sign _ _ ih => exact (ih (htail hQ)).signed _ _
  | unsigned _ hp _ ihp ih => exact ih (hrest hp hQ) (ihp hQ)
  | percentsEnd _ => exact id
  | percentsStep _ _ ih => exact fun hs => ih (htail hQ) (hs.percent _)
  | constant _ ha => exact Tree.consistsOf_atom _ (hP.of_mark? ha)
  | reference _ ih => exact Tree.consistsOf_atom _ (ih hQ)
  | call hx _ ih =>
    exact Tree.consistsOf_call (hQ _ List.mem_cons_self _ hx)
      (consistsOf_withoutSoleOmission (ih (htail hQ)) _) _ _
  | parens _ _ _ ih => exact (ih (htail hQ)).parens _ _
  | array _ _ _ ih => exact Tree.consistsOf_array (ih (htail hQ)) _ _
  | lone _ _ ih => exact ih hQ
  | area he _ _ ha ihe ihe' => exact hP.of_area (ihe hQ) (ihe' (htail (hrest he hQ))) ha
  | @cell x w xs hx => exact hP.of_mark? (x := x) (by rw [Site.mark?, hx]; rfl)
  | offset _ _ ha ih =>
    exact hP.offset (fun t ht => (consistsOf_withoutSoleOmission (ih (htail hQ)) _ t ht).atoms) ha
  | lastOmitted _ =>
    exact List.forall_mem_singleton.mpr (Tree.consistsOf_atom _ (hP.constant .omitted id))
  | omitted _ _ ih =>
    exact List.forall_mem_cons.mpr ⟨Tree.consistsOf_atom _ (hP.constant .omitted id), ih (htail hQ)⟩
  | lastArgument _ _ ih => exact List.forall_mem_singleton.mpr (ih hQ)
  | argument ht _ _ iht ih =>
    exact List.forall_mem_cons.mpr ⟨iht hQ, ih (htail (hrest ht hQ))⟩
  | lastRow _ _ ih => exact List.forall_mem_singleton.mpr (List.forall_mem_singleton.mpr (ih hQ))
  | column ht _ _ iht ih => exact consistsOf_intoFirstRow (iht hQ) (ih (htail (hrest ht hQ)))
  | row ht _ _ iht ih =>
    exact List.forall_mem_cons.mpr
      ⟨List.forall_mem_singleton.mpr (iht hQ), ih (htail (hrest ht hQ))⟩

end Reader

namespace Site

/-- The tree of a reading that failed consists of one error value. -/
lemma consistsOf_failed {site : Site} (hP : site.Ensures P) (text : Text)
    (faults : List FormulaFault) : (Reading.failed text faults).tree.ConsistsOf P Q :=
  Tree.consistsOf_atom _ (hP.constant _ id)

/-- The tree of a text consists of what the site ensures and of the functions that its lexemes call.
-/
theorem consistsOf_read {site : Site} (hP : site.Ensures P) {text : Text}
    (hQ : ∀ xs, lex site.locale text = .ok xs → ∀ x ∈ spaced xs, ∀ f, x.symbol = .call f → Q f) :
    (site.read text).tree.ConsistsOf P Q := by
  unfold read
  split
  · next xs hlex =>
    unfold readLexemes
    split
    · next t ht =>
      obtain ⟨x, ys, hxs, -, -, hreads⟩ := Reader.formula_eq_ok_iff.mp ht
      have htail : ∀ y ∈ ys, ∀ f, y.symbol = .call f → Q f := fun y hy =>
        hQ xs hlex y (by rw [hxs]; exact List.mem_cons_of_mem x hy)
      exact hreads.consistsOf hP htail
    · exact consistsOf_failed hP _ _
  · exact consistsOf_failed hP _ _

/-- Whatever is read, its atoms have what the site ensures. -/
theorem forall_atoms_read {site : Site} (hP : site.Ensures P) (text : Text) :
    ∀ a ∈ (site.read text).tree.atoms, P a := by
  have hconsists : (site.read text).tree.ConsistsOf P fun _ => True :=
    consistsOf_read hP fun _ _ _ _ _ _ => trivial
  exact hconsists.atoms

end Site

end GridFormula
