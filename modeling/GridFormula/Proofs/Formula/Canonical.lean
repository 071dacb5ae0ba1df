import GridFormula.Proofs.Formula.AreaReading
import GridFormula.Proofs.Formula.Grammar

/-!
# Which trees are read

Not every tree is that of a formula. The operators of one level are grouped from left to right, a
sign stands in front of an operand and not of a whole sum, an argument may be left out only where
separators show it, and all rows of an array are equally long. Trees that keep to this are
canonical, and the reader gives no others. A canonical tree is told apart from all others by its
marks.
-/

namespace GridFormula

namespace Tree

/-- How closely the root of the tree binds: less than a sign if it is a binary operator, and more
if it is neither. -/
def level : Tree → Nat
  | binary _ op _ _ => op.level
  | signed .. => BinaryOp.signLevel
  | _ => BinaryOp.signLevel + 1

/-- Whether the tree stands for an argument that is left out. -/
def IsOmitted (t : Tree) : Prop :=
  ∃ lead, t = .atom lead .omitted

/-- The tree is grouped as the reader groups it. -/
inductive Canonical : Tree → Prop where
  | atom {lead a} : a ≠ .omitted → Canonical (.atom lead a)
  | signed {lead sign t} :
    Canonical t → BinaryOp.signLevel ≤ t.level → Canonical (.signed lead sign t)
  | percent {lead t} :
    Canonical t → BinaryOp.signLevel < t.level → Canonical (.percent lead t)
  | binary {lead op s t} :
    Canonical s → Canonical t → op.level ≤ s.level → op.level < t.level →
      Canonical (.binary lead op s t)
  | call {lead function ts inner} :
    (∀ t ∈ ts, ¬t.IsOmitted → Canonical t) → (∀ t, ts = [t] → ¬t.IsOmitted) →
      (∀ t, ts.getLast? = some t → t.IsOmitted → inner = none) →
        Canonical (.call lead function ts inner)
  | parens {lead t inner} : Canonical t → Canonical (.parens lead t inner)
  | array {lead rows inner} :
    rows ≠ [] → (∀ row ∈ rows, row ≠ []) → (∀ row ∈ rows, ∀ t ∈ row, Canonical t) →
      Reader.areEven rows = true → Canonical (.array lead rows inner)

/-- Whether rows are equally long does not depend on what stands in them. -/
lemma areEven_map (f : Tree → Tree) (rows : List (List Tree)) :
    Reader.areEven (rows.map (List.map f)) = Reader.areEven rows := by
  cases rows with
  | nil => rfl
  | cons row rows => simp [Reader.areEven, Function.comp_def]

/-- A canonical tree is not an omitted argument. -/
lemma Canonical.not_isOmitted {t : Tree} (h : t.Canonical) : ¬t.IsOmitted := by
  rintro ⟨lead, rfl⟩
  cases h with
  | atom h => exact h rfl

/-- Signs bind more tightly than operators. -/
lemma BinaryOp.level_lt_signLevel (op : BinaryOp) : op.level < BinaryOp.signLevel := by
  cases op <;> decide

/-- Attaching an operand makes a root that binds as closely as the looser of both operators. -/
lemma level_append (left : Tree) (lead : Option Text) (op : BinaryOp) (right : Tree) :
    (left.append lead op right).level = min left.level op.level := by
  have hlt := BinaryOp.level_lt_signLevel op
  fun_cases Tree.append left lead op right with
  | case1 lead' op' s t h =>
    simp only [level]
    omega
  | case2 lead' op' s t h =>
    simp only [level]
    omega
  | case3 left h =>
    have hleft : BinaryOp.signLevel ≤ left.level := by
      cases left with
      | binary lead' op' s t => exact absurd rfl (h lead' op' s t)
      | signed => exact Nat.le_refl _
      | _ => exact Nat.le_succ _
    rw [level]
    omega

/-- Attaching an operand keeps a tree canonical. -/
lemma Canonical.append {left right : Tree} (lead : Option Text) (op : BinaryOp)
    (hl : left.Canonical) (hr : right.Canonical) (hlevel : BinaryOp.signLevel ≤ right.level) :
    (left.append lead op right).Canonical := by
  have hop := BinaryOp.level_lt_signLevel op
  fun_induction Tree.append left lead op right with
  | case1 lead' op' s t hlt ih =>
    cases hl with
    | binary hs ht hslevel htlevel =>
      refine .binary hs (ih ht) hslevel ?_
      rw [level_append]
      omega
  | case2 lead' op' s t hlt =>
    refine .binary hl hr ?_ (by omega)
    rw [level]
    omega
  | case3 left h =>
    refine .binary hl hr ?_ (by omega)
    cases left with
    | binary lead' op' s t => exact absurd rfl (h lead' op' s t)
    | signed => exact Nat.le_of_lt hop
    | _ => exact Nat.le_of_lt (Nat.lt_succ_of_lt hop)

end Tree

namespace Reader

variable {site : Site}

/-! ## What is read is canonical -/

/-- The atom that a lexeme makes, unless it is a cell, is not an omitted one. -/
lemma not_omitted_of_mark? {x : Spaced} {a : Atom} (hcell : ∀ w, x.symbol ≠ .cell w)
    (h : site.mark? x = some (.atom a)) : a ≠ .omitted := by
  rintro rfl
  unfold Site.mark? at h
  split at h
  case h_5 w hx => exact hcell w hx
  case h_6 axis a b hx =>
    obtain ⟨a', ha, hlines⟩ := Option.map_eq_some_iff.mp h
    cases hlines
    cases Site.area?_eq_some_iff.mp ha
  all_goals cases h

/-- A written cell does not make an omitted atom. -/
lemma cell_ne_omitted (w : WrittenCell) (raw : Text) : site.cell w raw ≠ .omitted := by
  unfold Site.cell
  split
  · nofun
  · split <;> nofun

/-- An offset that is resolved starts from a cell, and its result has at least one row and one
column. -/
lemma offset_eq_ok {ts : List Tree} {a : Atom} (h : site.offset ts = .ok a) :
    ∃ lead origin numbers rows columns height width,
      ts = .atom lead (.cell origin) :: numbers ∧ 1 ≤ height ∧ 1 ≤ width ∧
        a = site.offsetFrom origin rows columns height width := by
  unfold Site.offset at h
  split at h
  · cases h
  · split at h
    · next lead origin numbers _ =>
      obtain ⟨rows, -, h⟩ := bind_eq_ok.mp h
      obtain ⟨columns, -, h⟩ := bind_eq_ok.mp h
      obtain ⟨height, -, h⟩ := bind_eq_ok.mp h
      obtain ⟨width, -, h⟩ := bind_eq_ok.mp h
      split at h
      · cases h
      · split at h
        · cases h
        · cases h
          exact ⟨lead, origin, numbers, rows, columns, height, width, rfl, by omega, by omega, rfl⟩
    · cases h

/-- An offset does not come to an omitted atom. -/
lemma offset_ne_omitted {ts : List Tree} {a : Atom} (h : site.offset ts = .ok a) :
    a ≠ .omitted := by
  obtain ⟨lead, origin, numbers, rows, columns, height, width, -, -, -, rfl⟩ := offset_eq_ok h
  unfold Site.offsetFrom
  dsimp only
  split
  · nofun
  · split <;> nofun

/-- Two written cells do not make an omitted atom. -/
lemma cells?_ne_omitted {w w' : WrittenCell} {raw : Text} {a : Atom}
    (h : site.cells? w w' raw = some a) : a ≠ .omitted := by
  rintro rfl
  cases Site.area?_eq_some_iff.mp h

/-- Two ends that are joined do not make an omitted atom. -/
lemma joined_ne_omitted {raw : Text} {b b' a : Atom}
    (h : joined site raw b b' = .ok a) : a ≠ .omitted := by
  rintro rfl
  unfold joined at h
  split at h
  · split at h <;> cases h
  all_goals cases h

/-- The two ends of an area do not make an omitted atom. -/
lemma area_ne_omitted {raw : Text} {e e' : AreaEnd} {a : Atom}
    (h : area site raw e e' = .ok a) : a ≠ .omitted := by
  unfold area at h
  split at h
  · split at h
    · next ha =>
      cases h
      exact cells?_ne_omitted ha
    · cases h
  · exact joined_ne_omitted h

/-- What is read of each phrase is canonical. Behind an operand, that of the whole follows from
that of the operand. -/
def Phrase.IsCanonical (site : Site) : Phrase → Prop
  | expression t => t.Canonical
  | chain s t => s.Canonical → t.Canonical
  | operand t => t.Canonical ∧ BinaryOp.signLevel ≤ t.level
  | percents s t =>
    s.Canonical ∧ BinaryOp.signLevel < s.level → t.Canonical ∧ BinaryOp.signLevel < t.level
  | primary t => t.Canonical ∧ BinaryOp.signLevel < t.level
  | reference a => a ≠ .omitted
  | areaEnd e => e.atom site ≠ .omitted
  | arguments ts inner =>
    ts ≠ [] ∧ (∀ t ∈ ts, ¬t.IsOmitted → t.Canonical) ∧
      ∀ t, ts.getLast? = some t → t.IsOmitted → inner = none
  | rows ts _ => ts ≠ [] ∧ (∀ row ∈ ts, row ≠ []) ∧ ∀ row ∈ ts, ∀ t ∈ row, t.Canonical

/-- Putting a canonical tree in front of the first row keeps all rows canonical. -/
lemma canonical_intoFirstRow {t : Tree} {rows : List (List Tree)} (ht : t.Canonical)
    (hne : ∀ row ∈ rows, row ≠ []) (hrows : ∀ row ∈ rows, ∀ t ∈ row, t.Canonical) :
    intoFirstRow t rows ≠ [] ∧ (∀ row ∈ intoFirstRow t rows, row ≠ []) ∧
      ∀ row ∈ intoFirstRow t rows, ∀ t ∈ row, t.Canonical := by
  cases rows with
  | nil => simpa [intoFirstRow] using ht
  | cons row rows =>
    obtain ⟨hrow, hrows⟩ := List.forall_mem_cons.mp hrows
    refine ⟨List.cons_ne_nil _ _, List.forall_mem_cons.mpr ⟨List.cons_ne_nil _ _, ?_⟩,
      List.forall_mem_cons.mpr ⟨List.forall_mem_cons.mpr ⟨ht, hrow⟩, hrows⟩⟩
    exact (List.forall_mem_cons.mp hne).2

/-- A call whose only argument is left out has no arguments; any other is left as it is. -/
lemma withoutSoleOmission_cases (ts : List Tree) (inner : Option Text) :
    (∃ lead, ts = [.atom lead .omitted] ∧ withoutSoleOmission (ts, inner) = ([], lead)) ∨
      ((∀ t, ts = [t] → ¬t.IsOmitted) ∧ withoutSoleOmission (ts, inner) = (ts, inner)) := by
  by_cases h : ∃ lead, ts = [.atom lead .omitted]
  · obtain ⟨lead, rfl⟩ := h
    exact Or.inl ⟨lead, rfl, rfl⟩
  · refine Or.inr ⟨?_, ?_⟩
    · rintro t rfl ⟨lead, rfl⟩
      exact h ⟨lead, rfl⟩
    · unfold withoutSoleOmission
      split
      · next lead _ heq =>
        cases heq
        exact absurd ⟨lead, rfl⟩ h
      · rfl

/-- The reader gives canonical trees only. -/
theorem Reads.isCanonical {p : Phrase} {xs rest : List Spaced} (h : Reads site p xs rest) :
    p.IsCanonical site := by
  -- For operands and primaries the invariant has a bound on the level too, without which they could
  -- not stand below a sign or an operator.
  induction h with
  | expression _ _ ihs iht => exact iht ihs.1
  | chainEnd _ => exact id
  | chainStep _ _ _ ihr ih => exact fun hs => ih (hs.append _ _ ihr.1 ihr.2)
  | sign _ _ ih => exact ⟨.signed ih.1 ih.2, Nat.le_refl _⟩
  | unsigned _ _ _ ihp ih => exact ⟨(ih ihp).1, Nat.le_of_lt (ih ihp).2⟩
  | percentsEnd _ => exact id
  | percentsStep _ _ ih => exact fun hs => ih ⟨.percent hs.1 hs.2, Nat.lt_succ_self _⟩
  | constant hcell ha => exact ⟨.atom (not_omitted_of_mark? hcell ha), Nat.lt_succ_self _⟩
  | reference _ ih => exact ⟨.atom ih, Nat.lt_succ_self _⟩
  | @call x function ts inner xs rest _ _ ih =>
    obtain ⟨hne, hts, hlast⟩ := ih
    refine ⟨?_, Nat.lt_succ_self _⟩
    rcases withoutSoleOmission_cases ts inner with ⟨lead, rfl, heq⟩ | ⟨hsole, heq⟩
    · rw [heq]
      exact .call nofun nofun nofun
    · rw [heq]
      exact .call hts hsole hlast
  | parens _ _ _ ih => exact ⟨.parens ih, Nat.lt_succ_self _⟩
  | array _ _ heven ih => exact ⟨.array ih.1 ih.2.1 ih.2.2 heven, Nat.lt_succ_self _⟩
  | lone _ _ ih => exact ih
  | area _ _ _ ha _ _ => exact area_ne_omitted ha
  | cell _ => exact cell_ne_omitted _ _
  | offset _ _ ha _ => exact offset_ne_omitted ha
  | lastOmitted _ =>
    refine ⟨List.cons_ne_nil _ _, ?_, fun _ _ _ => rfl⟩
    rintro t ht hno
    obtain rfl := List.mem_singleton.mp ht
    exact absurd ⟨_, rfl⟩ hno
  | omitted _ _ ih =>
    obtain ⟨hne, hts, hlast⟩ := ih
    refine ⟨List.cons_ne_nil _ _, ?_, ?_⟩
    · refine List.forall_mem_cons.mpr ⟨fun hno => absurd ⟨_, rfl⟩ hno, hts⟩
    · rintro t ht
      rw [List.getLast?_cons_of_ne_nil hne] at ht
      exact hlast t ht
  | lastArgument _ _ ih =>
    refine ⟨List.cons_ne_nil _ _, ?_, ?_⟩
    · rintro t ht -
      obtain rfl := List.mem_singleton.mp ht
      exact ih
    · rintro t ht homitted
      cases ht
      exact absurd homitted ih.not_isOmitted
  | argument _ _ _ iht ih =>
    obtain ⟨hne, hts, hlast⟩ := ih
    refine ⟨List.cons_ne_nil _ _, List.forall_mem_cons.mpr ⟨fun _ => iht, hts⟩, ?_⟩
    rintro t ht
    rw [List.getLast?_cons_of_ne_nil hne] at ht
    exact hlast t ht
  | lastRow _ _ ih => simpa [Phrase.IsCanonical] using ih
  | column _ _ _ iht ih => exact canonical_intoFirstRow iht ih.2.1 ih.2.2
  | row _ _ _ iht ih =>
    obtain ⟨-, hne, hts⟩ := ih
    refine ⟨List.cons_ne_nil _ _, List.forall_mem_cons.mpr ⟨List.cons_ne_nil _ _, hne⟩,
      List.forall_mem_cons.mpr ⟨?_, hts⟩⟩
    rintro t ht
    obtain rfl := List.mem_singleton.mp ht
    exact iht

/-- The tree of a formula is canonical. -/
theorem canonical_of_formula {xs : List Spaced} {t : Tree} (h : formula site xs = .ok t) :
    t.Canonical := by
  obtain ⟨x, ys, -, -, -, ht⟩ := formula_eq_ok_iff.mp h
  exact ht.isCanonical

end Reader

end GridFormula
