import GridFormula.Proofs.Formula.KeyReading
import GridFormula.Proofs.Formula.Offsets
import GridFormula.Proofs.Formula.Rereading

/-!
# Which trees cells can share

A tree may be kept for all cells whose texts have its key, unless it is bound to its place. This is
right for all formulas in which no offset is the end of an area: then texts with one key have one
tree in all cells. Where an offset is the end of an area, its other end may be a cell that is
written with a relative coordinate. Which end comes first then depends on the cell of the formula,
although the tree counts as not bound to its place.
-/

namespace GridFormula

/-! ## What may differ -/

/-- Two atoms that one pair of ends of an area can be joined to in formulas at two cells: the ends
come in the order that they have there. The text of an area that means nothing may differ too. -/
inductive Atom.Across (base base' : Cell) : Atom → Atom → Prop where
  | refl (a : Atom) : Across base base' a a
  | unreadable (raw raw' : Text) (e : ErrorValue) :
    Across base base' (.unreadable raw e) (.unreadable raw' e)
  | cells (first last : CellRef) (q : Qualification) :
    Across base base' (.cells (.ofCells first last q base)) (.cells (.ofCells first last q base'))

/-- Two atoms that differ at most in the text of something that means nothing. -/
inductive Atom.SameMeaning : Atom → Atom → Prop where
  | refl (a : Atom) : SameMeaning a a
  | unreadable (raw raw' : Text) (e : ErrorValue) :
    SameMeaning (.unreadable raw e) (.unreadable raw' e)

/-- Atoms seen from two cells differ only in areas. -/
lemma changesAreas_across (base base' : Cell) : ChangesAreas (Atom.Across base base') where
  refl := .refl
  eq_or h := by
    cases h with
    | refl => exact Or.inl rfl
    | unreadable => exact Or.inr ⟨rfl, rfl⟩
    | cells => exact Or.inr ⟨rfl, rfl⟩

/-- Atoms with the same meaning differ only in areas. -/
lemma changesAreas_sameMeaning : ChangesAreas Atom.SameMeaning where
  refl := .refl
  eq_or h := by
    cases h with
    | refl => exact Or.inl rfl
    | unreadable => exact Or.inr ⟨rfl, rfl⟩

/-- Equal atoms differ in nothing. -/
lemma changesAreas_eq : ChangesAreas Eq := ⟨fun _ => rfl, Or.inl⟩

/-- Lists are the same if their elements are, which the relation tells of the first list's. -/
lemma eq_of_forall₂ {α : Type} {R : α → α → Prop} {ss ts : List α}
    (hR : ∀ s ∈ ss, ∀ t, R s t → s = t) (h : List.Forall₂ R ss ts) : ss = ts := by
  induction h with
  | nil => rfl
  | cons ht _ ih =>
    obtain ⟨hhead, htail⟩ := List.forall_mem_cons.mp hR
    rw [hhead _ ht, ih htail]

/-- Trees with the same atoms everywhere are the same. -/
lemma Tree.Alike.eq {s t : Tree} (h : s.Alike Eq t) : s = t := by
  induction s using memberInduction generalizing t with
  | atom lead a =>
    cases h with
    | atom ha => rw [ha]
  | signed lead sign s ih =>
    cases h with
    | signed h => rw [ih h]
  | percent lead s ih =>
    cases h with
    | percent h => rw [ih h]
  | binary lead op s s' ih ih' =>
    cases h with
    | binary h h' => rw [ih h, ih' h']
  | call lead function ss inner ih =>
    cases h with
    | call h => rw [eq_of_forall₂ (fun s hs _ h => ih s hs h) h]
  | parens lead s inner ih =>
    cases h with
    | parens h => rw [ih h]
  | array lead rows inner ih =>
    cases h with
    | array h =>
      have hrow : ∀ row ∈ rows, ∀ row', List.Forall₂ (Alike Eq) row row' → row = row' :=
        fun row hrow _ h => eq_of_forall₂ (fun s hs _ h => ih row hrow s hs h) h
      rw [eq_of_forall₂ hrow h]

namespace Reader

variable {site : Site}

/-! ## Offsets at the ends of areas -/

/-- Whether an offset is an end of an area. -/
def hasOffsetEnd : List Spaced → Bool
  | x :: y :: xs =>
    (match x.symbol, y.symbol with
      | .colon, .offsetCall | .closeParen, .colon => true
      | _, _ => false) || hasOffsetEnd (y :: xs)
  | _ => false

/-- Whether an area has an offset at one end, and at the other one a cell that is written with a
relative coordinate. -/
def hasRelativeEnd : List Spaced → Bool
  | x :: y :: z :: xs =>
    (match x.symbol, y.symbol, z.symbol with
      | .cell w, .colon, .offsetCall | .closeParen, .colon, .cell w =>
        w.column.anchor = .relative || w.row.anchor = .relative
      | _, _, _ => false) || hasRelativeEnd (y :: z :: xs)
  | _ => false

/-- Where no area has an offset at an end, none has further on. -/
lemma hasOffsetEnd_of_isSuffix {xs ys : List Spaced} (hys : ys <:+ xs)
    (h : hasOffsetEnd xs = false) : hasOffsetEnd ys = false := by
  refine of_isSuffix (P := fun xs => hasOffsetEnd xs = false) (fun x xs h => ?_) hys h
  cases xs with
  | nil => rfl
  | cons y xs =>
    rw [hasOffsetEnd, Bool.or_eq_false_iff] at h
    exact h.2

/-- Where no area with an offset has a relative end, none has further on. -/
lemma hasRelativeEnd_of_isSuffix {xs ys : List Spaced} (hys : ys <:+ xs)
    (h : hasRelativeEnd xs = false) : hasRelativeEnd ys = false := by
  refine of_isSuffix (P := fun xs => hasRelativeEnd xs = false) (fun x xs h => ?_) hys h
  match xs with
  | [] => rfl
  | [y] => rfl
  | y :: z :: xs =>
    rw [hasRelativeEnd, Bool.or_eq_false_iff] at h
    exact h.2

/-- The arguments of a call end with a parenthesis. -/
lemma Reads.exists_closeParen {ts : List Tree} {inner : Option Text} {xs rest : List Spaced}
    (h : Reads site (.arguments ts inner) xs rest) :
    ∃ x, x.symbol = .closeParen ∧ x :: rest <:+ xs := by
  generalize hp : Phrase.arguments ts inner = p at h
  induction h generalizing ts inner with
  | lastOmitted hx => exact ⟨_, hx, List.suffix_rfl⟩
  | omitted _ _ ih =>
    cases hp
    obtain ⟨x, hx, hsuffix⟩ := ih rfl
    exact ⟨x, hx, hsuffix.trans (List.suffix_cons _ _)⟩
  | lastArgument ht hy _ => exact ⟨_, hy, ht.isSuffix⟩
  | argument ht _ _ _ ih =>
    cases hp
    obtain ⟨x, hx, hsuffix⟩ := ih rfl
    exact ⟨x, hx, (hsuffix.trans (List.suffix_cons _ _)).trans ht.isSuffix⟩
  | _ => cases hp

namespace JoinsEnds

variable {xs : List Spaced} {e e' : AreaEnd}

/-- An offset that is an end of an area starts behind a colon or ends in front of one. -/
lemma hasOffsetEnd (h : JoinsEnds site xs e e') : hasOffsetEnd xs = true := by
  obtain ⟨y, ys, rest, hread, hy, -, hoffset⟩ := h
  cases hread with
  | cell hx =>
    rcases hoffset with ⟨x, ⟨⟩, hoffset⟩ | ⟨z, hz, hoffset⟩
    · cases hx.symm.trans hoffset
    · cases ys with
      | nil => cases hz
      | cons z zs =>
        cases hz
        simp [Reader.hasOffsetEnd, hy, hoffset]
  | offset _ hts _ =>
    obtain ⟨x, hx, hsuffix⟩ := hts.exists_closeParen
    by_contra hfree
    rw [Bool.not_eq_true] at hfree
    have hfree' := hasOffsetEnd_of_isSuffix (hsuffix.trans (List.suffix_cons _ _)) hfree
    simp [Reader.hasOffsetEnd, hx, hy] at hfree'

/-- If no offset is bound to its place and no other end is relative, both ends are absolute. -/
lemma isAbsolute (h : JoinsEnds site xs e e') (hbound : isPlaceBound xs = false)
    (hrelative : hasRelativeEnd xs = false) {r : CellRef}
    (hr : e.atom site = .cell r ∨ e'.atom site = .cell r) : r.isAbsolute = true := by
  obtain ⟨y, ys, rest, hread, hy, hread', hoffset⟩ := h
  have hsuffix : ys <:+ xs := (List.suffix_cons _ _).trans hread.isSuffix
  -- A written end beside an offset is what `hasRelativeEnd` looks for; an end that is an offset is
  -- absolute because its origin is.
  rcases hr with hr | hr
  · cases hread with
    | cell hx =>
      rcases hoffset with ⟨x, ⟨⟩, hoffset⟩ | ⟨z, hz, hoffset⟩
      · cases hx.symm.trans hoffset
      · cases ys with
        | nil => cases hz
        | cons z zs =>
          cases hz
          rw [hasRelativeEnd, hx, hy, hoffset, Bool.or_eq_false_iff] at hrelative
          obtain ⟨hcolumn, hrow⟩ := anchor_of_cell hr
          exact isAbsolute_of_anchor hrelative.1 hcolumn hrow
    | offset hx hts ha => exact (Reads.offset hx hts ha).origin hbound r hr
  · cases hread' with
    | cell hz =>
      cases hread with
      | cell hx =>
        rcases hoffset with ⟨x, ⟨⟩, hoffset⟩ | ⟨z, ⟨⟩, hoffset⟩
        · cases hx.symm.trans hoffset
        · cases hz.symm.trans hoffset
      | offset _ hts _ =>
        obtain ⟨x, hx, hclose⟩ := hts.exists_closeParen
        have hrelative' :=
          hasRelativeEnd_of_isSuffix (hclose.trans (List.suffix_cons _ _)) hrelative
        rw [hasRelativeEnd, hx, hy, hz, Bool.or_eq_false_iff] at hrelative'
        obtain ⟨hcolumn, hrow⟩ := anchor_of_cell hr
        exact isAbsolute_of_anchor hrelative'.1 hcolumn hrow
    | offset hz hts ha =>
      exact (Reads.offset hz hts ha).origin (isPlaceBound_of_isSuffix hsuffix hbound) r hr

end JoinsEnds

/-! ## What ends are joined to -/

/-- Two ends are joined in all cells or in none. In what they are joined to, the text may differ,
and the order of two cells. -/
lemma joined_related {R : Atom → Atom → Prop} {base : Cell} {b b' : Atom} (hrefl : ∀ a, R a a)
    (hunreadable : ∀ raw raw' e, R (.unreadable raw e) (.unreadable raw' e))
    (hcells : ∀ first last : CellRef, b = .cell first → b' = .cell last → ∀ sheet q,
      R (.cells (.ofCells first { last with sheet } q site.base))
        (.cells (.ofCells first { last with sheet } q base)))
    {raw : Text} {a : Atom} (h : joined site raw b b' = .ok a) (raw' : Text) :
    ∃ a', joined { site with base } raw' b b' = .ok a' ∧ R a a' := by
  unfold joined at h ⊢
  split at h
  · dsimp only
    split at h
    · cases h
    · cases h
      exact ⟨_, rfl, hunreadable _ _ _⟩
    · cases h
      exact ⟨_, rfl, hcells _ _ rfl rfl _ _⟩
  · cases h
  · cases h
  · cases h
    exact ⟨_, rfl, hunreadable _ _ _⟩
  · cases h
    exact ⟨_, rfl, hunreadable _ _ _⟩
  · cases h
    exact ⟨_, rfl, hrefl _⟩

/-- Absolute ends have one order in all cells. -/
lemma ofCells_of_isAbsolute {first last : CellRef} (hfirst : first.isAbsolute = true)
    (hlast : last.isAbsolute = true) (q : Qualification) (base base' : Cell) :
    Area.ofCells first last q base = .ofCells first last q base' := by
  simp only [CellRef.isAbsolute, Coord.isAbsolute, Bool.and_eq_true, decide_eq_true_eq]
    at hfirst hlast
  simp only [Area.ofCells, Area.inOrder, Coord.resolve, hfirst.1, hfirst.2, hlast.1, hlast.2]

/-- Seen from two cells, ends are joined to areas that differ by how these cells lie. -/
lemma joinsAlike_across (site : Site) (base : Cell) (xs : List Spaced) :
    JoinsAlike (Atom.Across site.base base) site base xs := by
  intro ys _ e e' _ raw raw' a h
  exact joined_related .refl .unreadable (fun first last _ _ sheet q => .cells _ _ _) h raw'

/-- Without relative ends, ends are joined to areas with the same meaning. -/
lemma joinsAlike_sameMeaning {base : Cell} {xs : List Spaced} (hbound : isPlaceBound xs = false)
    (hrelative : hasRelativeEnd xs = false) : JoinsAlike Atom.SameMeaning site base xs := by
  intro ys hys e e' hends raw raw' a h
  have habsolute : ∀ {r}, e.atom site = .cell r ∨ e'.atom site = .cell r → r.isAbsolute = true :=
    hends.isAbsolute (isPlaceBound_of_isSuffix hys hbound)
      (hasRelativeEnd_of_isSuffix hys hrelative)
  refine joined_related .refl .unreadable (fun first last hfirst hlast sheet q => ?_) h raw'
  have hlast' : CellRef.isAbsolute { last with sheet } = true :=
    show last.isAbsolute = true from habsolute (Or.inr hlast)
  rw [ofCells_of_isAbsolute (habsolute (Or.inl hfirst)) hlast' q site.base base]
  exact .refl _

/-- Without offsets at their ends, areas are the same. -/
lemma joinsAlike_eq {base : Cell} {xs : List Spaced} (hfree : hasOffsetEnd xs = false) :
    JoinsAlike Eq site base xs := by
  intro ys hys e e' hends
  have hfree' := hasOffsetEnd_of_isSuffix hys hfree
  cases hfree'.symm.trans hends.hasOffsetEnd

/-! ## Formulas with one key -/

/-- Formulas of one workbook with one key make the same marks. -/
theorem sameMarks_of_key?_eq {base : Cell} {text text' : Text} {xs xs' : List Lexeme}
    {t t' : Tree} (hl : site.locale.IsPreset) (hlex : lex site.locale text = .ok xs)
    (hlex' : lex site.locale text' = .ok xs') (ht : formula site (spaced xs) = .ok t)
    (ht' : formula { site with base } (spaced xs') = .ok t')
    (h : site.key? xs = Site.key? { site with base } xs') :
    SameMarks site { site with base } (spaced xs) (spaced xs') := by
  obtain ⟨hwritten, hguard⟩ := isWritten_spaced hl.noDollar hlex
  obtain ⟨hwritten', hguard'⟩ := isWritten_spaced hl.noDollar hlex'
  have htidy : Tidy site.locale (spaced xs) := ⟨⟨_, neat_spaced hlex⟩, hwritten⟩
  have htidy' : Tidy site.locale (spaced xs') := ⟨⟨_, neat_spaced hlex'⟩, hwritten'⟩
  obtain ⟨ms, hms, -⟩ := marks?_of_formula ht (neat_spaced hlex)
  obtain ⟨ms', hms', -⟩ := marks?_of_formula ht' (neat_spaced hlex')
  have hflows := flows_of_formula ht htidy hms
  have hflows' := flows_of_formula ht' htidy' hms'
  rw [Site.key?, Site.key?, hms, hms'] at h
  have hlegible := legible_of_marks? hwritten hguard hms hflows
  have hlegible' := @legible_of_marks? { site with base } _ _ _ hwritten' hguard' hms' hflows'
  have heq := hflows.eq_of_key_eq hl hflows' hlegible hlegible' (Option.some.inj h)
  exact ⟨htidy, htidy', _, hms, heq ▸ hms'⟩

/-- Two formulas of one workbook with one key, the first of which is not bound to its place, differ
in areas only, and in these as far as the relation allows. -/
theorem alike_of_key?_eq {R : Atom → Atom → Prop} (hR : ChangesAreas R) {base : Cell}
    {text text' : Text} {xs xs' : List Lexeme} {t t' : Tree} (hl : site.locale.IsPreset)
    (hlex : lex site.locale text = .ok xs) (hlex' : lex site.locale text' = .ok xs')
    (ht : formula site (spaced xs) = .ok t)
    (ht' : formula { site with base } (spaced xs') = .ok t')
    (hbound : isPlaceBound (spaced xs) = false) (hjoins : JoinsAlike R site base (spaced xs))
    (h : site.key? xs = Site.key? { site with base } xs') : t.Alike R t' := by
  have hsame := sameMarks_of_key?_eq hl hlex hlex' ht ht' h
  obtain ⟨t₁, ht₁, halike⟩ := formula_reread hR ht ⟨hbound, hjoins⟩ hsame
  cases ht₁.symm.trans ht'
  exact halike

end Reader

/-! ## Texts with one key -/

/-- Whether an offset is an end of an area in the text. -/
def hasOffsetEnd (l : Locale) (text : Text) : Bool :=
  match lex l text with
  | .ok xs => Reader.hasOffsetEnd (spaced xs)
  | .error _ => false

/-- Whether an area in the text has an offset at one end, and at the other one a cell that is
written with a relative coordinate. -/
def hasRelativeEnd (l : Locale) (text : Text) : Bool :=
  match lex l text with
  | .ok xs => Reader.hasRelativeEnd (spaced xs)
  | .error _ => false

namespace Site

/-- A text that is a formula was cut into lexemes, and these read as its tree. -/
lemma exists_of_isFormula {site : Site} {text : Text} (h : (site.read text).isFormula = true) :
    ∃ xs t, lex site.locale text = .ok xs ∧ Reader.formula site (spaced xs) = .ok t ∧
      site.read text = ⟨t, [], Reader.isPlaceBound (spaced xs)⟩ := by
  unfold read at h ⊢
  cases hlex : lex site.locale text with
  | error mistakes =>
    rw [hlex] at h
    cases mistakes with
    | cons m ms => cases h
    | nil => exact absurd hlex (lex_ne_error_nil _ _)
  | ok xs =>
    rw [hlex] at h
    dsimp only at h ⊢
    unfold readLexemes at h ⊢
    cases hformula : Reader.formula site (spaced xs) with
    | error fault =>
      rw [hformula] at h
      cases h
    | ok t => exact ⟨xs, t, rfl, hformula, rfl⟩

/-- Two texts with one key that are formulas of one workbook, in which no offset is bound to its
place, have trees of one shape. Their atoms are the same but for areas that have an offset at one
end: what stands there in both trees are the same two ends, in the order that they have in each of
the cells. If no such area has a relative coordinate, only the texts of areas that mean nothing can
differ, and if no offset is the end of an area, nothing can. -/
theorem alike_of_keyOf?_eq (site : Site) (base : Cell) {text text' : Text}
    (hl : site.locale.IsPreset) (h : (site.read text).isFormula = true)
    (h' : (read { site with base } text').isFormula = true)
    (hbound : (site.read text).isPlaceBound = false)
    (hkey : site.keyOf? text = keyOf? { site with base } text') :
    (site.read text).tree.Alike (Atom.Across site.base base)
        (read { site with base } text').tree ∧
      (hasRelativeEnd site.locale text = false →
        (site.read text).tree.Alike Atom.SameMeaning (read { site with base } text').tree) ∧
      (hasOffsetEnd site.locale text = false →
        (site.read text).tree = (read { site with base } text').tree) := by
  obtain ⟨xs, t, hlex, ht, hread⟩ := exists_of_isFormula h
  obtain ⟨xs', t', hlex', ht', hread'⟩ := exists_of_isFormula h'
  dsimp only at hlex'
  rw [hread] at hbound
  rw [keyOf?, keyOf?, hlex, hlex'] at hkey
  rw [hread, hread', hasRelativeEnd, hasOffsetEnd, hlex]
  -- One argument for three relations, which differ in what is known about the ends of areas.
  have halike : ∀ {R}, ChangesAreas R → Reader.JoinsAlike R site base (spaced xs) →
      t.Alike R t' :=
    fun hR hjoins => Reader.alike_of_key?_eq hR hl hlex hlex' ht ht' hbound hjoins hkey
  refine ⟨?_, fun hrelative => ?_, fun hfree => ?_⟩
  · exact halike (changesAreas_across _ _) (Reader.joinsAlike_across _ _ _)
  · exact halike changesAreas_sameMeaning (Reader.joinsAlike_sameMeaning hbound hrelative)
  · exact (halike changesAreas_eq (Reader.joinsAlike_eq hfree)).eq

/-- A sum of a relative area and an offset, in two neighbouring cells. -/
theorem alike_of_keyOf?_eq_sum :
    let site : Site := ⟨.unitedStates, ⟨fun _ => none, fun _ => none⟩, ⟨0, 1, 0⟩⟩
    let base : Cell := ⟨0, 2, 0⟩
    let text := "=A1:A$9+OFFSET($B$2,1,1)".toList
    let text' := "=B1:B$9+OFFSET($B$2,1,1)".toList
    (site.read text).isFormula = true ∧ (read { site with base } text').isFormula = true ∧
      (site.read text).isPlaceBound = false ∧
      site.keyOf? text = keyOf? { site with base } text' ∧
      hasRelativeEnd site.locale text = false ∧ hasOffsetEnd site.locale text = false ∧
      (site.read text).tree.Alike (Atom.Across site.base base)
        (read { site with base } text').tree ∧
      (site.read text).tree.Alike Atom.SameMeaning (read { site with base } text').tree ∧
      (site.read text).tree = (read { site with base } text').tree := by
  intro site base text text'
  have h : (site.read text).isFormula = true := by decide +kernel
  have h' : (read { site with base } text').isFormula = true := by decide +kernel
  have hbound : (site.read text).isPlaceBound = false := by decide +kernel
  have hkey : site.keyOf? text = keyOf? { site with base } text' := by decide +kernel
  have hrelative : hasRelativeEnd site.locale text = false := by decide +kernel
  have hfree : hasOffsetEnd site.locale text = false := by decide +kernel
  obtain ⟨hacross, hmeaning, heq⟩ := alike_of_keyOf?_eq site base (Or.inl rfl) h h' hbound hkey
  exact ⟨h, h', hbound, hkey, hrelative, hfree, hacross, hmeaning hrelative, heq hfree⟩

/-- An area from the cell on the left to an absolute offset. In one cell the offset is its last end,
in the other one it is its first end. -/
theorem exists_tree_ne_of_keyOf?_eq :
    let site : Site := ⟨.unitedStates, ⟨fun _ => none, fun _ => none⟩, ⟨0, 1, 0⟩⟩
    let base : Cell := ⟨0, 3, 3⟩
    let text := "=A1:OFFSET($B$2,0,0)".toList
    let text' := "=C4:OFFSET($B$2,0,0)".toList
    (site.read text).isFormula = true ∧ (read { site with base } text').isFormula = true ∧
      (site.read text).isPlaceBound = false ∧
      (read { site with base } text').isPlaceBound = false ∧
      site.keyOf? text = some "=#R-1R0:OFFSET(#A1A1,0,0)".toList ∧
      keyOf? { site with base } text' = some "=#R-1R0:OFFSET(#A1A1,0,0)".toList ∧
      (site.read text).tree ≠ (read { site with base } text').tree := by
  decide +kernel

end Site

end GridFormula
