import GridFormula.Proofs.Formula.OffsetTarget

/-!
# Offsets are read

An offset with numbers that are written out is read as what it leads to. The lexemes of its
arguments are read one by one, and what they mean is found from the numbers alone, not from the
blanks and signs they were written with. An offset to a single cell can be an end of an area.
-/

namespace GridFormula

open Scan

/-! ## Reading the lexemes of an offset -/

section

open Reader

variable {site : Site} {xs ys rest : List Spaced} {zs : List Lexeme}

/-- The lexemes go on neither with an operand nor with an operator behind it. -/
def StopsExpression (rest : List Spaced) : Prop :=
  ∀ y ∈ rest.head?, y.symbol ≠ .percent ∧ ∀ op, y.symbol ≠ .operator op

/-- An expression stops at the end. -/
lemma stopsExpression_nil : StopsExpression [] := by
  intro y hy
  cases hy

/-- The lexemes start with what ends an argument. -/
def EndsArgument (rest : List Spaced) : Prop :=
  ∀ y ∈ rest.head?, y.symbol = .argumentSeparator ∨ y.symbol = .closeParen

/-- An expression stops where an argument ends. -/
lemma EndsArgument.stopsExpression (h : EndsArgument rest) : StopsExpression rest := by
  intro y hy
  rcases h y hy with hsymbol | hsymbol <;> simp [hsymbol]

/-- A primary that is followed by neither percent signs nor operators is a whole expression. -/
lemma reads_expression_of_operand {t : Tree} (h : Reads site (.operand t) xs rest)
    (hrest : StopsExpression rest) : Reads site (.expression t) xs rest :=
  .expression h (.chainEnd fun y hy => (hrest y hy).2)

/-- A primary without signs in front and percent signs behind is an operand. -/
lemma reads_operand_of_primary {x : Spaced} {t : Tree}
    (h : Reads site (.primary t) (x :: xs) rest) (hx : sign? x.symbol = none)
    (hrest : StopsExpression rest) : Reads site (.operand t) (x :: xs) rest :=
  .unsigned hx h (.percentsEnd fun y hy => (hrest y hy).1)

/-- The lexemes of an integer are read as a tree that writes it out. -/
lemma IntegerLexemes.reads {n : Int} (h : IntegerLexemes n zs) (hxs : xs.map Spaced.lexeme = zs)
    (hrest : StopsExpression rest) :
    ∃ t : Tree, Reads site (.operand t) (xs ++ rest) rest ∧ t.staticInteger? = some n := by
  induction h generalizing xs with
  | @number n numeral image hn =>
    obtain ⟨x, ys, rfl, hx, hnil⟩ := List.map_eq_cons_iff.mp hxs
    obtain rfl := List.map_eq_nil_iff.mp hnil
    have hsymbol : x.symbol = .number numeral := congrArg Lexeme.symbol hx
    have hmark : site.mark? x = some (.atom (.number numeral)) := by rw [Site.mark?, hsymbol]
    refine ⟨.atom x.lead (.number numeral), ?_, hn⟩
    exact reads_operand_of_primary (.constant (by simp [hsymbol]) hmark) (by rw [hsymbol]; rfl) hrest
  | @signed n zs sign image _ ih =>
    obtain ⟨x, ys, rfl, hx, hys⟩ := List.map_eq_cons_iff.mp hxs
    have hsymbol : x.symbol = .operator sign.operator := congrArg Lexeme.symbol hx
    have hsign : sign? x.symbol = some sign := by
      rw [hsymbol]
      exact BinaryOp.sign?_eq_some_iff.mpr rfl
    obtain ⟨t, ht, hn⟩ := ih hys
    refine ⟨.signed x.lead sign t, .sign hsign ht, ?_⟩
    rw [Tree.staticInteger?, hn]
    rfl

/-- Behind an argument follow the separator of another one or the closing parenthesis. -/
lemma ArgumentLexemes.endsArgument {numbers : List Int} (h : ArgumentLexemes numbers zs)
    (hxs : xs.map Spaced.lexeme = zs) {y : Spaced} (hy : y.symbol = .closeParen) :
    EndsArgument (xs ++ y :: rest) := by
  cases h with
  | nil =>
    obtain rfl := List.map_eq_nil_iff.mp hxs
    rintro _ ⟨⟩
    exact Or.inr hy
  | cons image _ _ =>
    obtain ⟨x, xs, rfl, hx, -⟩ := List.map_eq_cons_iff.mp hxs
    rintro _ ⟨⟩
    exact Or.inl (congrArg Lexeme.symbol hx)

/-- The lexemes of numbers behind a first argument are read as trees that write them out. -/
lemma ArgumentLexemes.reads {numbers : List Int} (h : ArgumentLexemes numbers zs)
    (hxs : xs.map Spaced.lexeme = zs) {first : List Spaced} {y : Spaced} {t : Tree}
    (hy : y.symbol = .closeParen) (ht : Reads site (.expression t) first (xs ++ y :: rest)) :
    ∃ ts inner, Reads site (.arguments (t :: ts) inner) first rest ∧
      ts.map Tree.staticInteger? = numbers.map some := by
  induction h generalizing xs first t with
  | nil =>
    obtain rfl := List.map_eq_nil_iff.mp hxs
    exact ⟨[], y.lead, .lastArgument ht hy, rfl⟩
  | @cons n numbers us vs image hn hnumbers ih =>
    obtain ⟨x, xs, rfl, hx, hxs⟩ := List.map_eq_cons_iff.mp hxs
    obtain ⟨us, vs, rfl, hus, hvs⟩ := List.map_eq_append_iff.mp hxs
    have hsymbol : x.symbol = .argumentSeparator := congrArg Lexeme.symbol hx
    have hends : EndsArgument (vs ++ y :: rest) := hnumbers.endsArgument hvs hy
    have hstops := hends.stopsExpression
    obtain ⟨t', ht', hn'⟩ := hn.reads hus hstops
    obtain ⟨ts, inner, hts, hints⟩ := ih hvs (reads_expression_of_operand ht' hstops)
    rw [List.cons_append, List.append_assoc] at ht
    refine ⟨t' :: ts, inner, .argument ht hsymbol hts, ?_⟩
    rw [List.map_cons, List.map_cons, hn', hints]

/-- Numbers that are written out are taken as they are. -/
lemma Site.offset_of_numbers {numbers : List Int} {o : OffsetSteps} {ts : List Tree}
    (ho : OffsetSteps.ofNumbers? numbers = some o)
    (hts : ts.map Tree.staticInteger? = numbers.map some) (hheight : 1 ≤ o.height)
    (hwidth : 1 ≤ o.width) (lead : Option Text) (origin : CellRef) :
    site.offset (.atom lead (.cell origin) :: ts) =
      .ok (site.offsetFrom origin o.rows o.columns o.height o.width) := by
  -- An argument that is not given counts as one.
  have hnumber : ∀ (a : OffsetArgument) (i : Nat),
      offsetNumber a ts[i]? = .ok (numbers[i]?.getD 1) := by
    intro a i
    have hi : ts[i]?.map Tree.staticInteger? = numbers[i]?.map some := by
      rw [← List.getElem?_map, hts, List.getElem?_map]
    cases ht : ts[i]? with
    | none =>
      rw [ht, Option.map_none, eq_comm, Option.map_eq_none_iff] at hi
      rw [hi]
      rfl
    | some t =>
      rw [ht, Option.map_some, eq_comm, Option.map_eq_some_iff] at hi
      obtain ⟨n, hn, hstatic⟩ := hi
      rw [hn, offsetNumber, ← hstatic]
      rfl
  have hspec : (2 ≤ numbers.length ∧ numbers.length ≤ 4) ∧
      o = ⟨numbers[0]?.getD 1, numbers[1]?.getD 1, numbers[2]?.getD 1, numbers[3]?.getD 1⟩ := by
    unfold OffsetSteps.ofNumbers? at ho
    split at ho
    · cases ho
      simp
    · cases ho
      simp
    · cases ho
      simp
    · cases ho
  have hlength : ts.length = numbers.length := by simpa using congrArg List.length hts
  obtain ⟨hcount, rfl⟩ := hspec
  dsimp only at hheight hwidth
  rw [offset, if_neg (by rw [List.length_cons]; omega)]
  dsimp only
  rw [hnumber, hnumber, hnumber, hnumber]
  exact (if_neg (by omega)).trans (if_neg (by omega))

/-- The lexemes of an offset are read as an end of an area. -/
theorem OffsetLexemes.reads {w : WrittenCell} {o : OffsetSteps} (h : OffsetLexemes w o zs)
    (hxs : xs.map Spaced.lexeme = zs) {origin : CellRef} (hcell : ∀ raw, site.cell w raw = .cell origin)
    (hheight : 1 ≤ o.height) (hwidth : 1 ≤ o.width) :
    Reads site (.areaEnd (.resolved (site.offsetFrom origin o.rows o.columns o.height o.width)))
      (xs ++ rest) rest := by
  obtain @⟨numbers, us, call, cell, close, hnumbers, ho⟩ := h
  obtain ⟨x, xs, rfl, hx, hxs⟩ := List.map_eq_cons_iff.mp hxs
  obtain ⟨y, ys, rfl, hy, hys⟩ := List.map_eq_cons_iff.mp hxs
  obtain ⟨us, vs, rfl, hus, hvs⟩ := List.map_eq_append_iff.mp hys
  obtain ⟨z, vs, rfl, hz, hnil⟩ := List.map_eq_cons_iff.mp hvs
  obtain rfl := List.map_eq_nil_iff.mp hnil
  have hx : x.symbol = .offsetCall := congrArg Lexeme.symbol hx
  have hy : y.symbol = .cell w := congrArg Lexeme.symbol hy
  have hz : z.symbol = .closeParen := congrArg Lexeme.symbol hz
  have hends : EndsArgument (us ++ z :: rest) := hnumbers.endsArgument hus hz
  have hreference : Reads site (.reference (.cell origin)) (y :: (us ++ z :: rest))
      (us ++ z :: rest) := by
    have hlone : Reads site (.reference ((AreaEnd.written w y.image).atom site))
        (y :: (us ++ z :: rest)) (us ++ z :: rest) :=
      .lone (.cell hy) fun c hc => by rcases hends c hc with h | h <;> simp [h]
    rwa [AreaEnd.atom, hcell] at hlone
  have horigin : Reads site (.expression (.atom y.lead (.cell origin))) (y :: (us ++ z :: rest))
      (us ++ z :: rest) :=
    reads_expression_of_operand (reads_operand_of_primary (.reference hreference)
      (by rw [hy]; rfl) hends.stopsExpression) hends.stopsExpression
  obtain ⟨ts, inner, hts, hints⟩ := hnumbers.reads hus hz horigin
  have htext : x :: y :: (us ++ [z]) ++ rest = x :: y :: (us ++ z :: rest) := by simp
  rw [htext]
  exact .offset hx hts (Site.offset_of_numbers ho hints hheight hwidth y.lead origin)

end

/-! ## Ends of areas -/

/-- A text that names a single cell, and what is written in front of it for the sheet: a written
cell, or an offset to one cell inside the sheet. -/
inductive Site.CellEnd (site : Site) : Option Text → Cell → Text → Prop where
  | written {w : WrittenCell} {t : Text} :
    CellText w t → site.findsCell w = true → CellEnd site w.sheet (site.namedCell w) t
  | offset {w : WrittenCell} {rows columns : Int} {t : Text} :
    OffsetText site.locale w ⟨rows, columns, 1, 1⟩ t → site.findsCell w = true →
      site.locale.encloses (site.offsetTarget w ⟨rows, columns, 1, 1⟩) = true →
        CellEnd site w.sheet (site.offsetTarget w ⟨rows, columns, 1, 1⟩).first t

/-- The text does not start with a blank, and its lexemes are read as an end of an area wherever no
reference goes on behind it. -/
structure Site.ReadsEnd (site : Site) (t : Text) (e : Reader.AreaEnd) : Prop where
  head : ∃ c s, t = c :: s ∧ Text.isBlank c = false
  lexemes : ∃ zs, IsCut site.locale Scan.EndsReference t zs ∧
    ∀ xs rest, xs.map Spaced.lexeme = zs → Reader.Reads site (.areaEnd e) (xs ++ rest) rest

section

open Reader

variable {site : Site} {w : WrittenCell} {t u : Text} {e e' : AreaEnd}

/-- A written cell is read as the end of an area. -/
lemma Site.readsEnd_cell (hwords : site.locale.SameWords .unitedStates) (h : CellText w t) :
    site.ReadsEnd t (.written w t) := by
  refine ⟨CellText.exists_head h, [⟨.cell w, t⟩], ?_, ?_⟩
  · intro n rest ys hrest hys
    exact (readsFront_cell hwords h hrest).scansApart (by simp) hys
  · intro xs rest hxs
    obtain ⟨x, xs, rfl, hx, hnil⟩ := List.map_eq_cons_iff.mp hxs
    obtain rfl := List.map_eq_nil_iff.mp hnil
    have himage : x.image = t := congrArg Lexeme.image hx
    rw [← himage]
    exact .cell (congrArg Lexeme.symbol hx)

/-- A written offset is read as the end of an area that it comes to. -/
lemma Site.readsEnd_offset (hwords : site.locale.SameWords .unitedStates)
    (hrows : site.locale.rowCount ≤ 0x80000000) (hcolumns : site.locale.columnCount ≤ 0x80000000)
    {o : OffsetSteps} (h : OffsetText site.locale w o t) (hw : site.findsCell w = true)
    (hheight : 1 ≤ o.height) (hwidth : 1 ≤ o.width) :
    ∃ a, site.ReadsEnd t (.resolved a) ∧ site.IsOffset w o a := by
  obtain ⟨zs, hzs, hcut⟩ := h.exists_lexemes hwords
  refine ⟨_, ⟨?_, zs, fun n rest ys _ => hcut n rest ys trivial, fun xs rest hxs => ?_⟩,
    isOffset_offsetFrom hrows hcolumns hw hheight hwidth⟩
  · cases h
    exact ⟨'O', _, rfl, rfl⟩
  · exact hzs.reads hxs (cell_of_findsCell hrows hcolumns hw) hheight hwidth

/-- A reference behind the equals sign is the whole tree of its formula. -/
lemma Site.read_reference (hwords : site.locale.SameWords .unitedStates)
    (hhead : ∃ c s, t = c :: s ∧ Text.isBlank c = false) {zs : List Lexeme}
    (hscans : ScansApart site.locale .empty t zs) {a : Atom}
    (h : ∀ xs, xs.map Spaced.lexeme = zs → Reads site (.reference a) xs []) :
    (site.read ('=' :: t)).faults = [] ∧ (site.read ('=' :: t)).tree = .atom none a := by
  obtain ⟨us, hus, rfl⟩ := hscans
  obtain ⟨c, s, rfl, hc⟩ := hhead
  -- The lexeme behind the equals sign has no blank in front, and so the atom has none.
  obtain ⟨z, us, rfl⟩ : ∃ z us', us = z :: us' := by
    cases hus with
    | cons _ _ => exact ⟨_, _, rfl⟩
  have hz : z.isBlank = false := by
    refine hus.head_not_blank ?_
    rintro _ ⟨⟩
    exact site.locale.isBlank_eq_false hc
  have hequal : Lexeme.isBlank ⟨.operator .equal, ['=']⟩ = false := rfl
  have hscans : Scans site.locale .empty ('=' :: c :: s) (⟨.operator .equal, ['=']⟩ :: z :: us) :=
    (readsFront_equal hwords).scans hus
  have hlex := lex_eq_ok_iff.mpr ⟨_, hscans, rfl⟩
  have hmap := map_lexeme_spaced (⟨.operator .equal, ['=']⟩ :: z :: us)
  have hspaced : spaced (dropIdleBlanks none (⟨.operator .equal, ['=']⟩ :: z :: us)) =
      ⟨none, .operator .equal, ['=']⟩ :: ⟨none, z.symbol, z.image⟩ ::
        attach (z.symbol = .colon) none (dropIdleBlanks (some z) us) := by
    rw [dropIdleBlanks_cons hequal, dropIdleBlanks_cons hz, spaced, attach_of_not_blank hequal,
      attach_of_not_blank hz]
    simp
  rw [hspaced, List.map_cons, List.filter_cons_of_pos (by rw [hequal]; rfl)] at hmap
  have hreads := h _ (List.cons.inj hmap).2
  have hsign : sign? z.symbol = none := by
    rcases hreads.symbol_reference with ⟨w, hsymbol⟩ | hsymbol
    · dsimp only at hsymbol
      rw [hsymbol]
      rfl
    · dsimp only at hsymbol
      rw [hsymbol]
      rfl
  have hexpression := reads_expression_of_operand
    (reads_operand_of_primary (.reference hreads) hsign stopsExpression_nil) stopsExpression_nil
  have hformula : Reader.formula site
      (spaced (dropIdleBlanks none (⟨.operator .equal, ['=']⟩ :: z :: us))) = .ok (.atom none a) := by
    rw [hspaced]
    exact formula_eq_ok_iff.mpr ⟨_, _, rfl, rfl, rfl, hexpression⟩
  rw [read, hlex]
  dsimp only
  rw [readLexemes, hformula]
  exact ⟨rfl, rfl⟩

/-- An offset behind the equals sign is the whole tree of its formula. -/
lemma Site.ReadsEnd.read (h : site.ReadsEnd t e) (hwords : site.locale.SameWords .unitedStates) :
    (site.read ('=' :: t)).faults = [] ∧ (site.read ('=' :: t)).tree = .atom none (e.atom site) := by
  obtain ⟨hhead, zs, hcut, hreads⟩ := h
  have hscans := hcut .empty [] [] endsReference_nil ⟨[], .nil, rfl⟩
  rw [List.append_nil, List.append_nil] at hscans
  refine read_reference hwords hhead hscans fun xs hxs => ?_
  have hend := hreads xs [] hxs
  rw [List.append_nil] at hend
  exact .lone hend fun y hy => by cases hy

/-- Two ends with a colon between them are the whole tree of their formula. -/
lemma Site.ReadsEnd.read_area (h : site.ReadsEnd t e) (h' : site.ReadsEnd u e')
    (hwords : site.locale.SameWords .unitedStates) {a : Atom}
    (ha : ∀ raw, area site raw e e' = .ok a) :
    (site.read ('=' :: t ++ ':' :: u)).faults = [] ∧
      (site.read ('=' :: t ++ ':' :: u)).tree = .atom none a := by
  obtain ⟨⟨c, s, rfl, hc⟩, zs, hcut, hreads⟩ := h
  obtain ⟨-, zs', hcut', hreads'⟩ := h'
  have hlast := hcut' .empty [] [] endsReference_nil ⟨[], .nil, rfl⟩
  rw [List.append_nil, List.append_nil] at hlast
  have hcolon := (readsFront_colon hwords).scansApart (by simp) hlast
  have hscans := hcut .empty _ _ (endsReference_colon u) hcolon
  refine read_reference hwords ⟨c, s ++ ':' :: u, rfl, hc⟩ hscans fun xs hxs => ?_
  obtain ⟨us, vs, rfl, hus, hvs⟩ := List.map_eq_append_iff.mp hxs
  obtain ⟨y, vs, rfl, hy, hvs⟩ := List.map_eq_cons_iff.mp hvs
  have hend := hreads' vs [] hvs
  rw [List.append_nil] at hend
  exact .area (hreads us (y :: vs) hus) (congrArg Lexeme.symbol hy) hend (ha _)

end

/-! ## Offsets as formulas and as ends of areas -/

section

open Reader

variable {site : Site} {w : WrittenCell} {t u : Text} {e e' : AreaEnd}

/-- An end of an area is read as a reference to the cell that it names. -/
lemma Site.CellEnd.readsEnd {sheet : Option Text} {c : Cell} (h : site.CellEnd sheet c t)
    (hwords : site.locale.SameWords .unitedStates) (hrows : site.locale.rowCount ≤ 0x80000000)
    (hcolumns : site.locale.columnCount ≤ 0x80000000) :
    ∃ e r, site.ReadsEnd t e ∧ e.atom site = .cell r ∧ r.sheet = (site.writtenSheet sheet).join ∧
      r.resolve site.base = c := by
  cases h with
  | @written w _ ht hw =>
    exact ⟨_, _, readsEnd_cell hwords ht, cell_of_findsCell hrows hcolumns hw t, rfl,
      site.resolve_cellRef w⟩
  | offset ht hw hin =>
    obtain ⟨a, hreads, ha⟩ :=
      readsEnd_offset hwords hrows hcolumns ht hw (le_refl (1 : Int)) (le_refl (1 : Int))
    obtain ⟨r, rfl, hlike, hr⟩ := ha.cell hin ⟨rfl, rfl⟩
    exact ⟨_, r, hreads, rfl, hlike.sheet, hr⟩

/-- A text is read as the area between two cells. -/
def Site.ReadsArea (site : Site) (text : Text) (a b : Cell) : Prop :=
  (site.read text).faults = [] ∧
    ∃ r, (site.read text).tree = .atom none (.cells r) ∧ r.rect site.base = .spanned a b

/-- Two ends, one of which is an offset, are read as the area between the cells that they name. -/
lemma Site.readsArea_of_readsEnd (hwords : site.locale.SameWords .unitedStates) {a b : CellRef}
    (h : site.ReadsEnd t e) (h' : site.ReadsEnd u e') (he : e.atom site = .cell a)
    (he' : e'.atom site = .cell b) {c : Atom} (hresolved : e = .resolved c ∨ e' = .resolved c)
    (hsheet : a.sheet = b.sheet) :
    site.ReadsArea ('=' :: t ++ ':' :: u) (a.resolve site.base) (b.resolve site.base) := by
  obtain ⟨r, hjoined, hr⟩ := site.exists_joined hsheet
  have harea : ∀ raw, area site raw e e' = .ok (.cells r) := by
    intro raw
    rw [area_eq_joined hresolved, he, he', hjoined]
  obtain ⟨hfaults, htree⟩ := h.read_area h' hwords harea
  exact ⟨hfaults, r, htree, hr⟩

/-- An offset from a cell on the sheet is a formula. Inside the sheet it is read as a reference to
just the cells that it leads to, and beyond the sheet it is lost. An offset to a single cell may be
either end of an area, the other end of which is written with the same sheet: the area is the least
rectangle with both. -/
theorem Site.read_offset (hwords : site.locale.SameWords .unitedStates)
    (hrows : site.locale.rowCount ≤ 0x80000000) (hcolumns : site.locale.columnCount ≤ 0x80000000)
    {o : OffsetSteps} (ht : OffsetText site.locale w o t) (hw : site.findsCell w = true)
    (hheight : 1 ≤ o.height) (hwidth : 1 ≤ o.width) :
    ((site.read ('=' :: t)).faults = [] ∧
      ∃ a, (site.read ('=' :: t)).tree = .atom none a ∧ site.IsOffset w o a) ∧
    (o.height = 1 → o.width = 1 → site.locale.encloses (site.offsetTarget w o) = true →
      ∀ sheet c u, site.CellEnd sheet c u → site.writtenSheet sheet = site.writtenSheet w.sheet →
        site.ReadsArea ('=' :: t ++ ':' :: u) (site.offsetTarget w o).first c ∧
          site.ReadsArea ('=' :: u ++ ':' :: t) c (site.offsetTarget w o).first) := by
  obtain ⟨a, hreads, ha⟩ := readsEnd_offset hwords hrows hcolumns ht hw hheight hwidth
  obtain ⟨hfaults, htree⟩ := hreads.read hwords
  refine ⟨⟨hfaults, a, htree, ha⟩, fun hone hone' hin sheet c u hu hsheet => ?_⟩
  obtain ⟨r, rfl, hlike, hr⟩ := ha.cell hin ⟨hone, hone'⟩
  obtain ⟨e, r', hreads', he, hsheet', hr'⟩ := hu.readsEnd hwords hrows hcolumns
  have hsame : r.sheet = r'.sheet := by
    rw [hlike.sheet, hsheet', hsheet]
    rfl
  rw [← hr, ← hr']
  exact ⟨readsArea_of_readsEnd hwords hreads hreads' rfl he (Or.inl rfl) hsame,
    readsArea_of_readsEnd hwords hreads' hreads he rfl (Or.inr rfl) hsame.symm⟩

/-- On small sheets with the blanks of all scripts, an offset up and to the right, and the area from
there to another cell. -/
theorem Site.read_offset_to_cell :
    let site : Site :=
      ⟨{ Locale.unitedStates with rowCount := 10, columnCount := 10, spacing := .anyBlank },
        ⟨fun _ => some 0, fun _ => none⟩, ⟨1, 4, 4⟩⟩
    let w : WrittenCell := ⟨some "data".toList, ⟨.relative, 1⟩, ⟨.absolute, 2⟩⟩
    let t := "OFFSET(data!B$3,\u00a0-1,+ 02)".toList
    let u := "Data!A05".toList
    (site.read ('=' :: t)).faults = [] ∧
      (∃ a, (site.read ('=' :: t)).tree = .atom none a ∧ site.IsOffset w ⟨-1, 2, 1, 1⟩ a) ∧
        site.ReadsArea ('=' :: t ++ ':' :: u) ⟨0, 3, 1⟩ ⟨0, 0, 4⟩ ∧
          site.ReadsArea ('=' :: u ++ ':' :: t) ⟨0, 0, 4⟩ ⟨0, 3, 1⟩ := by
  intro site w t u
  have hplain : ∀ name : Text, isNameText name = true → SheetText (some name) (name ++ ['!']) := by
    rintro name hname
    obtain ⟨hc, hs⟩ := nameText_of_isNameText hname
    exact .plain hc hs
  have hcolumn : ∀ c : Char, c.isAlpha = true →
      IndexText .column ⟨.relative, ColumnName.value [c] - 1⟩ [c] := fun c hc =>
    .column (List.cons_ne_nil _ _) (by simp) (List.forall_mem_singleton.mpr hc)
  have hrow : ∀ (anchor : Anchor) (digits : Text), digits.all Char.isDigit = true →
      Text.toNat digits ≠ 0 →
        IndexText .row ⟨anchor, min (Text.toNat digits) greatestRowNumber - 1⟩
          (anchorText anchor ++ digits) := fun anchor digits hdigits hne =>
    .row (List.all_eq_true.mp hdigits) hne
  have hcell : CellText w ("data!".toList ++ ("B".toList ++ "$3".toList)) :=
    .mk (hplain "data".toList (by decide +kernel)) (hcolumn 'B' rfl)
      (hrow .absolute ['3'] rfl (by decide))
  have hcell' : CellText ⟨some "Data".toList, ⟨.relative, 0⟩, ⟨.relative, 4⟩⟩
      ("Data!".toList ++ ("A".toList ++ "05".toList)) :=
    .mk (hplain "Data".toList (by decide +kernel)) (hcolumn 'A' rfl)
      (hrow .relative ['0', '5'] rfl (by decide))
  have hdigits : ∀ s : Text, s ≠ [] → s.all Char.isDigit = true → Text.toNat s < 10 ^ 15 →
      IntegerText site.locale (Text.toNat s) s := fun s hne hs hlt =>
    .digits hne (List.all_eq_true.mp hs) hlt
  have hrows : IntegerText site.locale (-1) "\u00a0-1".toList :=
    .blank (by decide) (.signed .minus (hdigits ['1'] (by simp) rfl (by decide)))
  have hcolumns : IntegerText site.locale 2 "+ 02".toList :=
    .signed .plus (.blank (by decide) (hdigits ['0', '2'] (by simp) rfl (by decide)))
  have ht : OffsetText site.locale w ⟨-1, 2, 1, 1⟩ t :=
    .mk hcell (.cons hrows (.cons hcolumns .nil)) rfl
  have hwords : site.locale.SameWords .unitedStates := by decide +kernel
  obtain ⟨⟨hfaults, htree⟩, harea⟩ :=
    read_offset hwords (by decide) (by decide) ht (by decide +kernel) (by decide) (by decide)
  exact ⟨hfaults, htree,
    harea rfl rfl (by decide +kernel) _ _ _ (.written hcell' (by decide +kernel)) rfl⟩

end

end GridFormula
