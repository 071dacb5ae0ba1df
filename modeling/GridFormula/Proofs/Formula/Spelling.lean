import GridFormula.Locale.Presets
import GridFormula.Proofs.Formula.Canonical
import GridFormula.Proofs.Lexeme.Spacing

/-!
# Lexemes and trees make the same marks

The marks of a formula are found in two ways: from its lexemes, one after the other, and from the
tree that the reader builds of them. Both make the same marks, except that nothing is written for
an omitted argument, so that the lexemes make no mark for it. Offsets are the other exception: one
is resolved while it is read, so that its lexemes make more marks than the tree keeps.
-/

namespace GridFormula

/-- Whether something is written for the mark. -/
def Mark.isWritten (m : Mark) : Bool :=
  m ≠ .atom .omitted

/-- The symbol of the lexemes that make the mark, if there is only one. -/
def Mark.symbol? : Mark → Option Symbol
  | operator op => some (.operator op)
  | percent => some .percent
  | call function => some (.call function)
  | offsetCall => some .offsetCall
  | colon => some .colon
  | argumentSeparator => some .argumentSeparator
  | columnSeparator => some .columnSeparator
  | rowSeparator => some .rowSeparator
  | openParen => some .openParen
  | closeParen => some .closeParen
  | openBrace => some .openBrace
  | closeBrace => some .closeBrace
  | space _ | atom _ => none

/-- The marks of a tree for which something is written. -/
def Tree.spelling (t : Tree) : List Mark :=
  t.marks.filter Mark.isWritten

/-- Nothing stands in a key for what is not written. -/
lemma flatMap_key_filter (ms : List Mark) :
    (ms.filter Mark.isWritten).flatMap Mark.key = ms.flatMap Mark.key := by
  induction ms with
  | nil => rfl
  | cons m ms ih =>
    by_cases hm : m = .atom .omitted
    · subst hm
      exact ih
    · have hm : m.isWritten = true := by simpa [Mark.isWritten] using hm
      rw [List.filter_cons_of_pos hm, List.flatMap_cons, List.flatMap_cons, ih]

/-- The key of a tree is an equals sign and the keys of the marks that spell it. -/
theorem Tree.key_eq_spelling (t : Tree) : t.key = '=' :: t.spelling.flatMap Mark.key := by
  rw [Tree.key, Tree.spelling, flatMap_key_filter]

/-- Blanks are written. -/
lemma filter_spaces (lead : Option Text) :
    (Mark.spaces lead).filter Mark.isWritten = Mark.spaces lead := by
  cases lead <;> rfl

/-- A written mark behind blanks is written with them. -/
lemma filter_spaces_append {m : Mark} (hm : m.isWritten = true) (lead : Option Text) :
    (Mark.spaces lead ++ [m]).filter Mark.isWritten = Mark.spaces lead ++ [m] := by
  rw [List.filter_append, filter_spaces, List.filter_cons_of_pos hm, List.filter_nil]

/-- An atom is written unless it is omitted. -/
lemma isWritten_atom {a : Atom} (h : a ≠ .omitted) : (Mark.atom a).isWritten = true := by
  simpa [Mark.isWritten] using h

/-! ## Marks of lexemes -/

/-- A symbol that makes a mark by itself makes it wherever it stands. -/
lemma Site.mark?_of_symbol? {m : Mark} {symbol : Symbol} (h : m.symbol? = some symbol)
    (site : Site) (lead : Option Text) (image : Text) :
    site.mark? ⟨lead, symbol, image⟩ = some m := by
  cases m with
  | space _ => cases h
  | atom _ => cases h
  | _ =>
    cases h
    rfl

/-- A mark of only one symbol is written. -/
lemma Mark.isWritten_of_symbol? {m : Mark} {symbol : Symbol} (h : m.symbol? = some symbol) :
    m.isWritten = true := by
  cases m with
  | atom _ => cases h
  | _ => rfl

/-- A symbol belongs to one mark only. -/
lemma Mark.eq_of_symbol?_eq {m m' : Mark} {symbol : Symbol} (h : m.symbol? = some symbol)
    (h' : m'.symbol? = some symbol) : m = m' := by
  cases m <;> cases h <;> cases m' <;> cases h' <;> rfl

/-- A cell does not always make the same mark. -/
lemma Mark.ne_cell_of_symbol? {m : Mark} {symbol : Symbol} (h : m.symbol? = some symbol)
    (w : WrittenCell) : symbol ≠ .cell w := by
  rintro rfl
  cases m <;> cases h

namespace Reader

/-- No colon stands at the front. -/
def NoColon (xs : List Spaced) : Prop :=
  ∀ x ∈ xs.head?, x.symbol ≠ .colon

/-- There is no colon at the end. -/
lemma noColon_nil : NoColon [] := fun x hx => absurd hx (Option.not_mem_none x)

/-- There is no colon where another symbol stands. -/
lemma noColon_cons {x : Spaced} (hx : x.symbol ≠ .colon) (xs : List Spaced) :
    NoColon (x :: xs) := by
  intro y hy
  cases hy
  exact hx

/-- A cell does not go on with the lexemes as an area up to another cell. -/
def NoLastCell (xs : List Spaced) : Prop :=
  ∀ y z ys, xs = y :: z :: ys → y.symbol = .colon → ∀ w, z.symbol ≠ .cell w

/-- A cell goes on as an area only behind a colon. -/
lemma NoColon.noLastCell {xs : List Spaced} (h : NoColon xs) : NoLastCell xs := by
  rintro y z ys rfl hy
  exact absurd hy (h y rfl)

end Reader

namespace Site

variable {site : Site}

/-- A lexeme makes its mark by itself, unless it starts an area of two cells. -/
lemma marks?_cons {x : Spaced} {xs : List Spaced} {m : Mark} {ms : List Mark}
    (hx : site.mark? x = some m) (hxs : site.marks? xs = some ms)
    (harea : ∀ w, x.symbol = .cell w → Reader.NoLastCell xs) :
    site.marks? (x :: xs) = some (Mark.spaces x.lead ++ m :: ms) := by
  unfold marks?
  split
  · next h => cases h
  · next lead a image lead' image' lead'' b image'' ys h =>
    cases h
    exact absurd rfl (harea a rfl _ _ _ rfl rfl b)
  · next y ys _ h =>
    cases h
    rw [hx, hxs]

/-- The lexemes of an area make one mark together. -/
lemma marks?_area {x y z : Spaced} {xs : List Spaced} {w w' : WrittenCell} {a : Atom}
    {ms : List Mark} (hx : x.symbol = .cell w) (hy : y.symbol = .colon) (hz : z.symbol = .cell w')
    (ha : site.cells? w w' (x.image ++ ':' :: z.image) = some a)
    (hxs : site.marks? xs = some ms) :
    site.marks? (x :: y :: z :: xs) = some (Mark.spaces x.lead ++ .atom a :: ms) := by
  obtain ⟨lead, symbol, image⟩ := x
  obtain ⟨lead', symbol', image'⟩ := y
  obtain ⟨lead'', symbol'', image''⟩ := z
  dsimp only at hx hy hz
  subst hx hy hz
  rw [marks?, ha, hxs]

end Site

namespace Reader

/-- The lexemes from `xs` up to `rest` make the marks `ms`, as far as these are written. If there is
an offset among them, they make any marks. It is given whether `xs` stands directly behind an
argument separator. -/
structure Spells (site : Site) (behindSeparator : Bool) (xs rest : List Spaced) (ms : List Mark) :
    Prop where
  mem : ∀ x ∈ rest, x ∈ xs
  neat : Neat behindSeparator xs → Neat false rest
  marks : Neat behindSeparator xs → ∃ ms',
    ((∀ x ∈ xs, x.symbol ≠ .offsetCall) → ms' = ms.filter Mark.isWritten) ∧
      ∀ rs, site.marks? rest = some rs → site.marks? xs = some (ms' ++ rs)

namespace Spells

variable {site : Site} {b : Bool} {xs ys rest : List Spaced} {ms ms' : List Mark}

/-- No lexemes spell no marks. -/
lemma nil : Spells site false xs xs [] where
  mem _ h := h
  neat h := h
  marks _ := ⟨[], fun _ => rfl, fun _ h => h⟩

/-- What is spelled up to a place and from there on is spelled in one. -/
lemma trans (h : Spells site b xs ys ms) (h' : Spells site false ys rest ms') :
    Spells site b xs rest (ms ++ ms') where
  mem x hx := h.mem x (h'.mem x hx)
  neat hxs := h'.neat (h.neat hxs)
  marks hxs := by
    obtain ⟨m, hm, hmarks⟩ := h.marks hxs
    obtain ⟨m', hm', hmarks'⟩ := h'.marks (h.neat hxs)
    refine ⟨m ++ m', fun hfree => ?_, fun rs hrs => ?_⟩
    · rw [List.filter_append, hm hfree, hm' fun x hx => hfree x (h.mem x hx)]
    · rw [List.append_assoc]
      exact hmarks _ (hmarks' rs hrs)

/-- Only the marks that are written count. -/
lemma congr (h : Spells site b xs rest ms)
    (hms : ms.filter Mark.isWritten = ms'.filter Mark.isWritten) : Spells site b xs rest ms' where
  mem := h.mem
  neat := h.neat
  marks hxs := by
    obtain ⟨m, hm, hmarks⟩ := h.marks hxs
    exact ⟨m, fun hfree => (hm hfree).trans hms, hmarks⟩

/-- Where there is an offset, any marks will do. -/
lemma of_offset (h : Spells site b xs rest ms) {x : Spaced} (hx : x ∈ xs)
    (hoffset : x.symbol = .offsetCall) : Spells site b xs rest ms' where
  mem := h.mem
  neat := h.neat
  marks hxs := by
    obtain ⟨m, -, hmarks⟩ := h.marks hxs
    exact ⟨m, fun hfree => absurd hoffset (hfree x hx), hmarks⟩

/-- One lexeme that makes its mark by itself. -/
lemma single {x : Spaced} {m : Mark} (hsep : x.symbol ≠ .argumentSeparator)
    (hx : site.mark? x = some m)
    (harea : ∀ w, x.symbol = .cell w → NoLastCell xs) (hm : m.isWritten = true) :
    Spells site b (x :: xs) xs (Mark.spaces x.lead ++ [m]) where
  mem _ h := List.mem_cons_of_mem x h
  neat h := h.tail_of_ne hsep
  marks _ := by
    refine ⟨Mark.spaces x.lead ++ [m], fun _ => ?_, fun rs hrs => ?_⟩
    · rw [filter_spaces_append hm]
    · rw [List.append_assoc]
      exact Site.marks?_cons hx hrs harea

/-- One lexeme that is told by its symbol, other than an argument separator. -/
lemma symbol {x : Spaced} {m : Mark} (hx : m.symbol? = some x.symbol)
    (hm : m ≠ .argumentSeparator) : Spells site b (x :: xs) xs (Mark.spaces x.lead ++ [m]) := by
  have hsep : x.symbol ≠ .argumentSeparator := fun h =>
    hm (Mark.eq_of_symbol?_eq hx (h ▸ rfl))
  exact single hsep (Site.mark?_of_symbol? hx site x.lead x.image)
    (fun w hw => absurd hw (Mark.ne_cell_of_symbol? hx w)) (Mark.isWritten_of_symbol? hx)

/-- One lexeme that has no blanks in front. -/
lemma tight {x : Spaced} {m : Mark} (htight : x.symbol.isTight = true)
    (hx : m.symbol? = some x.symbol) : Spells site b (x :: xs) xs [m] := by
  have hsep : x.symbol ≠ .argumentSeparator := fun h => by simp [h, Symbol.isTight] at htight
  have h : Spells site b (x :: xs) xs (Mark.spaces x.lead ++ [m]) :=
    symbol hx fun hm => hsep (by rw [hm] at hx; exact (Option.some.inj hx).symm)
  refine ⟨h.mem, h.neat, fun hxs => ?_⟩
  obtain ⟨m', hm', hmarks⟩ := h.marks hxs
  rw [hxs.1.tight htight] at hm'
  exact ⟨m', hm', hmarks⟩

/-- An argument separator. What stands behind it may be an omitted argument. -/
lemma separator {x : Spaced} (hx : x.symbol = .argumentSeparator)
    (h : Spells site true xs rest ms) :
    Spells site b (x :: xs) rest (Mark.spaces x.lead ++ .argumentSeparator :: ms) where
  mem y hy := List.mem_cons_of_mem x (h.mem y hy)
  neat hxs := h.neat (hxs.tail_of_eq hx)
  marks hxs := by
    obtain ⟨m, hm, hmarks⟩ := h.marks (hxs.tail_of_eq hx)
    have hmark : site.mark? x = some .argumentSeparator := by simp [Site.mark?, hx]
    refine ⟨Mark.spaces x.lead ++ .argumentSeparator :: m, fun hfree => ?_, fun rs hrs => ?_⟩
    · rw [List.filter_append, filter_spaces, List.filter_cons_of_pos rfl,
        hm (List.forall_mem_cons.mp hfree).2]
    · rw [List.append_assoc]
      exact Site.marks?_cons hmark (hmarks rs hrs) fun w hw => by cases hx.symm.trans hw

/-- An argument separator behind an argument that is written has no blanks in front. -/
lemma separatorBehind {x : Spaced} (hx : x.symbol = .argumentSeparator)
    (h : Spells site true xs rest ms) :
    Spells site false (x :: xs) rest (.argumentSeparator :: ms) := by
  have h' : Spells site false (x :: xs) rest _ := separator hx h
  refine ⟨h'.mem, h'.neat, fun hxs => ?_⟩
  obtain ⟨m, hm, hmarks⟩ := h'.marks hxs
  rw [hxs.1.separator hx rfl] at hm
  exact ⟨m, hm, hmarks⟩

end Spells

/-! ## Marks of phrases -/

section

variable {site : Site}

/-- What follows an operand does not start with a colon. -/
lemma Reads.noColon_chain {s t : Tree} {xs rest : List Spaced}
    (h : Reads site (.chain s t) xs rest) (hrest : NoColon rest) : NoColon xs := by
  cases h with
  | chainEnd _ => exact hrest
  | chainStep hx _ _ => exact noColon_cons (by simp [hx]) _

/-- Percent signs do not start with a colon. -/
lemma Reads.noColon_percents {s t : Tree} {xs rest : List Spaced}
    (h : Reads site (.percents s t) xs rest) (hrest : NoColon rest) : NoColon xs := by
  cases h with
  | percentsEnd _ => exact hrest
  | percentsStep hx _ => exact noColon_cons (by simp [hx]) _

/-- A call has an argument, which may be omitted. -/
lemma Reads.arguments_ne_nil {ts : List Tree} {inner : Option Text} {xs rest : List Spaced}
    (h : Reads site (.arguments ts inner) xs rest) : ts ≠ [] := by
  cases h <;> exact List.cons_ne_nil _ _

/-- An array has a row, and the row has a tree. -/
lemma Reads.rows_eq_cons {rows : List (List Tree)} {inner : Option Text} {xs rest : List Spaced}
    (h : Reads site (.rows rows inner) xs rest) :
    ∃ t row rows', rows = (t :: row) :: rows' := by
  cases h with
  | lastRow _ _ => exact ⟨_, _, _, rfl⟩
  | @column y t rows inner _ ys _ _ _ hrows =>
    cases rows with
    | nil => exact ⟨_, _, _, rfl⟩
    | cons row rows => exact ⟨_, _, _, rfl⟩
  | row _ _ _ => exact ⟨_, _, _, rfl⟩

/-- Joining puts the separator behind the first of several lists. -/
lemma intercalate_cons {α : Type} (sep xs : List α) {xss : List (List α)} (h : xss ≠ []) :
    sep.intercalate (xs :: xss) = xs ++ sep ++ sep.intercalate xss := by
  cases xss with
  | nil => exact absurd rfl h
  | cons ys xss => rw [List.intercalate_cons_cons, List.append_assoc]

/-- Attaching an operator adds the operator and its right operand at the end. -/
lemma marks_append (left : Tree) (lead : Option Text) (op : BinaryOp) (right : Tree) :
    (left.append lead op right).marks =
      left.marks ++ (Mark.spaces lead ++ .operator op :: right.marks) := by
  fun_induction Tree.append left lead op right with
  | case1 lead' op' s t _ ih => simp only [Tree.marks, ih, List.append_assoc, List.cons_append]
  | case2 lead' op' s t _ => simp only [Tree.marks, List.append_assoc, List.cons_append]
  | case3 left _ => simp only [Tree.marks, List.append_assoc]

/-- The marks of the arguments of a call, with those of the parenthesis behind them. -/
def argumentMarks (ts : List Tree) (inner : Option Text) : List Mark :=
  [.argumentSeparator].intercalate (ts.map Tree.marks) ++ Mark.spaces inner ++ [.closeParen]

/-- The marks of the rows of an array, with those of the brace behind them. -/
def rowMarks (rows : List (List Tree)) (inner : Option Text) : List Mark :=
  [.rowSeparator].intercalate
      (rows.map fun row => [.columnSeparator].intercalate (row.map Tree.marks)) ++
    Mark.spaces inner ++ [.closeBrace]

/-- Taking a sole omitted argument out of a call changes nothing that is written. -/
lemma filter_argumentMarks {ts : List Tree} {inner : Option Text}
    (h : ∀ t, ts.getLast? = some t → t.IsOmitted → inner = none) :
    (argumentMarks (withoutSoleOmission (ts, inner)).1 (withoutSoleOmission (ts, inner)).2).filter
        Mark.isWritten = (argumentMarks ts inner).filter Mark.isWritten := by
  rcases withoutSoleOmission_cases ts inner with ⟨lead, rfl, heq⟩ | ⟨-, heq⟩
  · obtain rfl := h _ rfl ⟨lead, rfl⟩
    rw [heq]
    cases lead <;> rfl
  · rw [heq]

/-- How an area of two cells is written. -/
lemma writtenUpTo_area {b : Bool} {x y z : Spaced} {rest : List Spaced}
    (h : Neat b (x :: y :: z :: rest)) (hy : y.symbol = .colon) :
    writtenUpTo (x :: y :: z :: rest) rest = x.image ++ ':' :: z.image := by
  obtain ⟨-, hneat, -⟩ := h
  obtain ⟨himage, hz⟩ := hneat.colon hy
  have hlead : y.lead = none := hneat.tight (by rw [hy]; rfl)
  have htake : (x :: y :: z :: rest).take ((x :: y :: z :: rest).length - rest.length) =
      [x, y, z] := by
    rw [show (x :: y :: z :: rest).length - rest.length = 3 by simp only [List.length_cons]; omega]
    rfl
  rw [writtenUpTo, htake]
  simp [written, himage, hlead, hz z rfl]

/-- What a phrase spells. The marks of a reference are those of its atom, behind the blanks in
front of its first lexeme. -/
def Phrase.Spelt (site : Site) (p : Phrase) (xs rest : List Spaced) : Prop :=
  match p with
  | expression t | operand t | primary t => NoColon rest → ∀ b, Spells site b xs rest t.marks
  | chain s t | percents s t =>
    NoColon rest → ∃ ms, t.marks = s.marks ++ ms ∧ Spells site false xs rest ms
  | reference a =>
    NoColon rest → ∀ b,
      Spells site b xs rest (Mark.spaces (xs.head?.bind Spaced.lead) ++ [.atom a])
  | areaEnd e =>
    (∃ x w, xs = x :: rest ∧ x.symbol = .cell w ∧ e = .written w x.image) ∨
      (∃ x ∈ xs.head?, x.symbol = .offsetCall) ∧ ∀ b, ∃ ms, Spells site b xs rest ms
  | arguments ts inner => ∀ b, Spells site b xs rest (argumentMarks ts inner)
  | rows ts inner => ∀ b, Spells site b xs rest (rowMarks ts inner)

/-- A cell without a colon behind it. -/
lemma Spells.cell {b : Bool} {x : Spaced} {xs : List Spaced} {w : WrittenCell}
    (hx : x.symbol = .cell w) (hxs : NoColon xs) :
    Spells site b (x :: xs) xs (Mark.spaces x.lead ++ [.atom (site.cell w x.image)]) := by
  refine .single (by simp [hx]) (by simp [Site.mark?, hx]) ?_ ?_
  · rintro w' - y z ys rfl hy
    exact absurd hy (hxs y rfl)
  · exact isWritten_atom (cell_ne_omitted w x.image)

/-! ## Areas -/

/-- An area between two cells is one mark. -/
lemma Spells.area {b : Bool} {x y z : Spaced} {rest : List Spaced} {w w' : WrittenCell} {a : Atom}
    (hx : x.symbol = .cell w) (hy : y.symbol = .colon) (hz : z.symbol = .cell w')
    (ha : Reader.area site (writtenUpTo (x :: y :: z :: rest) rest) (.written w x.image)
      (.written w' z.image) = .ok a) :
    Spells site b (x :: y :: z :: rest) rest (Mark.spaces x.lead ++ [.atom a]) where
  mem v hv := List.mem_cons_of_mem _ (List.mem_cons_of_mem _ (List.mem_cons_of_mem _ hv))
  neat h := by
    have htail := (h.tail_of_ne (by simp [hx])).tail_of_ne (by simp [hy])
    exact htail.tail_of_ne (by simp [hz])
  marks h := by
    have hwritten := isWritten_atom (area_ne_omitted ha)
    refine ⟨Mark.spaces x.lead ++ [.atom a], fun _ => (filter_spaces_append hwritten _).symm,
      fun rs hrs => ?_⟩
    rw [writtenUpTo_area h hy] at ha
    unfold Reader.area at ha
    dsimp only at ha
    split at ha
    · next a' hcells =>
      cases ha
      rw [List.append_assoc]
      exact Site.marks?_area hx hy hz hcells hrs
    · cases ha

/-- An area with an offset at one of its ends. -/
lemma Spells.offsetArea {b : Bool} {y : Spaced} {xs ys rest : List Spaced} {e e' : AreaEnd}
    (he : (Phrase.areaEnd e).Spelt site xs (y :: ys)) (hy : y.symbol = .colon)
    (he' : (Phrase.areaEnd e').Spelt site ys rest) (hrest : NoColon rest)
    (hoffset : (∃ x ∈ xs.head?, x.symbol = .offsetCall) ∨ ∃ x ∈ ys.head?, x.symbol = .offsetCall) :
    ∃ ms, Spells site b xs rest ms := by
  have hcolon : Spells site false (y :: ys) ys [.colon] :=
    .tight (by rw [hy]; rfl) (congrArg some hy.symm)
  have hlast : ∃ ms, Spells site false ys rest ms := by
    rcases he' with ⟨z, w, rfl, hz, -⟩ | ⟨-, h⟩
    · exact ⟨_, .cell hz hrest⟩
    · exact h false
  obtain ⟨ms', hlast⟩ := hlast
  rcases he with ⟨x, w, rfl, hx, -⟩ | ⟨-, h⟩
  · have hys : ∃ z ∈ ys.head?, z.symbol = .offsetCall := by
      rcases hoffset with ⟨x', hx', h⟩ | h
      · cases hx'
        cases hx.symm.trans h
      · exact h
    obtain ⟨z, hz, hzoffset⟩ := hys
    have hfirst : Spells site b (x :: y :: ys) (y :: ys)
        (Mark.spaces x.lead ++ [.atom (site.cell w x.image)]) := by
      refine .single (by simp [hx]) (by simp [Site.mark?, hx]) ?_
        (isWritten_atom (cell_ne_omitted w x.image))
      rintro w' - y' z' ys' heq - w'' hw
      cases heq
      cases hz
      cases hzoffset.symm.trans hw
    exact ⟨_, hfirst.trans (hcolon.trans hlast)⟩
  · obtain ⟨ms, hfirst⟩ := h b
    exact ⟨_, hfirst.trans (hcolon.trans hlast)⟩

/-- An area whatever its ends are. -/
lemma Spells.between {e e' : AreaEnd} {a : Atom} {y : Spaced} {xs ys rest : List Spaced}
    (he : (Phrase.areaEnd e).Spelt site xs (y :: ys)) (hy : y.symbol = .colon)
    (he' : (Phrase.areaEnd e').Spelt site ys rest)
    (ha : Reader.area site (writtenUpTo xs rest) e e' = .ok a) (hrest : NoColon rest) (b : Bool) :
    Spells site b xs rest (Mark.spaces (xs.head?.bind Spaced.lead) ++ [.atom a]) := by
  by_cases hoffset : (∃ x ∈ xs.head?, x.symbol = .offsetCall) ∨
      ∃ x ∈ ys.head?, x.symbol = .offsetCall
  · obtain ⟨ms, hspells⟩ := Spells.offsetArea (b := b) he hy he' hrest hoffset
    rcases hoffset with ⟨x, hx, hoffset⟩ | ⟨x, hx, hoffset⟩
    · exact hspells.of_offset (List.mem_of_mem_head? hx) hoffset
    · have hmem : x ∈ xs := by
        rcases he with ⟨x', w, rfl, -, -⟩ | ⟨-, h⟩
        · exact List.mem_cons_of_mem _ (List.mem_cons_of_mem _ (List.mem_of_mem_head? hx))
        · obtain ⟨_, h⟩ := h b
          exact h.mem x (List.mem_cons_of_mem _ (List.mem_of_mem_head? hx))
      exact hspells.of_offset hmem hoffset
  · rw [not_or] at hoffset
    rcases he with ⟨x, w, rfl, hx, rfl⟩ | ⟨h, -⟩
    · rcases he' with ⟨z, w', rfl, hz, rfl⟩ | ⟨h, -⟩
      · exact .area hx hy hz ha
      · exact absurd h hoffset.2
    · exact absurd h hoffset.1

/-! ## All phrases -/

/-- The marks of a call are its function and those of its arguments. -/
lemma marks_call (lead : Option Text) (function : Text) (ts : List Tree) (inner : Option Text) :
    (Tree.call lead function ts inner).marks =
      Mark.spaces lead ++ [.call function] ++ argumentMarks ts inner := by
  simp [Tree.marks_call, argumentMarks]

/-- The marks of an array are its opening brace and those of its rows. -/
lemma marks_array (lead : Option Text) (rows : List (List Tree)) (inner : Option Text) :
    (Tree.array lead rows inner).marks =
      Mark.spaces lead ++ [.openBrace] ++ rowMarks rows inner := by
  simp [Tree.marks_array, rowMarks]

/-- The marks of several arguments are those of the first, a separator and those of the others. -/
lemma argumentMarks_cons {t : Tree} {ts : List Tree} (h : ts ≠ []) (inner : Option Text) :
    argumentMarks (t :: ts) inner = t.marks ++ .argumentSeparator :: argumentMarks ts inner := by
  have hmap : ts.map Tree.marks ≠ [] := by simpa using h
  rw [argumentMarks, List.map_cons, intercalate_cons _ _ hmap]
  simp [argumentMarks]

/-- The marks behind the last member of a row are a separator and those of the other rows. -/
lemma rowMarks_cons {t : Tree} {rows : List (List Tree)} (h : rows ≠ []) (inner : Option Text) :
    rowMarks ([t] :: rows) inner = t.marks ++ .rowSeparator :: rowMarks rows inner := by
  have hmap : rows.map (fun row => [Mark.columnSeparator].intercalate (row.map Tree.marks)) ≠ [] := by
    simpa using h
  rw [rowMarks, List.map_cons, intercalate_cons _ _ hmap]
  simp [rowMarks, List.intercalate_singleton]

/-- The marks of rows with a tree put in front are those of the tree, a separator and those of the
rows. -/
lemma rowMarks_intoFirstRow {t : Tree} {rows : List (List Tree)}
    (h : ∃ u row rows', rows = (u :: row) :: rows') (inner : Option Text) :
    rowMarks (intoFirstRow t rows) inner = t.marks ++ .columnSeparator :: rowMarks rows inner := by
  obtain ⟨u, row, rows', rfl⟩ := h
  have hrow : [Mark.columnSeparator].intercalate (t.marks :: u.marks :: row.map Tree.marks) =
      t.marks ++ [.columnSeparator] ++
        [Mark.columnSeparator].intercalate (u.marks :: row.map Tree.marks) :=
    intercalate_cons _ _ (List.cons_ne_nil _ _)
  simp only [intoFirstRow, rowMarks, List.map_cons]
  rw [hrow]
  generalize [Mark.columnSeparator].intercalate (u.marks :: row.map Tree.marks) = ms
  cases rows' with
  | nil => simp
  | cons row' rows' =>
    simp only [List.map_cons, List.intercalate_cons_cons]
    simp

/-- A sign is written like the operator. -/
lemma symbol_of_sign? {s : Symbol} {sign : Sign} (h : sign? s = some sign) :
    s = .operator sign.operator := by
  cases s with
  | operator op => rw [BinaryOp.sign?_eq_some_iff.mp h]
  | _ => cases h

/-- What is read spells the marks of what it is read as. -/
theorem Reads.spelt {p : Phrase} {xs rest : List Spaced} (h : Reads site p xs rest) :
    p.Spelt site xs rest := by
  -- One case for each rule. The lexemes of the parts stand one after the other and so do their
  -- marks, which `Spells.trans` puts together.
  induction h with
  | expression _ hc ihs ihc =>
    intro hrest b
    obtain ⟨ms, hms, hspells⟩ := ihc hrest
    rw [hms]
    exact (ihs (hc.noColon_chain hrest) b).trans hspells
  | chainEnd _ => exact fun _ => ⟨[], (List.append_nil _).symm, .nil⟩
  | @chainStep t t' right x op xs ys rest hx _ hc ihr ihc =>
    intro hrest
    obtain ⟨ms, hms, hspells⟩ := ihc hrest
    have hop : Spells site false (x :: xs) xs (Mark.spaces x.lead ++ [.operator op]) :=
      .symbol (congrArg some hx.symm) (by simp)
    refine ⟨_, ?_, (hop.trans (ihr (hc.noColon_chain hrest) false)).trans hspells⟩
    rw [hms, marks_append]
    simp
  | @sign t x sign xs rest hx _ ih =>
    intro hrest b
    have hop := symbol_of_sign? hx
    have hsign : Spells site b (x :: xs) xs (Mark.spaces x.lead ++ [.operator sign.operator]) :=
      .symbol (congrArg some hop.symm) (by simp)
    have hspells := hsign.trans (ih hrest false)
    rwa [List.append_assoc] at hspells
  | unsigned _ _ hp ihprimary ihp =>
    intro hrest b
    obtain ⟨ms, hms, hspells⟩ := ihp hrest
    rw [hms]
    exact (ihprimary (hp.noColon_percents hrest) b).trans hspells
  | percentsEnd _ => exact fun _ => ⟨[], (List.append_nil _).symm, .nil⟩
  | @percentsStep t t' x xs rest hx _ ih =>
    intro hrest
    obtain ⟨ms, hms, hspells⟩ := ih hrest
    have hpercent : Spells site false (x :: xs) xs (Mark.spaces x.lead ++ [.percent]) :=
      .symbol (congrArg some hx.symm) (by simp)
    refine ⟨_, ?_, hpercent.trans hspells⟩
    rw [hms]
    simp [Tree.marks]
  | @constant x a xs hcell ha =>
    intro _ b
    refine .single ?_ ha (fun w hw => absurd hw (hcell w))
      (isWritten_atom (not_omitted_of_mark? hcell ha))
    intro hx
    simp [Site.mark?, hx] at ha
  | reference _ ih => exact fun hrest b => ih hrest b
  | @call x function ts inner xs rest hx hts ih =>
    intro _ b
    obtain ⟨-, -, hlast⟩ := hts.isCanonical
    have hcall : Spells site b (x :: xs) xs (Mark.spaces x.lead ++ [.call function]) :=
      .symbol (congrArg some hx.symm) (by simp)
    refine (hcall.trans (ih false)).congr ?_
    rw [marks_call, List.filter_append, List.filter_append _ (argumentMarks _ _),
      filter_argumentMarks hlast]
  | @parens x y t xs rest hx _ hy ih =>
    intro _ b
    have hopen : Spells site b (x :: xs) xs (Mark.spaces x.lead ++ [.openParen]) :=
      .symbol (congrArg some hx.symm) (by simp)
    have hclose : Spells site false (y :: rest) rest (Mark.spaces y.lead ++ [.closeParen]) :=
      .symbol (congrArg some hy.symm) (by simp)
    have hcontent := ih (noColon_cons (by simp [hy]) _) false
    have hspells := (hopen.trans hcontent).trans hclose
    simpa [Tree.marks] using hspells
  | @array x rows inner xs rest hx _ _ ih =>
    intro _ b
    have hopen : Spells site b (x :: xs) xs (Mark.spaces x.lead ++ [.openBrace]) :=
      .symbol (congrArg some hx.symm) (by simp)
    rw [marks_array]
    exact hopen.trans (ih false)
  | @lone e xs rest he hend ih =>
    intro hrest b
    rcases ih with ⟨x, w, rfl, hx, rfl⟩ | ⟨⟨x, hx, hoffset⟩, hspells⟩
    · exact .cell hx hrest
    · obtain ⟨ms, hspells⟩ := hspells b
      exact hspells.of_offset (List.mem_of_mem_head? hx) hoffset
  | area _ hy _ ha ihe ihe' => exact fun hrest b => .between ihe hy ihe' ha hrest b
  | cell hx => exact Or.inl ⟨_, _, rfl, hx, rfl⟩
  | @offset x ts inner a xs rest hx _ _ ih =>
    refine Or.inr ⟨⟨x, rfl, hx⟩, fun b => ?_⟩
    have hcall : Spells site b (x :: xs) xs (Mark.spaces x.lead ++ [.offsetCall]) :=
      .symbol (congrArg some hx.symm) (by simp)
    exact ⟨_, hcall.trans (ih false)⟩
  | @lastOmitted x xs hx =>
    intro b
    have hclose : Spells site b (x :: xs) xs (Mark.spaces x.lead ++ [.closeParen]) :=
      .symbol (congrArg some hx.symm) (by simp)
    refine hclose.congr ?_
    cases x.lead <;> rfl
  | @omitted x ts inner xs rest hx hts ih =>
    intro b
    refine (Spells.separator hx (ih true)).congr ?_
    rw [argumentMarks_cons hts.arguments_ne_nil]
    cases x.lead <;> rfl
  | @lastArgument y t xs rest _ hy ih =>
    intro b
    have hclose : Spells site false (y :: rest) rest (Mark.spaces y.lead ++ [.closeParen]) :=
      .symbol (congrArg some hy.symm) (by simp)
    have hspells := (ih (noColon_cons (by simp [hy]) _) b).trans hclose
    simpa [argumentMarks] using hspells
  | @argument y t ts inner xs ys rest _ hy hts iht ihts =>
    intro b
    rw [argumentMarks_cons hts.arguments_ne_nil]
    exact (iht (noColon_cons (by simp [hy]) _) b).trans (.separatorBehind hy (ihts true))
  | @lastRow y t xs rest _ hy ih =>
    intro b
    have hclose : Spells site false (y :: rest) rest (Mark.spaces y.lead ++ [.closeBrace]) :=
      .symbol (congrArg some hy.symm) (by simp)
    have hspells := (ih (noColon_cons (by simp [hy]) _) b).trans hclose
    simpa [rowMarks] using hspells
  | @column y t rows inner xs ys rest _ hy hrows iht ihrows =>
    intro b
    have hsep : Spells site false (y :: ys) ys [.columnSeparator] :=
      .tight (by rw [hy]; rfl) (congrArg some hy.symm)
    rw [rowMarks_intoFirstRow hrows.rows_eq_cons]
    exact (iht (noColon_cons (by simp [hy]) _) b).trans (hsep.trans (ihrows false))
  | @row y t rows inner xs ys rest _ hy hrows iht ihrows =>
    intro b
    have hsep : Spells site false (y :: ys) ys [.rowSeparator] :=
      .tight (by rw [hy]; rfl) (congrArg some hy.symm)
    have hne : rows ≠ [] := by
      obtain ⟨u, row, rows', rfl⟩ := hrows.rows_eq_cons
      exact List.cons_ne_nil _ _
    rw [rowMarks_cons hne]
    exact (iht (noColon_cons (by simp [hy]) _) b).trans (hsep.trans (ihrows false))

/-- The lexemes of a formula make the marks that its tree spells, behind the equals sign. -/
theorem marks?_of_formula {xs : List Spaced} {t : Tree} (h : formula site xs = .ok t)
    (hneat : Neat false xs) :
    ∃ ms, site.marks? xs = some (.operator .equal :: ms) ∧
      ((∀ x ∈ xs, x.symbol ≠ .offsetCall) → ms = t.spelling) := by
  obtain ⟨x, ys, rfl, hx, hlead, ht⟩ := formula_eq_ok_iff.mp h
  have hys : Neat false ys := hneat.tail_of_ne (by simp [hx])
  obtain ⟨ms, hms, hmarks⟩ := (ht.spelt noColon_nil false).marks hys
  have hrest : site.marks? ys = some ms := by
    rw [hmarks [] rfl, List.append_nil]
  have hmark : site.mark? x = some (.operator .equal) := by simp [Site.mark?, hx]
  have hfirst := Site.marks?_cons hmark hrest fun w hw => by cases hx.symm.trans hw
  rw [hlead] at hfirst
  exact ⟨ms, hfirst, fun hfree => hms (List.forall_mem_cons.mp hfree).2⟩

end

end Reader

/-- A lexeme with blanks attached comes from a lexeme with its symbol. -/
lemma exists_mem_of_mem_spaced {xs : List Lexeme} {y : Spaced} (h : y ∈ spaced xs) :
    ∃ x ∈ xs, x.symbol = y.symbol := by
  have hmem := List.mem_map_of_mem (f := Spaced.symbol) h
  rw [map_symbol_spaced] at hmem
  obtain ⟨x, hx, hsymbol⟩ := List.mem_map.mp hmem
  exact ⟨x, List.mem_of_mem_filter hx, hsymbol⟩

namespace Site

/-- The lexemes of a formula have a key, which is that of its tree if there is no offset. -/
lemma key?_of_formula {site : Site} {text : Text} {xs : List Lexeme} {t : Tree}
    (hlex : lex site.locale text = .ok xs) (ht : Reader.formula site (spaced xs) = .ok t) :
    ∃ key, site.key? xs = some key ∧ ((∀ x ∈ xs, x.symbol ≠ .offsetCall) → key = t.key) := by
  obtain ⟨ms, hmarks, hms⟩ := Reader.marks?_of_formula ht (neat_spaced hlex)
  refine ⟨'=' :: ms.flatMap Mark.key, by rw [key?, hmarks]; rfl, fun hfree => ?_⟩
  have hspelling : ms = t.spelling := by
    refine hms fun y hy hoffset => ?_
    obtain ⟨x, hx, hsymbol⟩ := exists_mem_of_mem_spaced hy
    exact hfree x hx (hsymbol.trans hoffset)
  rw [hspelling, t.key_eq_spelling]

/-- The key of a formula found from its lexemes is that of its tree, unless it has an offset. With
offsets there is still a key. -/
theorem key?_of_isFormula (site : Site) {text : Text} {xs : List Lexeme}
    (hlex : lex site.locale text = .ok xs) (h : (site.readLexemes text xs).isFormula = true) :
    ((∀ x ∈ xs, x.symbol ≠ .offsetCall) →
        site.key? xs = some (site.readLexemes text xs).tree.key) ∧
      site.key? xs ≠ none := by
  unfold readLexemes at h ⊢
  cases ht : Reader.formula site (spaced xs) with
  | error fault =>
    rw [ht] at h
    cases h
  | ok t =>
    obtain ⟨key, hkey, hfree⟩ := key?_of_formula hlex ht
    rw [hkey]
    exact ⟨fun h => congrArg some (hfree h), nofun⟩

/-- A call with an argument that is left out, a reference and a sign. -/
theorem key?_of_isFormula_call :
    let site : Site := ⟨.unitedStates, ⟨fun _ => none, fun _ => none⟩, ⟨0, 1, 0⟩⟩
    let text := "=SUM( -A1%,)".toList
    let xs : List Lexeme :=
      [⟨.operator .equal, "=".toList⟩, ⟨.call "SUM".toList, "SUM(".toList⟩, ⟨.blank, " ".toList⟩,
        ⟨.operator .minus, "-".toList⟩,
        ⟨.cell ⟨none, ⟨.relative, 0⟩, ⟨.relative, 0⟩⟩, "A1".toList⟩, ⟨.percent, "%".toList⟩,
        ⟨.argumentSeparator, ",".toList⟩, ⟨.closeParen, ")".toList⟩]
    lex site.locale text = .ok xs ∧ (site.readLexemes text xs).isFormula = true ∧
      (∀ x ∈ xs, x.symbol ≠ .offsetCall) ∧
      site.key? xs = some (site.readLexemes text xs).tree.key ∧ site.key? xs ≠ none ∧
      (site.readLexemes text xs).tree.key = "=SUM( -#R-1R0%,)".toList := by
  intro site text xs
  have hlex : lex site.locale text = .ok xs := by decide +kernel
  have hformula : (site.readLexemes text xs).isFormula = true := by decide +kernel
  have hfree : ∀ x ∈ xs, x.symbol ≠ .offsetCall := by decide +kernel
  obtain ⟨hkey, hne⟩ := key?_of_isFormula site hlex hformula
  exact ⟨hlex, hformula, hfree, hkey hfree, hne, by decide +kernel⟩

end Site

end GridFormula
