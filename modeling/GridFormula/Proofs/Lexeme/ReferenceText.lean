import GridFormula.Lexeme.Reference
import GridFormula.Proofs.Text.Character
import GridFormula.Proofs.Text.Cutting

/-!
# How references are written

The reader of references looks ahead: behind the letters of a column for a colon or a row, behind a
word for the exclamation mark of a sheet, and behind the whole for a character that would go on with
it. Here the texts that it takes for a reference are described without looking ahead. Such a text is
read as the same reference wherever it stands, as long as what follows cannot go on with it.
-/

namespace GridFormula

namespace Scan

/-- What stands in front of a reference for a sheet. -/
inductive SheetText : Option Text → Text → Prop where
  | absent : SheetText none []
  | quoted (name : Text) : SheetText (some name) (Text.quoted '\'' name ++ ['!'])
  | plain {c : Char} {s : Text} :
    startsName c = true → (∀ d ∈ s, continuesName d = true) →
      SheetText (some (c :: s)) (c :: s ++ ['!'])

/-- What stands in front of a row or column for its kind. -/
def anchorText : Anchor → Text
  | .absolute => ['$']
  | .relative => []

/-- How a row or column is written. -/
inductive IndexText : Axis → WrittenIndex → Text → Prop where
  | column {anchor : Anchor} {letters : Text} :
    letters ≠ [] → letters.length ≤ 3 → (∀ c ∈ letters, c.isAlpha = true) →
      IndexText .column ⟨anchor, ColumnName.value letters - 1⟩ (anchorText anchor ++ letters)
  | row {anchor : Anchor} {digits : Text} :
    (∀ c ∈ digits, c.isDigit = true) → Text.toNat digits ≠ 0 →
      IndexText .row ⟨anchor, min (Text.toNat digits) greatestRowNumber - 1⟩
        (anchorText anchor ++ digits)

/-- How a cell is written. -/
inductive CellText : WrittenCell → Text → Prop where
  | mk {sheet : Option Text} {column row : WrittenIndex} {p c d : Text} :
    SheetText sheet p → IndexText .column column c → IndexText .row row d →
      CellText ⟨sheet, column, row⟩ (p ++ (c ++ d))

/-- How a run of rows or columns is written. -/
inductive LinesText : Axis → WrittenLine → WrittenLine → Text → Prop where
  | mk {axis : Axis} {sheet sheet' : Option Text} {first last : WrittenIndex} {p c q d : Text} :
    SheetText sheet p → IndexText axis first c → SheetText sheet' q → IndexText axis last d →
      LinesText axis ⟨sheet, first⟩ ⟨sheet', last⟩ (p ++ (c ++ ':' :: (q ++ d)))

/-- What follows does not go on with a reference. -/
structure EndsReference (rest : Text) : Prop where
  ends : runsOn rest = false
  noMark : rest.head? ≠ some '!'

/-! ## Sheets -/

/-- A quote starts no name. -/
lemma startsName_quote : startsName '\'' = false := by
  decide

/-- An exclamation mark ends a name. -/
lemma continuesName_mark : continuesName '!' = false := by
  decide

/-- The name of a sheet is read back. -/
lemma sheetFront_append {name p : Text} (h : SheetText (some name) p) (s : Text) :
    sheetFront (p ++ s) = .present name s := by
  cases h with
  | quoted =>
    have hstop : Text.StopsAt (· = '\'') ('!' :: s) := Text.stopsAt_cons (by decide) s
    have hread := Text.unquoted?_doubled name hstop
    simp only [Text.quoted, List.cons_append, List.append_assoc, List.nil_append, sheetFront,
      if_true]
    rw [hread]
    rfl
  | @plain c t hc ht =>
    have hquote : c ≠ '\'' := by
      rintro rfl
      cases startsName_quote.symm.trans hc
    have hstop : Text.StopsAt continuesName ('!' :: s) :=
      Text.stopsAt_cons continuesName_mark s
    simp only [List.cons_append, List.append_assoc, List.nil_append, sheetFront, if_neg hquote,
      if_pos hc]
    rw [Text.dropWhile_append ht hstop, Text.takeWhile_append ht hstop]
    rfl

/-- Whatever the name of a sheet is, it can be written in front of a reference. -/
lemma sheetText_written (name : Text) : SheetText (some name) (SheetName.written name ++ ['!']) := by
  cases hquotes : SheetName.needsQuotes name with
  | true =>
    rw [SheetName.written_of_needsQuotes hquotes]
    exact .quoted name
  | false =>
    rw [SheetName.written_of_not_needsQuotes hquotes]
    cases name with
    | nil => cases hquotes
    | cons c s =>
      simp only [SheetName.needsQuotes, Bool.or_eq_false_iff, Bool.not_eq_false',
        Bool.and_eq_true, List.all_eq_true] at hquotes
      exact .plain hquotes.1.1 hquotes.1.2

/-- What is read in the place of a sheet was written there. -/
lemma sheetText_of_sheetFront {s name rest : Text} (h : sheetFront s = .present name rest) :
    ∃ p, SheetText (some name) p ∧ s = p ++ rest := by
  unfold sheetFront at h
  split at h
  · cases h
  · next c s =>
    split at h
    · next hc =>
      subst hc
      split at h
      · cases h
      · next name' rest' hread =>
        split at h
        · cases h
          obtain ⟨rfl, -⟩ := Text.eq_of_unquoted? hread
          exact ⟨_, .quoted _, by simp [Text.quoted]⟩
        · cases h
    · split at h
      · next hc =>
        split at h
        · next hdrop =>
          cases h
          refine ⟨_, .plain hc (Text.forall_mem_takeWhile _ _), ?_⟩
          simp only [List.cons_append, List.append_assoc, List.nil_append]
          rw [← hdrop, List.takeWhile_append_dropWhile]
        · cases h
      · cases h

/-- Where a word is not followed by an exclamation mark, and no quote stands in front, there is no
sheet. -/
lemma sheetFront_eq_absent {s : Text} (hquote : s.head? ≠ some '\'')
    (hmark : (s.dropWhile continuesName).head? ≠ some '!') : sheetFront s = .absent := by
  unfold sheetFront
  split
  · rfl
  · next c s =>
    have hc : c ≠ '\'' := by simpa using hquote
    rw [if_neg hc]
    split
    · next hstart =>
      rw [List.dropWhile_cons_of_pos (continuesName_of_startsName hstart)] at hmark
      split
      · next hdrop =>
        rw [hdrop] at hmark
        exact absurd rfl hmark
      · rfl
    · rfl

/-! ## Rows and columns -/

/-- The characters of which the name of a row or column consists. -/
def part : Axis → Char → Bool
  | .column => Char.isAlpha
  | .row => Char.isDigit

/-- The characters of an index go on with a name. -/
lemma continuesName_of_part {axis : Axis} {c : Char} (h : part axis c = true) :
    continuesName c = true := by
  cases axis with
  | row => exact continuesName_of_isDigit h
  | column => exact continuesName_of_isAlpha h

/-- The kind and the name of a row or column stand apart. -/
lemma IndexText.exists_body {axis : Axis} {w : WrittenIndex} {t : Text} (h : IndexText axis w t) :
    ∃ c body, t = anchorText w.anchor ++ c :: body ∧ ∀ d ∈ c :: body, part axis d = true := by
  cases h with
  | @column anchor letters hne hlen hletters =>
    cases letters with
    | nil => exact absurd rfl hne
    | cons c body => exact ⟨c, body, rfl, hletters⟩
  | @row anchor digits hdigits hne =>
    cases digits with
    | nil => exact absurd rfl hne
    | cons c body => exact ⟨c, body, rfl, hdigits⟩

/-- A `$`, or none, is read in front of anything but a `$`. -/
lemma anchor_append {anchor : Anchor} {c : Char} {s : Text} (hc : c ≠ '$') :
    Scan.anchor (anchorText anchor ++ c :: s) = (anchor, c :: s) := by
  cases anchor with
  | absolute => rfl
  | relative =>
    rw [anchorText, List.nil_append, Scan.anchor]
    · intro s' heq
      exact hc (List.cons.inj heq).1

/-- The `$` that is read and what follows it make up the text. -/
lemma eq_anchorText_append (s : Text) : s = anchorText (anchor s).1 ++ (anchor s).2 := by
  unfold anchor
  split <;> rfl

/-- A `$` is no part of an index. -/
lemma ne_dollar_of_part (axis : Axis) {c : Char} (h : part axis c = true) : c ≠ '$' := by
  rintro rfl
  cases axis <;> cases h

/-- A row or column is read back. -/
lemma linePart_append {axis : Axis} {w : WrittenIndex} {t rest : Text} (h : IndexText axis w t)
    (hrest : Text.StopsAt (part axis) rest) : linePart axis (t ++ rest) = some (w, rest) := by
  cases h with
  | @column anchor letters hne hlen hletters =>
    obtain ⟨c, body, rfl⟩ := List.exists_cons_of_ne_nil hne
    have hc : c ≠ '$' := ne_dollar_of_part .column (hletters c List.mem_cons_self)
    rw [linePart, columnPart, List.append_assoc, List.cons_append, anchor_append hc,
      ← List.cons_append]
    simp only [Text.takeWhile_append hletters hrest, Text.dropWhile_append hletters hrest]
    rw [if_neg]
    rintro (h | h)
    · cases h
    · omega
  | @row anchor digits hdigits hne =>
    cases digits with
    | nil => exact absurd rfl hne
    | cons c body =>
      have hc : c ≠ '$' := ne_dollar_of_part .row (hdigits c List.mem_cons_self)
      have hmin : min (Text.toNat (c :: body)) greatestRowNumber ≠ 0 := by
        unfold greatestRowNumber
        omega
      rw [linePart, rowPart, List.append_assoc, List.cons_append, anchor_append hc,
        ← List.cons_append]
      simp only [Text.takeWhile_append hdigits hrest, Text.dropWhile_append hdigits hrest]
      rw [if_neg hmin]

/-- What is read as a row or column was written as one. -/
lemma indexText_of_linePart (axis : Axis) {w : WrittenIndex} {s rest : Text}
    (h : linePart axis s = some (w, rest)) :
    ∃ t, IndexText axis w t ∧ s = t ++ rest ∧ Text.StopsAt (part axis) rest := by
  have hs := eq_anchorText_append s
  cases axis with
  | column =>
    rw [linePart, columnPart] at h
    dsimp only at h
    split at h
    · cases h
    · next hletters =>
      rw [not_or] at hletters
      cases h
      refine ⟨_, .column hletters.1 (by omega) (Text.forall_mem_takeWhile _ _), ?_,
        Text.stopsAt_dropWhile _ _⟩
      rw [List.append_assoc, List.takeWhile_append_dropWhile]
      exact hs
  | row =>
    rw [linePart, rowPart] at h
    dsimp only at h
    split at h
    · cases h
    · next hnumber =>
      cases h
      refine ⟨_, .row (Text.forall_mem_takeWhile _ _) ?_, ?_, Text.stopsAt_dropWhile _ _⟩
      · intro hzero
        rw [hzero] at hnumber
        exact hnumber rfl
      · rw [List.append_assoc, List.takeWhile_append_dropWhile]
        exact hs

/-- A column is no row, and a row is no column. -/
lemma linePart_eq_none {axis other : Axis} {w : WrittenIndex} {t rest : Text}
    (h : IndexText axis w t) (hne : other ≠ axis) : linePart other (t ++ rest) = none := by
  obtain ⟨c, body, rfl, hbody⟩ := h.exists_body
  have hc := hbody c List.mem_cons_self
  have hanchor : Scan.anchor (anchorText w.anchor ++ c :: (body ++ rest)) = _ :=
    anchor_append (ne_dollar_of_part _ hc)
  cases axis with
  | row =>
    cases other with
    | row => exact absurd rfl hne
    | column =>
      have halpha : ¬c.isAlpha = true := by
        rw [Text.isAlpha_of_isDigit hc]
        decide
      rw [linePart, columnPart, List.append_assoc, List.cons_append, hanchor]
      simp [halpha]
  | column =>
    cases other with
    | column => exact absurd rfl hne
    | row =>
      have hdigit : ¬c.isDigit = true := by
        intro hd
        cases (Text.isAlpha_of_isDigit hd).symm.trans hc
      rw [linePart, rowPart, List.append_assoc, List.cons_append, hanchor]
      simp [hdigit, Text.toNat]

/-! ## Cells and runs of lines -/

/-- Where a reference ends a name ends. -/
lemma EndsReference.stopsAt {rest : Text} (h : EndsReference rest) :
    Text.StopsAt continuesName rest := by
  intro c hc
  cases rest with
  | nil => cases hc
  | cons d rest =>
    cases hc
    have hrun := h.ends
    rw [runsOn] at hrun
    grind

/-- Where a reference ends an index ends. -/
lemma EndsReference.stopsAt_part {rest : Text} (h : EndsReference rest) (axis : Axis) :
    Text.StopsAt (part axis) rest :=
  h.stopsAt.mono fun c hc => by
    by_contra hpart
    have hpart : part axis c = true := by simpa using hpart
    cases hc.symm.trans (continuesName_of_part hpart)

/-- A reference may end with the text. -/
lemma endsReference_nil : EndsReference [] :=
  ⟨rfl, nofun⟩

/-- A reference may end in front of a colon. -/
lemma endsReference_colon (s : Text) : EndsReference (':' :: s) where
  ends := by
    rw [runsOn]
    decide
  noMark := by simp

/-- No sheet is read in front of a row or column. -/
lemma sheetFront_index {axis : Axis} {w : WrittenIndex} {t rest : Text} (h : IndexText axis w t)
    (hrest : (rest.dropWhile continuesName).head? ≠ some '!') :
    sheetFront (t ++ rest) = .absent := by
  obtain ⟨c, body, rfl, hbody⟩ := h.exists_body
  have hdrop : (c :: (body ++ rest)).dropWhile continuesName = rest.dropWhile continuesName := by
    rw [← List.cons_append, List.dropWhile_append_of_pos fun d hd =>
      continuesName_of_part (hbody d hd)]
  have hquote : c ≠ '\'' := by
    rintro rfl
    cases axis <;> cases hbody _ List.mem_cons_self
  rw [List.append_assoc, List.cons_append]
  cases w.anchor with
  | absolute =>
    refine sheetFront_eq_absent (by simp [anchorText]) ?_
    rw [anchorText, List.singleton_append, List.dropWhile_cons_of_neg (by decide)]
    simp
  | relative =>
    refine sheetFront_eq_absent (by simpa [anchorText] using hquote) ?_
    rw [anchorText, List.nil_append, hdrop]
    exact hrest

/-- Behind a reference no exclamation mark makes its end a sheet. -/
lemma EndsReference.dropWhile {rest : Text} (h : EndsReference rest) :
    (rest.dropWhile continuesName).head? ≠ some '!' := by
  have hdrop : rest.dropWhile continuesName = rest := by
    simpa using Text.dropWhile_append (s := []) (fun c hc => absurd hc List.not_mem_nil) h.stopsAt
  rw [hdrop]
  exact h.noMark

/-- A row with or without a `$` ends a run of letters. -/
lemma stopsAt_isAlpha_row {w : WrittenIndex} {t : Text} (h : IndexText .row w t) (rest : Text) :
    Text.StopsAt Char.isAlpha (t ++ rest) := by
  obtain ⟨c, body, rfl, hbody⟩ := h.exists_body
  rw [List.append_assoc, List.cons_append]
  cases w.anchor with
  | absolute => exact Text.stopsAt_cons (by decide) _
  | relative => exact Text.stopsAt_cons (Text.isAlpha_of_isDigit (hbody c List.mem_cons_self)) _

/-- An index does not start with a colon. -/
lemma head_index_ne_colon {axis : Axis} {w : WrittenIndex} {t : Text} (h : IndexText axis w t)
    (rest s : Text) : t ++ rest ≠ ':' :: s := by
  obtain ⟨c, body, rfl, hbody⟩ := h.exists_body
  rw [List.append_assoc, List.cons_append]
  intro heq
  cases hanchor : w.anchor with
  | absolute =>
    rw [hanchor, anchorText, List.singleton_append] at heq
    exact absurd (List.cons.inj heq).1 (by decide)
  | relative =>
    rw [hanchor, anchorText, List.nil_append] at heq
    obtain ⟨rfl, -⟩ := List.cons.inj heq
    cases axis <;> cases hbody _ List.mem_cons_self

/-- Where the first row or column is not followed by a colon, there is no run of them. -/
lemma linesReference_eq_none {axis : Axis} {sheet : Option Text} {s : Text}
    (h : ∀ w s', linePart axis s ≠ some (w, ':' :: s')) : linesReference axis sheet s = none := by
  unfold linesReference
  split
  · next hw => exact absurd hw (h _ _)
  · rfl

/-- A cell is read back behind its sheet. -/
lemma bareReference_cell (sheet : Option Text) {column row : WrittenIndex} {c d rest : Text}
    (hc : IndexText .column column c) (hd : IndexText .row row d) (hrest : EndsReference rest) :
    bareReference sheet (c ++ (d ++ rest)) = some (.cell ⟨sheet, column, row⟩, rest) := by
  have hcolumn := linePart_append hc (stopsAt_isAlpha_row hd rest)
  have hrow := linePart_append hd (hrest.stopsAt_part .row)
  have hcolumns : linesReference .column sheet (c ++ (d ++ rest)) = none := by
    refine linesReference_eq_none fun w s' heq => ?_
    rw [hcolumn] at heq
    exact head_index_ne_colon hd rest s' (Prod.mk.inj (Option.some.inj heq)).2
  have hrows : linesReference .row sheet (c ++ (d ++ rest)) = none := by
    refine linesReference_eq_none fun w s' heq => ?_
    rw [linePart_eq_none hc (by decide)] at heq
    cases heq
  have hcolumn : columnPart (c ++ (d ++ rest)) = some (column, d ++ rest) := hcolumn
  have hrow : rowPart (d ++ rest) = some (row, rest) := hrow
  rw [bareReference, hcolumns, hrows, cellReference, hcolumn]
  dsimp only
  rw [hrow]
  dsimp only
  rw [hrest.ends]
  rfl

/-- A run of lines is read back behind its sheet. -/
lemma linesReference_append {axis : Axis} (sheet : Option Text) {sheet' : Option Text}
    {first last : WrittenIndex} {c q d rest : Text} (hc : IndexText axis first c)
    (hq : SheetText sheet' q) (hd : IndexText axis last d) (hrest : EndsReference rest) :
    linesReference axis sheet (c ++ ':' :: (q ++ (d ++ rest))) =
      some (.lines axis ⟨sheet, first⟩ ⟨sheet', last⟩, rest) := by
  have hfirst := linePart_append hc ((endsReference_colon (q ++ (d ++ rest))).stopsAt_part axis)
  have hlast := linePart_append hd (hrest.stopsAt_part axis)
  unfold linesReference
  rw [hfirst]
  cases sheet' with
  | none =>
    cases hq
    have hsheet := sheetFront_index hd hrest.dropWhile
    simp only [List.nil_append, hsheet, hlast, Option.map_some, hrest.ends]
    rfl
  | some name =>
    simp only [sheetFront_append hq, hlast, Option.map_some, hrest.ends]
    rfl

/-- A written run of lines is read as this run. -/
lemma bareReference_lines {axis : Axis} (sheet : Option Text) {sheet' : Option Text}
    {first last : WrittenIndex} {c q d rest : Text} (hc : IndexText axis first c)
    (hq : SheetText sheet' q) (hd : IndexText axis last d) (hrest : EndsReference rest) :
    bareReference sheet (c ++ ':' :: (q ++ (d ++ rest))) =
      some (.lines axis ⟨sheet, first⟩ ⟨sheet', last⟩, rest) := by
  have hlines := linesReference_append sheet hc hq hd hrest
  cases axis with
  | column => rw [bareReference, hlines, Option.some_or]
  | row =>
    have hcolumns : linesReference .column sheet (c ++ ':' :: (q ++ (d ++ rest))) = none := by
      refine linesReference_eq_none fun w s' heq => ?_
      rw [linePart_eq_none hc (by decide)] at heq
      cases heq
    rw [bareReference, hcolumns, hlines]
    rfl

/-- A cell is read back wherever nothing goes on with it. -/
theorem referenceFront_cell {w : WrittenCell} {t rest : Text} (h : CellText w t)
    (hrest : EndsReference rest) : referenceFront (t ++ rest) = .present (.cell w) rest := by
  cases h with
  | @mk sheet column row p c d hp hc hd =>
    have hbare := bareReference_cell sheet hc hd hrest
    rw [List.append_assoc, List.append_assoc]
    cases sheet with
    | none =>
      cases hp
      have hdrop : ((d ++ rest).dropWhile continuesName).head? ≠ some '!' := by
        obtain ⟨e, body, rfl, hbody⟩ := hd.exists_body
        cases row.anchor with
        | absolute =>
          rw [anchorText, List.append_assoc, List.singleton_append,
            List.dropWhile_cons_of_neg (by decide)]
          simp
        | relative =>
          rw [anchorText, List.nil_append, List.dropWhile_append_of_pos fun c hc =>
            continuesName_of_part (hbody c hc)]
          exact hrest.dropWhile
      rw [List.nil_append, referenceFront, sheetFront_index hc hdrop]
      dsimp only
      rw [hbare]
    | some name =>
      rw [referenceFront, sheetFront_append hp]
      dsimp only
      rw [hbare]

/-- A run of lines is read back wherever nothing goes on with it. -/
theorem referenceFront_lines {axis : Axis} {a b : WrittenLine} {t rest : Text}
    (h : LinesText axis a b t) (hrest : EndsReference rest) :
    referenceFront (t ++ rest) = .present (.lines axis a b) rest := by
  cases h with
  | @mk sheet sheet' first last p c q d hp hc hq hd =>
    have hbare := bareReference_lines sheet hc hq hd hrest
    simp only [List.append_assoc, List.cons_append]
    cases sheet with
    | none =>
      cases hp
      have hdrop : ((':' :: (q ++ (d ++ rest))).dropWhile continuesName).head? ≠ some '!' :=
        (endsReference_colon _).dropWhile
      rw [List.nil_append, referenceFront, sheetFront_index hc hdrop]
      dsimp only
      rw [hbare]
    | some name =>
      rw [referenceFront, sheetFront_append hp]
      dsimp only
      rw [hbare]

/-! ## What is read as a reference -/

/-- What is read as a run of lines is a text of it. -/
lemma linesText_of_linesReference {axis : Axis} {sheet : Option Text} {p s rest : Text}
    {symbol : Symbol} (hp : SheetText sheet p)
    (h : linesReference axis sheet s = some (symbol, rest)) :
    ∃ a b t, symbol = .lines axis a b ∧ LinesText axis a b t ∧ p ++ s = t ++ rest := by
  unfold linesReference at h
  split at h
  · next first s' hfirst =>
    obtain ⟨c, hc, rfl, -⟩ := indexText_of_linePart _ hfirst
    dsimp only at h
    split at h
    · next last rest' hlast =>
      -- The last line may have a sheet in front of it as well.
      have hsecond : ∃ q d, SheetText last.sheet q ∧ IndexText axis last.position d ∧
          s' = q ++ (d ++ rest') := by
        split at hlast
        · obtain ⟨⟨w, r⟩, hw, heq⟩ := Option.map_eq_some_iff.mp hlast
          obtain ⟨d, hd, rfl, -⟩ := indexText_of_linePart _ hw
          cases heq
          exact ⟨[], d, .absent, hd, rfl⟩
        · next name s'' hname =>
          obtain ⟨q, hq, rfl⟩ := sheetText_of_sheetFront hname
          obtain ⟨⟨w, r⟩, hw, heq⟩ := Option.map_eq_some_iff.mp hlast
          obtain ⟨d, hd, rfl, -⟩ := indexText_of_linePart _ hw
          cases heq
          exact ⟨q, d, hq, hd, rfl⟩
        · cases hlast
      obtain ⟨q, d, hq, hd, rfl⟩ := hsecond
      split at h
      · cases h
      · cases h
        exact ⟨_, _, _, rfl, .mk hp hc hq hd, by simp⟩
    · cases h
  · cases h

/-- What is read as a cell is a text of it. -/
lemma cellText_of_cellReference {sheet : Option Text} {p s rest : Text} {symbol : Symbol}
    (hp : SheetText sheet p) (h : cellReference sheet s = some (symbol, rest)) :
    ∃ w t, symbol = .cell w ∧ CellText w t ∧ p ++ s = t ++ rest := by
  unfold cellReference at h
  split at h
  · next column s' hcolumn =>
    obtain ⟨c, hc, rfl, -⟩ := indexText_of_linePart .column hcolumn
    split at h
    · next row rest' hrow =>
      obtain ⟨d, hd, rfl, -⟩ := indexText_of_linePart .row hrow
      split at h
      · cases h
      · cases h
        exact ⟨_, _, rfl, .mk hp hc hd, by simp⟩
    · cases h
  · cases h

/-- The symbol of a reference, with the text that it is read from. -/
inductive ReferenceText : Symbol → Text → Prop where
  | cell {w : WrittenCell} {t : Text} : CellText w t → ReferenceText (.cell w) t
  | lines {axis : Axis} {a b : WrittenLine} {t : Text} :
    LinesText axis a b t → ReferenceText (.lines axis a b) t

/-- What is read as a reference is a text of it. -/
lemma referenceText_of_bareReference {sheet : Option Text} {p s rest : Text} {symbol : Symbol}
    (hp : SheetText sheet p) (h : bareReference sheet s = some (symbol, rest)) :
    ∃ t, ReferenceText symbol t ∧ p ++ s = t ++ rest := by
  have hlines : ∀ axis, linesReference axis sheet s = some (symbol, rest) →
      ∃ t, ReferenceText symbol t ∧ p ++ s = t ++ rest := by
    intro axis h
    obtain ⟨a, b, t, rfl, ht, hs⟩ := linesText_of_linesReference hp h
    exact ⟨t, .lines ht, hs⟩
  simp only [bareReference, Option.or_eq_some_iff] at h
  rcases h with h | ⟨-, h | ⟨-, h⟩⟩
  · exact hlines _ h
  · exact hlines _ h
  · obtain ⟨w, t, rfl, ht, hs⟩ := cellText_of_cellReference hp h
    exact ⟨t, .cell ht, hs⟩

/-- What is read as a reference was written as one. -/
theorem referenceText_of_referenceFront {s rest : Text} {symbol : Symbol}
    (h : referenceFront s = .present symbol rest) :
    ∃ t, ReferenceText symbol t ∧ s = t ++ rest := by
  unfold referenceFront at h
  split at h
  · split at h
    · next hbare =>
      cases h
      exact referenceText_of_bareReference .absent hbare
    · cases h
  · next name s' hname =>
    obtain ⟨p, hp, rfl⟩ := sheetText_of_sheetFront hname
    split at h
    · next hbare =>
      cases h
      exact referenceText_of_bareReference hp hbare
    · cases h
  · cases h

/-- A reference is read back wherever nothing goes on with it. -/
theorem referenceFront_append {symbol : Symbol} {t rest : Text} (h : ReferenceText symbol t)
    (hrest : EndsReference rest) : referenceFront (t ++ rest) = .present symbol rest := by
  cases h with
  | cell h => exact referenceFront_cell h hrest
  | lines h => exact referenceFront_lines h hrest

/-- A reference starts with a quote, a `$` or a name, or it is a run of rows. -/
lemma ReferenceText.head {symbol : Symbol} {t : Text} (h : ReferenceText symbol t) :
    (∃ c s, t = c :: s ∧ (c = '\'' ∨ c = '$' ∨ startsName c = true)) ∨
      ∃ c digits s, t = c :: digits ++ ':' :: s ∧ ∀ d ∈ c :: digits, d.isDigit = true := by
  have hsheet : ∀ {name : Text} {p : Text}, SheetText (some name) p → ∀ s,
      ∃ c u, p ++ s = c :: u ∧ (c = '\'' ∨ c = '$' ∨ startsName c = true) := by
    intro name p hp s
    cases hp with
    | quoted => exact ⟨_, _, rfl, Or.inl rfl⟩
    | plain hc _ => exact ⟨_, _, rfl, Or.inr (Or.inr hc)⟩
  have hcolumn : ∀ {w : WrittenIndex} {c : Text}, IndexText .column w c → ∀ s,
      ∃ d u, c ++ s = d :: u ∧ (d = '\'' ∨ d = '$' ∨ startsName d = true) := by
    intro w c hc s
    obtain ⟨d, body, rfl, hbody⟩ := hc.exists_body
    cases w.anchor with
    | absolute => exact ⟨_, _, rfl, Or.inr (Or.inl rfl)⟩
    | relative =>
      exact ⟨_, _, rfl, Or.inr (Or.inr (startsName_of_isAlpha (hbody d List.mem_cons_self)))⟩
  -- A sheet comes first if there is one, and else a coordinate. Of these only a row starts with a
  -- digit.
  cases h with
  | cell h =>
    cases h with
    | @mk sheet column row p c d hp hc hd =>
      cases sheet with
      | none =>
        cases hp
        exact Or.inl (hcolumn hc d)
      | some name => exact Or.inl (hsheet hp _)
  | @lines axis a b t h =>
    cases h with
    | @mk sheet sheet' first last p c q d hp hc hq hd =>
      cases sheet with
      | some name => exact Or.inl (hsheet hp _)
      | none =>
        cases hp
        cases axis with
        | column => exact Or.inl (hcolumn hc _)
        | row =>
          obtain ⟨e, body, rfl, hbody⟩ := hc.exists_body
          cases first.anchor with
          | absolute => exact Or.inl ⟨_, _, rfl, Or.inr (Or.inl rfl)⟩
          | relative => exact Or.inr ⟨e, body, q ++ d, rfl, hbody⟩

end Scan

end GridFormula
