import GridFormula.Proofs.Lexeme.ReferenceText
import GridFormula.Proofs.Lexeme.Scans

/-!
# How names and numbers are written

A name that could be a cell is a cell, unless a parenthesis follows it and makes it a function. So a
name is read back only if it does not look like a cell, whatever follows, and a function is read
back always. A number is read back if what follows could not be more of it.
-/

namespace GridFormula

namespace Scan

/-! ## Names -/

/-- How a name is written, or a function without its parenthesis. -/
inductive NameText : Text → Prop where
  | mk {c : Char} {s : Text} :
    startsName c = true → (∀ d ∈ s, continuesName d = true) → NameText (c :: s)

/-- All characters of a name go on with it. -/
lemma NameText.continues {t : Text} (h : NameText t) : ∀ c ∈ t, continuesName c = true := by
  cases h with
  | mk hc hs => exact List.forall_mem_cons.mpr ⟨continuesName_of_startsName hc, hs⟩

/-- A `$` ends a name. -/
lemma continuesName_dollar : continuesName '$' = false := by
  decide

/-- A colon ends a name. -/
lemma continuesName_colon : continuesName ':' = false := by
  decide

/-- A `$` starts no name. -/
lemma startsName_dollar : startsName '$' = false := by
  decide

/-- In a row or column that stands in front of a name there is no `$`. -/
lemma NameText.index_continues {axis : Axis} {w : WrittenIndex} {t u rest rest' : Text}
    (ht : NameText t) (hu : IndexText axis w u) (h : t ++ rest = u ++ rest') :
    ∀ c ∈ u, continuesName c = true := by
  obtain ⟨c, body, rfl, hbody⟩ := hu.exists_body
  cases hanchor : w.anchor with
  | relative => exact fun d hd => continuesName_of_part (hbody d hd)
  | absolute =>
    cases ht with
    | mk hc hs =>
      rw [hanchor, anchorText, List.cons_append, List.cons_append] at h
      obtain ⟨rfl, -⟩ := List.cons.inj h
      cases startsName_dollar.symm.trans hc

/-- What follows a name does not make it the start of a reference. -/
structure EndsName (rest : Text) : Prop where
  stops : Text.StopsAt continuesName rest
  noMark : rest.head? ≠ some '!'
  noColon : rest.head? ≠ some ':'
  noDollar : rest.head? ≠ some '$'

/-- No run of lines starts with a name. -/
lemma linesReference_name {axis : Axis} {t rest : Text} (ht : NameText t) (hrest : EndsName rest) :
    linesReference axis none (t ++ rest) = none := by
  refine linesReference_eq_none fun w s heq => ?_
  obtain ⟨u, hu, happend, -⟩ := indexText_of_linePart _ heq
  obtain ⟨-, hs⟩ := Text.append_cancel ht.continues (ht.index_continues hu happend) hrest.stops
    (Text.stopsAt_cons continuesName_colon s) happend
  exact hrest.noColon (by rw [hs]; rfl)

/-- A name in front of a cell is the whole cell. -/
lemma cellText_of_cellReference_name {t rest rest' : Text} {symbol : Symbol} (ht : NameText t)
    (hrest : EndsName rest) (h : cellReference none (t ++ rest) = some (symbol, rest')) :
    (∃ w, CellText w t) ∧ rest.head? ≠ some '(' := by
  unfold cellReference at h
  split at h
  · next column s hcolumn =>
    obtain ⟨u, hu, happend, -⟩ := indexText_of_linePart .column hcolumn
    have hucontinues := ht.index_continues hu happend
    split at h
    · next row rest'' hrow =>
      obtain ⟨v, hv, rfl, -⟩ := indexText_of_linePart .row hrow
      split at h
      · cases h
      · next hruns =>
        have hruns : runsOn rest'' = false := by simpa using hruns
        have hstops : Text.StopsAt continuesName rest'' := by
          intro c hc
          cases rest'' with
          | nil => cases hc
          | cons d rest'' =>
            cases hc
            rw [runsOn] at hruns
            grind
        have hparen : rest''.head? ≠ some '(' := by
          intro hhead
          cases rest'' with
          | nil => cases hhead
          | cons d rest'' =>
            cases hhead
            simp [runsOn] at hruns
        obtain ⟨c, body, rfl, hbody⟩ := hv.exists_body
        cases hanchor : row.anchor with
        | relative =>
          rw [hanchor, anchorText, List.nil_append, ← List.append_assoc] at happend
          have hwhole : ∀ d ∈ u ++ c :: body, continuesName d = true := by
            intro d hd
            rcases List.mem_append.mp hd with hd | hd
            · exact hucontinues d hd
            · exact continuesName_of_part (hbody d hd)
          have hcell := CellText.mk .absent hu hv
          rw [hanchor, anchorText, List.nil_append, List.nil_append] at hcell
          obtain ⟨rfl, rfl⟩ := Text.append_cancel ht.continues hwhole hrest.stops hstops happend
          exact ⟨⟨_, hcell⟩, hparen⟩
        | absolute =>
          -- A `$` behind the column would have to follow the name.
          rw [hanchor, anchorText, List.append_assoc, List.singleton_append] at happend
          obtain ⟨-, hs⟩ := Text.append_cancel ht.continues hucontinues hrest.stops
            (Text.stopsAt_cons continuesName_dollar _) happend
          exact absurd (by rw [hs]; rfl) hrest.noDollar
    · cases h
  · cases h

/-- There is no reference at the front of a function, nor at that of a name that is no cell. -/
theorem referenceFront_name {t rest : Text} (ht : NameText t) (hrest : EndsName rest)
    (h : rest.head? = some '(' ∨ ∀ w, ¬CellText w t) :
    referenceFront (t ++ rest) = .absent := by
  have hsheet : sheetFront (t ++ rest) = .absent := by
    refine sheetFront_eq_absent ?_ ?_
    · cases ht with
      | mk hc hs =>
        intro hquote
        cases hquote
        cases startsName_quote.symm.trans hc
    · rw [Text.dropWhile_append ht.continues hrest.stops]
      exact hrest.noMark
  have hbare : bareReference none (t ++ rest) = none := by
    rw [bareReference, linesReference_name ht hrest, linesReference_name ht hrest]
    cases hcell : cellReference none (t ++ rest) with
    | none => rfl
    | some found =>
      obtain ⟨⟨w, hw⟩, hparen⟩ := cellText_of_cellReference_name ht hrest hcell
      rcases h with h | h
      · exact absurd h hparen
      · exact absurd hw (h w)
  rw [referenceFront, hsheet]
  dsimp only
  rw [hbare]

/-! ## Numbers -/

/-- The fraction of a number, in the writing of all locales. -/
inductive FractionText : Text → Prop where
  | absent : FractionText []
  | present {d : Char} {s : Text} :
    d.isDigit = true → (∀ c ∈ s, c.isDigit = true) → FractionText ('.' :: d :: s)

/-- The sign of an exponent. -/
inductive SignText : Text → Prop where
  | absent : SignText []
  | plus : SignText ['+']
  | minus : SignText ['-']

/-- The exponent of a number. -/
inductive ExponentText : Text → Prop where
  | absent : ExponentText []
  | present {sign digits : Text} :
    SignText sign → digits ≠ [] → (∀ c ∈ digits, c.isDigit = true) →
      ExponentText ('E' :: (sign ++ digits))

/-- A number in the writing of all locales. -/
inductive NumeralText : Text → Prop where
  | mk {whole fraction exponent : Text} :
    (∀ c ∈ whole, c.isDigit = true) → FractionText fraction → ExponentText exponent →
      (whole ≠ [] ∨ fraction ≠ []) → NumeralText (whole ++ fraction ++ exponent)

/-- Behind its first digits a number ends, or goes on with a point or an exponent. -/
lemma NumeralText.exists_tail {numeral : Text} (h : NumeralText numeral) :
    ∃ whole tail, numeral = whole ++ tail ∧ (∀ c ∈ whole, c.isDigit = true) ∧
      ∀ c ∈ tail.head?, c = '.' ∨ c = 'E' := by
  cases h with
  | @mk whole f e hwhole hf he _ =>
    refine ⟨whole, f ++ e, List.append_assoc _ _ _, hwhole, fun c hc => ?_⟩
    cases hf with
    | present _ _ =>
      cases hc
      exact Or.inl rfl
    | absent =>
      cases he with
      | absent => cases hc
      | present _ _ _ =>
        cases hc
        exact Or.inr rfl

/-- A number starts with a digit or a point. -/
lemma NumeralText.head {numeral : Text} (h : NumeralText numeral) :
    ∃ c s, numeral = c :: s ∧ (c.isDigit = true ∨ c = '.') := by
  cases h with
  | @mk whole f e hwhole hf he hne =>
    cases whole with
    | cons c whole => exact ⟨c, _, rfl, Or.inl (hwhole c List.mem_cons_self)⟩
    | nil =>
      cases hf with
      | present _ _ => exact ⟨'.', _, rfl, Or.inr rfl⟩
      | absent => rcases hne with hne | hne <;> exact absurd rfl hne

/-- What is cut off as a fraction is one. -/
lemma fractionText_fraction (decimal : Char) (s : Text) : FractionText (fraction decimal s).1 := by
  unfold fraction
  split
  · split
    · next h => exact .present h.2 (Text.forall_mem_takeWhile _ _)
    · exact .absent
  · exact .absent

/-- What is cut off as the sign of an exponent is one. -/
lemma signText_exponentSign (s : Text) : SignText (exponentSign s).1 := by
  unfold exponentSign
  split
  · exact .plus
  · exact .minus
  · exact .absent

/-- What is cut off as an exponent is one. -/
lemma exponentText_exponent (s : Text) : ExponentText (exponent s).1 := by
  unfold exponent
  split
  · exact .absent
  · dsimp only
    split
    · next h => exact .present (signText_exponentSign _) h.2 (Text.forall_mem_takeWhile _ _)
    · exact .absent

/-- What is read as a number is one. -/
lemma numeralText_of_numberFront? {l : Locale} {c : Char} {s rest numeral : Text}
    (h : numberFront? l c s = some (.number numeral, rest)) : NumeralText numeral := by
  have hnumber : ((c :: s).takeWhile Char.isDigit ≠ [] ∨
      (fraction l.decimal ((c :: s).dropWhile Char.isDigit)).1 ≠ []) →
      NumeralText (number l.decimal (c :: s)).1 := fun hne =>
    .mk (Text.forall_mem_takeWhile _ _) (fractionText_fraction _ _) (exponentText_exponent _) hne
  unfold numberFront? at h
  dsimp only at h
  split at h
  · next hc =>
    rcases Option.or_eq_some_iff.mp h with h | ⟨-, h⟩
    · obtain ⟨a, b, hsymbol⟩ := symbol_of_linesReference h
      cases hsymbol
    · cases h
      refine hnumber (Or.inl ?_)
      rw [List.takeWhile_cons_of_pos hc]
      exact List.cons_ne_nil _ _
  · next hc =>
    split at h
    · next hdecimal =>
      cases h
      obtain ⟨rfl, hdigit⟩ := hdecimal
      refine hnumber (Or.inr ?_)
      rw [List.dropWhile_cons_of_neg hc]
      cases s with
      | nil => cases hdigit
      | cons d s =>
        rw [fraction, if_pos ⟨rfl, hdigit⟩]
        exact List.cons_ne_nil _ _
    · cases h

/-- A numeral with the decimal separator of a locale. -/
def localized (decimal : Char) (numeral : Text) : Text :=
  numeral.map fun c => if c = '.' then decimal else c

/-- A character that could go on with a number. -/
def continuesNumber (decimal c : Char) : Bool :=
  c.isDigit || c = decimal || c = 'E' || c = 'e'

/-- A character that can stand for the decimal point. -/
structure IsDecimal (decimal : Char) : Prop where
  notDigit : decimal.isDigit = false
  notExponent : decimal ≠ 'E'

/-- Digits are the same in all locales. -/
lemma localized_digits (decimal : Char) {s : Text} (h : ∀ c ∈ s, c.isDigit = true) :
    localized decimal s = s := by
  unfold localized
  refine (List.map_congr_left fun c hc => ?_).trans (List.map_id s)
  have hne : c ≠ '.' := by
    rintro rfl
    cases h _ hc
  rw [if_neg hne]
  rfl

/-- Exponents are the same in all locales. -/
lemma localized_exponent (decimal : Char) {s : Text} (h : ExponentText s) :
    localized decimal s = s := by
  cases h with
  | absent => rfl
  | @present sign digits hsign _ hdigits =>
    have hdigits := localized_digits decimal hdigits
    unfold localized at hdigits ⊢
    rw [List.map_cons, List.map_append, hdigits]
    cases hsign <;> rfl

/-- An exponent is cut off in front of what does not go on with a number. -/
lemma exponent_append {decimal : Char} {s rest : Text} (h : ExponentText s)
    (hrest : Text.StopsAt (continuesNumber decimal) rest) : exponent (s ++ rest) = (s, rest) := by
  have hdigit : Text.StopsAt Char.isDigit rest := hrest.mono fun c hc => by
    unfold continuesNumber at hc
    grind
  cases h with
  | absent =>
    cases rest with
    | nil => rfl
    | cons c rest =>
      have hc := hrest c rfl
      rw [List.nil_append, exponent]
      dsimp only
      rw [if_neg]
      unfold continuesNumber at hc
      grind
  | @present sign digits hsign hne hdigits =>
    obtain ⟨d, digits, rfl⟩ := List.exists_cons_of_ne_nil hne
    have hsplit : exponentSign (sign ++ (d :: digits) ++ rest) = (sign, d :: digits ++ rest) := by
      -- Without a sign, the digit that comes first must not be taken for one.
      cases hsign with
      | plus => rfl
      | minus => rfl
      | absent =>
        have hd := hdigits d List.mem_cons_self
        rw [List.nil_append, List.cons_append]
        unfold exponentSign
        split
        · next heq =>
          cases heq
          cases hd
        · next heq =>
          cases heq
          cases hd
        · rfl
    rw [List.cons_append, exponent]
    dsimp only
    rw [hsplit]
    dsimp only
    rw [Text.takeWhile_append hdigits hdigit, Text.dropWhile_append hdigits hdigit,
      if_pos ⟨Or.inl rfl, List.cons_ne_nil _ _⟩]

/-- A fraction is read back where no digit and no second separator follows. -/
lemma fraction_localized {decimal : Char} {f tail : Text} (hf : FractionText f)
    (htail : ∀ c ∈ tail.head?, c.isDigit = false ∧ c ≠ decimal) :
    fraction decimal (localized decimal f ++ tail) = (f, tail) := by
  cases hf with
  | absent =>
    rw [localized, List.map_nil, List.nil_append]
    cases tail with
    | nil => rfl
    | cons c s =>
      have hc : c ≠ decimal := (htail c rfl).2
      cases s with
      | nil => rfl
      | cons d s =>
        rw [fraction, if_neg]
        exact fun h => hc h.1
  | @present d s hd hs =>
    have hlocal := localized_digits decimal (List.forall_mem_cons.mpr ⟨hd, hs⟩)
    have hstop : Text.StopsAt Char.isDigit tail := fun c hc => (htail c hc).1
    unfold localized at hlocal ⊢
    rw [List.map_cons, hlocal, if_pos rfl, List.cons_append, List.cons_append, fraction,
      if_pos ⟨rfl, hd⟩, Text.takeWhile_append hs hstop, Text.dropWhile_append hs hstop]

/-- A fraction is cut off in front of an exponent and of what does not go on with a number. -/
lemma fraction_append {decimal : Char} {f e rest : Text} (hf : FractionText f)
    (he : ExponentText e) (hdecimal : IsDecimal decimal)
    (hrest : Text.StopsAt (continuesNumber decimal) rest) :
    fraction decimal (localized decimal f ++ (e ++ rest)) = (f, e ++ rest) := by
  refine fraction_localized hf fun c hc => ?_
  cases he with
  | absent =>
    have hc := hrest c hc
    unfold continuesNumber at hc
    grind
  | present _ _ _ =>
    cases hc
    exact ⟨rfl, hdecimal.notExponent.symm⟩

/-- A number is read back if nothing goes on with it. -/
theorem number_localized {decimal : Char} {numeral rest : Text} (h : NumeralText numeral)
    (hdecimal : IsDecimal decimal) (hrest : Text.StopsAt (continuesNumber decimal) rest) :
    number decimal (localized decimal numeral ++ rest) = (numeral, rest) := by
  cases h with
  | @mk whole f e hwhole hf he _ =>
    have hstop : Text.StopsAt Char.isDigit (localized decimal f ++ (e ++ rest)) := by
      cases hf with
      | present _ _ => exact Text.stopsAt_cons hdecimal.notDigit _
      | absent =>
        cases he with
        | present _ _ _ => exact Text.stopsAt_cons rfl _
        | absent =>
          refine hrest.mono fun c hc => ?_
          unfold continuesNumber at hc
          grind
    have hlocal : localized decimal (whole ++ f ++ e) = whole ++ (localized decimal f ++ e) := by
      rw [localized, List.map_append, List.map_append, List.append_assoc]
      exact congrArg₂ _ (localized_digits decimal hwhole)
        (congrArg _ (localized_exponent decimal he))
    rw [hlocal, List.append_assoc, List.append_assoc, number, Text.dropWhile_append hwhole hstop,
      Text.takeWhile_append hwhole hstop, fraction_append hf he hdecimal hrest]
    dsimp only
    rw [exponent_append he hrest]

end Scan

end GridFormula
