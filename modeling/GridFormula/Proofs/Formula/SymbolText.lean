import GridFormula.Proofs.Formula.Fronts
import GridFormula.Proofs.Lexeme.Turns

/-!
# How each symbol is written

One symbol may be written in many ways: the exponent of a number and the name of an error value in
letters of either case, a function by any name that means it. All the ways in which a symbol can be
written are said here, without looking at what stands around it. What is read as a symbol was
written in one of them, and what is written in one of them is read as the symbol again, wherever
nothing goes on with it.
-/

namespace GridFormula

open Scan

namespace Scan

/-! ## Numbers -/

/-- The exponent of a number, and a text that is read as it. -/
inductive ExponentImage : Text → Text → Prop where
  | absent : ExponentImage [] []
  | present {e : Char} {sign digits : Text} :
    e = 'E' ∨ e = 'e' → SignText sign → digits ≠ [] → (∀ c ∈ digits, c.isDigit = true) →
      ExponentImage ('E' :: (sign ++ digits)) (e :: (sign ++ digits))

/-- A number in the writing of all locales, and a text that is read as it. -/
inductive NumeralImage (decimal : Char) : Text → Text → Prop where
  | mk {whole fraction exponent image : Text} :
    (∀ c ∈ whole, c.isDigit = true) → FractionText fraction → ExponentImage exponent image →
      (whole ≠ [] ∨ fraction ≠ []) →
        NumeralImage decimal (whole ++ fraction ++ exponent)
          (whole ++ (localized decimal fraction ++ image))

/-! ### What is read as a number -/

/-- The sign of an exponent and what follows it make up the text. -/
lemma exponentSign_append (s : Text) : (exponentSign s).1 ++ (exponentSign s).2 = s := by
  unfold exponentSign
  split <;> rfl

/-- What is cut off as an exponent is the image of one. -/
lemma exponentImage_exponent (s : Text) :
    ∃ image, s = image ++ (exponent s).2 ∧ ExponentImage (exponent s).1 image := by
  unfold exponent
  split
  · exact ⟨[], rfl, .absent⟩
  · next c s =>
    dsimp only
    split
    · next h =>
      obtain ⟨he, hdigits⟩ := h
      refine ⟨_, ?_, .present he (signText_exponentSign s) hdigits (Text.forall_mem_takeWhile _ _)⟩
      rw [List.cons_append, List.append_assoc, List.takeWhile_append_dropWhile,
        exponentSign_append]
    · exact ⟨[], rfl, .absent⟩

/-- The fraction, with the decimal separator of the locale, and what follows it make up the text. -/
lemma localized_fraction (decimal : Char) (s : Text) :
    localized decimal (fraction decimal s).1 ++ (fraction decimal s).2 = s := by
  unfold fraction
  split
  · next c d s =>
    split
    · next h =>
      obtain ⟨rfl, hd⟩ := h
      have hdigits : ∀ e ∈ d :: s.takeWhile Char.isDigit, e.isDigit = true :=
        List.forall_mem_cons.mpr ⟨hd, Text.forall_mem_takeWhile _ _⟩
      have hlocal : localized c ('.' :: d :: s.takeWhile Char.isDigit) =
          c :: d :: s.takeWhile Char.isDigit :=
        congrArg (c :: ·) (localized_digits c hdigits)
      rw [hlocal, List.cons_append, List.cons_append, List.takeWhile_append_dropWhile]
    · rfl
  · rfl

/-- What is cut off as a number is the image of one. -/
lemma numeralImage_number (decimal : Char) {s : Text}
    (hne : s.takeWhile Char.isDigit ≠ [] ∨ (fraction decimal (s.dropWhile Char.isDigit)).1 ≠ []) :
    ∃ image, s = image ++ (number decimal s).2 ∧
      NumeralImage decimal (number decimal s).1 image := by
  have hfraction := localized_fraction decimal (s.dropWhile Char.isDigit)
  obtain ⟨image, hs, himage⟩ :=
    exponentImage_exponent (fraction decimal (s.dropWhile Char.isDigit)).2
  have hrest : (number decimal s).2 =
      (exponent (fraction decimal (s.dropWhile Char.isDigit)).2).2 := rfl
  refine ⟨s.takeWhile Char.isDigit ++
      (localized decimal (fraction decimal (s.dropWhile Char.isDigit)).1 ++ image), ?_,
    .mk (Text.forall_mem_takeWhile _ _) (fractionText_fraction _ _) himage hne⟩
  rw [hrest, List.append_assoc, List.append_assoc, ← hs, hfraction,
    List.takeWhile_append_dropWhile]

/-- What is read as a number is the image of one. -/
lemma numeralImage_of_numberFront? {l : Locale} {c : Char} {s rest numeral : Text}
    (h : numberFront? l c s = some (.number numeral, rest)) :
    ∃ image, c :: s = image ++ rest ∧ NumeralImage l.decimal numeral image := by
  unfold numberFront? at h
  dsimp only at h
  split at h
  · next hc =>
    rcases Option.or_eq_some_iff.mp h with h | ⟨-, h⟩
    · obtain ⟨a, b, hsymbol⟩ := symbol_of_linesReference h
      cases hsymbol
    · cases h
      refine numeralImage_number l.decimal (Or.inl ?_)
      rw [List.takeWhile_cons_of_pos hc]
      exact List.cons_ne_nil _ _
  · next hc =>
    split at h
    · next hdecimal =>
      cases h
      refine numeralImage_number l.decimal (Or.inr ?_)
      rw [List.dropWhile_cons_of_neg hc]
      cases s with
      | nil => cases hdecimal.2
      | cons d s =>
        have hdigit : d.isDigit = true := hdecimal.2
        rw [fraction, if_pos ⟨hdecimal.1, hdigit⟩]
        exact List.cons_ne_nil _ _
    · cases h

/-! ### What is read back as a number -/

/-- What has an image as an exponent is one. -/
lemma ExponentImage.exponentText {s image : Text} (h : ExponentImage s image) : ExponentText s := by
  cases h with
  | absent => exact .absent
  | present _ hsign hne hdigits => exact .present hsign hne hdigits

/-- Both letters start an exponent, if one is there. -/
lemma exponent_cons {e : Char} (he : e = 'E' ∨ e = 'e') {s : Text}
    (h : (exponent ('E' :: s)).1 ≠ []) : exponent (e :: s) = exponent ('E' :: s) := by
  unfold exponent at h ⊢
  dsimp only at h ⊢
  split at h
  · next hdigits => rw [if_pos ⟨he, hdigits.2⟩, if_pos hdigits]
  · exact absurd rfl h

/-- The image of an exponent is cut off as this exponent. -/
lemma ExponentImage.exponent_append {decimal : Char} {s image rest : Text}
    (h : ExponentImage s image) (hrest : Text.StopsAt (continuesNumber decimal) rest) :
    exponent (image ++ rest) = (s, rest) := by
  have hread := Scan.exponent_append h.exponentText hrest
  cases h with
  | absent => exact hread
  | present he _ _ _ =>
    rw [List.cons_append] at hread ⊢
    rw [exponent_cons he (by rw [hread]; exact List.cons_ne_nil _ _), hread]

/-- A number starts with a digit, or with the decimal separator and a digit. -/
lemma NumeralImage.head {decimal : Char} {numeral image : Text}
    (h : NumeralImage decimal numeral image) :
    ∃ c s, image = c :: s ∧
      (c.isDigit = true ∨ c = decimal ∧ s.head?.any Char.isDigit = true) := by
  cases h with
  | @mk whole f e image hwhole hf he hne =>
    cases whole with
    | cons c whole => exact ⟨c, _, rfl, Or.inl (hwhole c List.mem_cons_self)⟩
    | nil =>
      cases hf with
      | absent => simp at hne
      | @present d s hd hs =>
        have hlocal : localized decimal ('.' :: d :: s) = decimal :: d :: s :=
          congrArg (decimal :: ·) (localized_digits decimal (List.forall_mem_cons.mpr ⟨hd, hs⟩))
        rw [hlocal]
        exact ⟨_, _, rfl, Or.inr ⟨rfl, hd⟩⟩

/-- What can stand behind the digits of a number in both locales. -/
lemma spec_of_continuation {l : Locale} (hl : l.IsPreset) :
    ∀ c, c = l.decimal ∨ c = 'E' ∨ c = 'e' → c.isDigit = false ∧ c ≠ '$' ∧ c ≠ ':' := by
  rcases hl with rfl | rfl <;> (rintro c (rfl | rfl | rfl) <;> decide)

/-- Behind the fraction of a number stands the exponent, or else what the number ends before. -/
lemma ExponentImage.spec_of_head_append {l : Locale} (hl : l.IsPreset) {e image rest : Text}
    (he : ExponentImage e image) (hrest : Terminated l rest) :
    ∀ c ∈ (image ++ rest).head?, c.isDigit = false ∧ c ≠ l.decimal ∧ c ≠ '$' ∧ c ≠ ':' := by
  intro c hc
  cases he with
  | absent =>
    rw [List.nil_append] at hc
    have hgoes := goesOn_of_mem_terminators hl c (hrest c hc)
    have hnumber := hrest.stopsAt_continuesNumber hl c hc
    refine ⟨hrest.stopsAt_isDigit hl c hc, ?_, ?_, ?_⟩
    · rintro rfl
      simp [continuesNumber] at hnumber
    · rintro rfl
      simp [goesOn] at hgoes
    · rintro rfl
      simp [goesOn] at hgoes
  | present hd _ _ _ =>
    obtain rfl := Option.some.inj hc
    obtain ⟨hdigit, hdollar, hcolon⟩ := spec_of_continuation hl _ (Or.inr hd)
    refine ⟨hdigit, ?_, hdollar, hcolon⟩
    rcases hl with rfl | rfl <;> rcases hd with rfl | rfl <;> decide

/-- A number is read back in every writing, if nothing goes on with it. -/
lemma NumeralImage.readsFront {l : Locale} (hl : l.IsPreset) {n : Nesting}
    {numeral image rest : Text} (h : NumeralImage l.decimal numeral image)
    (hrest : Terminated l rest) : ReadsFront l n image rest (.number numeral) n := by
  have hhead := h.head
  have hend := hrest.stopsAt_continuesNumber hl
  cases h with
  | @mk whole f e image hwhole hf he hne =>
    have hspec := he.spec_of_head_append hl hrest
    have hfraction := fraction_localized hf fun c hc => ⟨(hspec c hc).1, (hspec c hc).2.1⟩
    -- What follows the whole part neither goes on with it nor makes it a row.
    have hstop : ∀ c ∈ (localized l.decimal f ++ (image ++ rest)).head?,
        c.isDigit = false ∧ c ≠ '$' ∧ c ≠ ':' := by
      intro c hc
      cases hf with
      | present _ _ => exact spec_of_continuation hl c (Or.inl (Option.some.inj hc).symm)
      | absent =>
        obtain ⟨hdigit, -, hother⟩ := hspec c hc
        exact ⟨hdigit, hother⟩
    have hdigits : Text.StopsAt Char.isDigit (localized l.decimal f ++ (image ++ rest)) :=
      fun c hc => (hstop c hc).1
    refine readsFront_of_number hl hhead ?_ ?_
    · rw [List.append_assoc, List.append_assoc, number, Text.dropWhile_append hwhole hdigits,
        Text.takeWhile_append hwhole hdigits, hfraction]
      dsimp only
      rw [he.exponent_append hend]
    · rw [List.append_assoc, List.append_assoc]
      exact linesReference_digits hwhole hdigits (fun hhead => (hstop _ hhead).2.1 rfl)
        fun hhead => (hstop _ hhead).2.2 rfl

end Scan

/-! ## Symbols -/

/-- The text of a symbol that is always written alike. -/
def Symbol.fixedText? (l : Locale) : Symbol → Option Text
  | .operator op => some op.symbol
  | .colon => some [':']
  | .percent => some ['%']
  | .argumentSeparator => some [l.argument]
  | .columnSeparator => some [l.arrayColumn]
  | .rowSeparator => some [l.arrayRow]
  | .openParen => some ['(']
  | .closeParen => some [')']
  | .openBrace => some ['\x7b']
  | .closeBrace => some ['\x7d']
  | _ => none

/-- The texts in which a symbol can be written. -/
inductive SymbolText (l : Locale) : Symbol → Text → Prop where
  | blank {blanks : Text} : AreBlanks l blanks → SymbolText l .blank blanks
  | number {numeral image : Text} :
    NumeralImage l.decimal numeral image → SymbolText l (.number numeral) image
  | string (content : Text) : SymbolText l (.string content) (Text.quoted '"' content)
  | errorValue {e : ErrorValue} {s : Text} :
    (Text.upper ('#' :: s), e) ∈ l.errorNames →
      Text.byteSize ('#' :: s) = Text.byteSize (Text.upper ('#' :: s)) →
        SymbolText l (.errorValue e) ('#' :: s)
  | reference {symbol : Symbol} {image : Text} :
    ReferenceText symbol image → SymbolText l symbol image
  | name {word : Text} : NameText word → SymbolText l (.name word) word
  | call {word : Text} :
    NameText word → l.canonicalName word ≠ offsetName →
      SymbolText l (.call (l.canonicalName word)) (word ++ ['('])
  | offsetCall {word : Text} :
    NameText word → l.canonicalName word = offsetName → SymbolText l .offsetCall (word ++ ['('])
  | fixed {symbol : Symbol} {image : Text} :
    symbol.fixedText? l = some image → SymbolText l symbol image

/-- Only blanks are written for a blank. -/
lemma SymbolText.areBlanks {l : Locale} {t : Text} (h : SymbolText l .blank t) : AreBlanks l t := by
  cases h with
  | blank hblanks => exact hblanks
  | reference href => cases href
  | fixed ht => cases ht

/-- Only cells are written for a cell. -/
lemma SymbolText.cellText {l : Locale} {w : WrittenCell} {t : Text}
    (h : SymbolText l (.cell w) t) : CellText w t := by
  cases h with
  | reference href =>
    cases href with
    | cell ht => exact ht
  | fixed ht => cases ht

namespace Scan

variable {l : Locale} {n n' : Nesting} {c : Char} {s rest : Text} {symbol : Symbol}

/-! ### What is read as a symbol -/

/-- What is read as a bracket has the text of the bracket. -/
lemma fixedText?_of_bracket? (h : bracket? n c = some (symbol, n')) :
    symbol.fixedText? l = some [c] := by
  unfold bracket? at h
  split at h
  case h_5 => cases h
  all_goals
    obtain ⟨rfl, -⟩ := Prod.mk.inj (Option.some.inj h)
    rfl

/-- What is read as a separator has the text of the separator. -/
lemma fixedText?_of_separator? (hl : l.IsPreset) (h : separator? l n c = some symbol) :
    symbol.fixedText? l = some [c] := by
  have harray : ∀ c, c = l.arrayRow ∨ c = l.arrayColumn →
      (arraySeparator l c).fixedText? l = some [c] := by
    rcases hl with rfl | rfl <;> (rintro c (rfl | rfl) <;> rfl)
  have hargument : l.argument = l.arrayRow ∨ l.argument = l.arrayColumn := by
    rcases hl with rfl | rfl <;> decide
  unfold separator? at h
  split at h
  · next hc =>
    obtain rfl := Option.some.inj h
    rw [hc]
    split
    · exact harray _ hargument
    · rfl
  · split at h
    · next hc =>
      obtain rfl := Option.some.inj h
      exact harray c hc.2
    · cases h

/-- What is read as an operator has the text of the operator. -/
lemma fixedText?_of_operatorFront? (h : operatorFront? c s = some (symbol, rest)) :
    ∃ t, c :: s = t ++ rest ∧ symbol.fixedText? l = some t := by
  unfold operatorFront? at h
  split at h
  case h_10 =>
    split at h
    all_goals
      obtain ⟨rfl, rfl⟩ := Prod.mk.inj (Option.some.inj h)
      exact ⟨_, rfl, rfl⟩
  case h_11 =>
    split at h
    all_goals
      obtain ⟨rfl, rfl⟩ := Prod.mk.inj (Option.some.inj h)
      exact ⟨_, rfl, rfl⟩
  case h_12 => cases h
  all_goals
    obtain ⟨rfl, rfl⟩ := Prod.mk.inj (Option.some.inj h)
    exact ⟨_, rfl, rfl⟩

/-- What is found in a table of error values is one of its names, in any case. -/
lemma mem_of_errorValue? {names : List (Text × ErrorValue)} {e : ErrorValue}
    (h : errorValue? names s = some (e, rest)) :
    ∃ t, s = t ++ rest ∧ (Text.upper t, e) ∈ names ∧
      Text.byteSize t = Text.byteSize (Text.upper t) := by
  obtain ⟨entry, hentry, hread⟩ := exists_of_errorValue? h
  unfold errorName? at hread
  dsimp only at hread
  split at hread
  · next htaken =>
    cases hread
    refine ⟨_, (Text.splitAtByte_append _ s).symm, ?_, ?_⟩
    · rw [htaken.2.2]
      exact hentry
    · rw [htaken.2.2, htaken.2.1]
  · cases hread

/-- What is read as a name or as a function has a text that fits it. -/
lemma symbolText_of_nameFront (hc : startsName c = true)
    (h : nameFront l n c s = .lexeme symbol rest n') :
    ∃ t, c :: s = t ++ rest ∧ SymbolText l symbol t := by
  have hname : NameText (c :: s.takeWhile continuesName) :=
    .mk hc (Text.forall_mem_takeWhile _ _)
  have hs : c :: s = c :: s.takeWhile continuesName ++ s.dropWhile continuesName := by
    rw [List.cons_append, List.takeWhile_append_dropWhile]
  unfold nameFront at h
  dsimp only at h
  split at h
  · next rest' hdrop =>
    obtain ⟨hsymbol, rfl, -⟩ := Front.lexeme.inj h
    refine ⟨c :: s.takeWhile continuesName ++ ['('], ?_, ?_⟩
    · rw [List.append_assoc, List.singleton_append, ← hdrop]
      exact hs
    · rw [← hsymbol]
      split
      · next hoffset => exact .offsetCall hname hoffset
      · next hne => exact .call hname hne
  · obtain ⟨rfl, rfl, -⟩ := Front.lexeme.inj h
    exact ⟨_, hs, .name hname⟩

/-- What stands at the front of a text is written as its symbol can be. -/
lemma Starts.symbolText (hl : l.IsPreset) (h : Starts l n c s symbol rest n') :
    ∃ t, c :: s = t ++ rest ∧ SymbolText l symbol t := by
  cases h with
  | blank hc =>
    refine ⟨c :: s.takeWhile l.isBlank, ?_, .blank ⟨List.cons_ne_nil _ _, ?_⟩⟩
    · rw [List.cons_append, List.takeWhile_append_dropWhile]
    · exact List.forall_mem_cons.mpr ⟨hc, Text.forall_mem_takeWhile _ _⟩
  | @string content rest hc hread =>
    obtain ⟨rfl, -⟩ := Text.eq_of_unquoted? hread
    refine ⟨Text.quoted '"' content, ?_, .string content⟩
    rw [hc, Text.quoted, List.cons_append, List.append_assoc, List.singleton_append]
  | errorValue hc hread =>
    obtain ⟨t, ht, hmem, hsize⟩ := mem_of_errorValue? hread
    have hshorter := length_lt_of_errorValue? hread
    cases t with
    | nil =>
      rw [ht, List.nil_append] at hshorter
      exact absurd hshorter (lt_irrefl _)
    | cons d t =>
      obtain ⟨rfl, rfl⟩ := List.cons.inj ht
      exact ⟨'#' :: t, by rw [hc]; rfl, .errorValue hmem hsize⟩
  | bracket hb => exact ⟨[c], rfl, .fixed (fixedText?_of_bracket? hb)⟩
  | separator hs => exact ⟨[c], rfl, .fixed (fixedText?_of_separator? hl hs)⟩
  | number hnumber =>
    rcases symbol_of_numberFront? hnumber with ⟨a, b, rfl⟩ | ⟨numeral, rfl⟩
    · unfold numberFront? at hnumber
      dsimp only at hnumber
      split at hnumber
      · rcases Option.or_eq_some_iff.mp hnumber with hlines | ⟨-, hnumber⟩
        · obtain ⟨a', b', t, hsymbol, ht, hs⟩ := linesText_of_linesReference .absent hlines
          rw [hsymbol]
          exact ⟨t, hs, .reference (.lines ht)⟩
        · cases hnumber
      · split at hnumber <;> cases hnumber
    · obtain ⟨image, hs, himage⟩ := numeralImage_of_numberFront? hnumber
      exact ⟨image, hs, .number himage⟩
  | operator ho =>
    obtain ⟨t, hs, ht⟩ := fixedText?_of_operatorFront? ho
    exact ⟨t, hs, .fixed ht⟩
  | reference hr =>
    obtain ⟨t, ht, hs⟩ := referenceText_of_referenceFront hr
    exact ⟨t, hs, .reference ht⟩
  | name hc _ hname => exact symbolText_of_nameFront hc hname

/-- The lexemes of a text make up the text, and each is written as its symbol can be. -/
theorem Scans.symbolText (hl : l.IsPreset) {xs : List Lexeme} (h : Scans l n s xs) :
    xs.flatMap Lexeme.image = s ∧ ∀ x ∈ xs, SymbolText l x.symbol x.image := by
  induction h with
  | nil => exact ⟨rfl, fun x hx => absurd hx List.not_mem_nil⟩
  | @cons n n' c s symbol rest xs hfront _ ih =>
    obtain ⟨t, hs, ht⟩ := (starts_of_front hfront).symbolText hl
    rw [hs, upTo_append]
    exact ⟨by rw [List.flatMap_cons, ih.1], List.forall_mem_cons.mpr ⟨ht, ih.2⟩⟩

end Scan

/-! ### What is read back as a symbol -/

namespace Symbol

/-- Whether the symbol can stand at a place: a separator of arguments directly inside a call, and
one of array parts directly inside braces. No name can look like a cell. -/
def Fits (n : Nesting) : Symbol → Prop
  | argumentSeparator => n.inCall = true
  | columnSeparator | rowSeparator => 0 < n.braces ∧ n.inCall = false
  | name word => ∀ w, ¬CellText w word
  | _ => True

/-- What is open behind the symbol. -/
def inside (n : Nesting) : Symbol → Nesting
  | call _ | offsetCall => n.enter (.call n.braces)
  | openParen => n.enter .plain
  | closeParen => n.leave
  | openBrace => n.enterBrace
  | closeBrace => n.leaveBrace
  | _ => n

/-- The text behind the symbol does not go on with it. -/
def EndsBefore (l : Locale) (rest : Text) : Symbol → Prop
  | blank => Text.StopsAt l.isBlank rest
  | cell _ | lines .. => Scan.EndsReference rest
  | operator _ => EndsOperator rest
  | number _ | string _ | errorValue _ | name _ => Terminated l rest
  | _ => True

end Symbol

namespace Scan

variable {l : Locale} {n : Nesting} {t rest : Text} {symbol : Symbol}

/-- The fixed text of a symbol is read as this symbol where it fits and can end. -/
lemma readsFront_of_fixedText? (hl : l.IsPreset) (h : symbol.fixedText? l = some t)
    (hfits : symbol.Fits n) (hends : symbol.EndsBefore l rest) :
    ReadsFront l n t rest symbol (symbol.inside n) := by
  cases symbol with
  | operator op =>
    obtain rfl := Option.some.inj h
    exact readsFront_symbol hl op hends
  | colon =>
    obtain rfl := Option.some.inj h
    exact readsFront_operator hl rfl
  | percent =>
    obtain rfl := Option.some.inj h
    exact readsFront_operator hl rfl
  | argumentSeparator =>
    obtain rfl := Option.some.inj h
    exact readsFront_argumentSeparator hl hfits
  | columnSeparator =>
    obtain rfl := Option.some.inj h
    exact readsFront_columnSeparator hl hfits.1 hfits.2
  | rowSeparator =>
    obtain rfl := Option.some.inj h
    exact readsFront_rowSeparator hl hfits.1 hfits.2
  | openParen =>
    obtain rfl := Option.some.inj h
    exact readsFront_bracket hl rfl
  | closeParen =>
    obtain rfl := Option.some.inj h
    exact readsFront_bracket hl rfl
  | openBrace =>
    obtain rfl := Option.some.inj h
    exact readsFront_bracket hl rfl
  | closeBrace =>
    obtain rfl := Option.some.inj h
    exact readsFront_bracket hl rfl
  | _ => cases h

/-- A symbol is read back in every writing where it can stand, unless what follows goes on with
it. -/
theorem readsFront_of_symbolText (hl : l.IsPreset) (h : SymbolText l symbol t)
    (hfits : symbol.Fits n) (hends : symbol.EndsBefore l rest) :
    ReadsFront l n t rest symbol (symbol.inside n) := by
  cases h with
  | blank hblanks => exact readsFront_blank hblanks hends
  | number himage => exact himage.readsFront hl hends
  | string content => exact readsFront_string hl content (hends.stopsAt_quote hl)
  | errorValue hmem hsize => exact readsFront_errorName hl hmem hsize
  | reference href =>
    have hreference : Scan.EndsReference rest := by
      cases href with
      | cell _ => exact hends
      | lines _ => exact hends
    have hinside : symbol.inside n = n := by
      cases href with
      | cell _ => rfl
      | lines _ => rfl
    rw [hinside]
    exact readsFront_reference hl href hreference
  | name hname => exact readsFront_name hl hname hfits hends
  | call hname hne => exact readsFront_call hl hname hne
  | offsetCall hname hoffset => exact readsFront_offsetCall hl hname hoffset
  | fixed hfixed => exact readsFront_of_fixedText? hl hfixed hfits hends

end Scan

end GridFormula
