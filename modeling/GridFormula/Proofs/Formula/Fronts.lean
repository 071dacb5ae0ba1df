import GridFormula.Proofs.Formula.Ends
import GridFormula.Proofs.Locale.FunctionName
import GridFormula.Proofs.Text.Upper

/-!
# Each part of a formula is read back

Everything that a formula can consist of is written in a way that is read as one lexeme again, as
long as what follows does not go on with it. There is one lemma here for each kind of lexeme, for
the locales of the United States and of Germany.
-/

namespace GridFormula

namespace Scan

variable {l : Locale} {n n' : Nesting} {t rest : Text} {symbol : Symbol}

/-- The text in front of `rest` is read as one lexeme. -/
def ReadsFront (l : Locale) (n : Nesting) (t rest : Text) (symbol : Symbol) (n' : Nesting) : Prop :=
  ∃ c s, t = c :: s ∧ front l n c (s ++ rest) = .lexeme symbol rest n'

/-- A lexeme that is read in front of what can be scanned makes it one longer. -/
lemma ReadsFront.scans {xs : List Lexeme} (h : ReadsFront l n t rest symbol n')
    (hxs : Scans l n' rest xs) : Scans l n (t ++ rest) (⟨symbol, t⟩ :: xs) := by
  obtain ⟨c, s, rfl, hfront⟩ := h
  have hscans := Scans.cons hfront hxs
  rwa [← List.cons_append, upTo_append] at hscans

/-! ## Characters with a job -/

/-- The characters that are blanks, brackets, separators, or start a text or an error value. -/
def jobs (l : Locale) : List Char :=
  [' ', '\t', '\r', '\n', '"', '#', '(', ')', '\x7b', '\x7d', l.argument, l.arrayColumn, l.arrayRow]

/-- The characters of which operators, colons and percent signs consist. -/
def operatorSigns : List Char :=
  [':', '+', '-', '*', '/', '^', '&', '%', '=', '<', '>']

/-- Whether a number, a name or a reference can start with the character. -/
def startsWord (l : Locale) (c : Char) : Bool :=
  startsName c || c.isDigit || c = '$' || c = '\'' || c = l.decimal

/-- A character that starts a word is no separator, blank or bracket, and no operator sign. -/
lemma not_mem_of_startsWord (hl : l.IsPreset) {c : Char} (hc : startsWord l c = true) :
    c ∉ jobs l ∧ c ∉ operatorSigns := by
  have hall : (jobs l ++ operatorSigns).all (fun c => !startsWord l c) = true := by
    rcases hl with rfl | rfl <;> decide
  have hnone : ∀ c ∈ jobs l ++ operatorSigns, startsWord l c = false := fun c hmem => by
    simpa using List.all_eq_true.mp hall c hmem
  constructor <;> intro hmem
  · cases hc.symm.trans (hnone c (List.mem_append_left _ hmem))
  · cases hc.symm.trans (hnone c (List.mem_append_right _ hmem))

/-- Blanks are among the characters with a job. -/
lemma mem_jobs_of_isBlank (hl : l.IsPreset) {c : Char} (h : l.isBlank c = true) : c ∈ jobs l := by
  have hblank := isPlainBlank_of_isBlank hl h
  simp only [Text.isPlainBlank, Bool.or_eq_true, decide_eq_true_eq] at hblank
  rcases hblank with ((rfl | rfl) | rfl) | rfl <;> simp [jobs]

/-- A character without a job of its own is looked at as a whole with what follows. -/
lemma front_eq_plainFront (hl : l.IsPreset) {c : Char} (hc : c ∉ jobs l) (s : Text) :
    front l n c s = plainFront l n c s := by
  have hblank : ¬l.isBlank c = true := fun h => hc (mem_jobs_of_isBlank hl h)
  have hjobs : ∀ d ∈ jobs l, c ≠ d := fun d hd heq => hc (heq ▸ hd)
  have hbracket : bracket? n c = none := by
    unfold bracket?
    split
    · exact absurd rfl (hjobs '(' (by simp [jobs]))
    · exact absurd rfl (hjobs ')' (by simp [jobs]))
    · exact absurd rfl (hjobs '\x7b' (by simp [jobs]))
    · exact absurd rfl (hjobs '\x7d' (by simp [jobs]))
    · rfl
  have hseparator : separator? l n c = none := by
    have hrow := hjobs l.arrayRow (by simp [jobs])
    have hcolumn := hjobs l.arrayColumn (by simp [jobs])
    rw [separator?, if_neg (hjobs l.argument (by simp [jobs])), if_neg (by simp [hrow, hcolumn])]
  rw [front, if_neg hblank, if_neg (hjobs '"' (by simp [jobs])),
    if_neg (hjobs '#' (by simp [jobs])), hbracket, hseparator]

/-! ## Blanks, texts and signs -/

/-- Blanks are read up to the first character that is none. -/
lemma readsFront_blank {blanks : Text} (h : AreBlanks l blanks)
    (hrest : Text.StopsAt l.isBlank rest) : ReadsFront l n blanks rest .blank n := by
  obtain ⟨hne, hblanks⟩ := h
  obtain ⟨c, s, rfl⟩ := List.exists_cons_of_ne_nil hne
  obtain ⟨hc, hs⟩ := List.forall_mem_cons.mp hblanks
  refine ⟨c, s, rfl, ?_⟩
  rw [front, if_pos hc, Text.dropWhile_append hs hrest]

/-- A quoted text is read as what was quoted. -/
lemma readsFront_string (hl : l.IsPreset) (content : Text) (hrest : Text.StopsAt (· = '"') rest) :
    ReadsFront l n (Text.quoted '"' content) rest (.string content) n := by
  refine ⟨'"', _, rfl, ?_⟩
  have hblank : ¬l.isBlank '"' = true := by rcases hl with rfl | rfl <;> decide
  rw [front, if_neg hblank, if_pos rfl, stringFront, List.append_assoc, List.singleton_append,
    Text.unquoted?_doubled content hrest]

/-- A bracket is read as what it opens or closes. -/
lemma readsFront_bracket (hl : l.IsPreset) {c : Char} (h : bracket? n c = some (symbol, n')) :
    ReadsFront l n [c] rest symbol n' := by
  have hc : ¬l.isBlank c = true ∧ c ≠ '"' ∧ c ≠ '#' := by
    unfold bracket? at h
    split at h
    case h_5 => cases h
    all_goals rcases hl with rfl | rfl <;> decide
  refine ⟨c, [], rfl, ?_⟩
  rw [front, if_neg hc.1, if_neg hc.2.1, if_neg hc.2.2, h, List.nil_append]

/-- The characters of separators have no other job. -/
lemma front_separator (hl : l.IsPreset) {c : Char}
    (hc : c = l.argument ∨ c = l.arrayColumn ∨ c = l.arrayRow)
    (h : separator? l n c = some symbol) : ReadsFront l n [c] rest symbol n := by
  have hplain : ¬l.isBlank c = true ∧ c ≠ '"' ∧ c ≠ '#' ∧ bracket? n c = none := by
    rcases hl with rfl | rfl
    all_goals rcases hc with rfl | rfl | rfl
    all_goals exact ⟨by decide, by decide, by decide, rfl⟩
  obtain ⟨hblank, hquote, hhash, hbracket⟩ := hplain
  refine ⟨c, [], rfl, ?_⟩
  rw [front, if_neg hblank, if_neg hquote, if_neg hhash, hbracket, h, List.nil_append]

/-- Inside of a call the separator of arguments is read as one. -/
lemma readsFront_argumentSeparator (hl : l.IsPreset) (h : n.inCall = true) :
    ReadsFront l n [l.argument] rest .argumentSeparator n := by
  refine front_separator hl (Or.inl rfl) ?_
  rw [separator?, if_pos rfl, if_neg (by simp [h])]

/-- Directly inside braces the separators of array parts keep their job. -/
lemma separator?_array {c : Char} (hc : c = l.arrayRow ∨ c = l.arrayColumn)
    (hbraces : 0 < n.braces) (hcall : n.inCall = false) :
    separator? l n c = some (arraySeparator l c) := by
  unfold separator?
  split
  · rw [if_pos (by simp [hbraces, hcall])]
  · rw [if_pos ⟨hbraces, hc⟩]

/-- Inside of an array and outside of calls in it, the separator of columns is read as one. -/
lemma readsFront_columnSeparator (hl : l.IsPreset) (hbraces : 0 < n.braces)
    (hcall : n.inCall = false) : ReadsFront l n [l.arrayColumn] rest .columnSeparator n := by
  refine front_separator hl (Or.inr (Or.inl rfl)) ?_
  rw [separator?_array (Or.inr rfl) hbraces hcall]
  rcases hl with rfl | rfl <;> rfl

/-- Inside of an array and outside of calls in it, the separator of rows is read as one. -/
lemma readsFront_rowSeparator (hl : l.IsPreset) (hbraces : 0 < n.braces)
    (hcall : n.inCall = false) : ReadsFront l n [l.arrayRow] rest .rowSeparator n := by
  refine front_separator hl (Or.inr (Or.inr rfl)) ?_
  rw [separator?_array (Or.inl rfl) hbraces hcall, arraySeparator, if_pos rfl]

/-- What is read as an operator starts with one of the operator signs. -/
lemma mem_operatorSigns {c : Char} {s : Text} (h : operatorFront? c s = some (symbol, rest)) :
    c ∈ operatorSigns := by
  unfold operatorFront? at h
  split at h
  case h_12 => cases h
  all_goals simp [operatorSigns]

/-- No operator sign has another job. -/
lemma not_mem_jobs_of_mem_operatorSigns (hl : l.IsPreset) {c : Char} (h : c ∈ operatorSigns) :
    c ∉ jobs l := by
  have hall : operatorSigns.all (fun c => !(jobs l).contains c) = true := by
    rcases hl with rfl | rfl <;> decide
  simpa using List.all_eq_true.mp hall c h

/-- No number starts with the character of an operator. -/
lemma numberFront?_operatorSign (hl : l.IsPreset) {c : Char} (h : c ∈ operatorSigns) (s : Text) :
    numberFront? l c s = none := by
  have hall : operatorSigns.all (fun c => !c.isDigit && c ≠ l.decimal) = true := by
    rcases hl with rfl | rfl <;> decide
  have hc := List.all_eq_true.mp hall c h
  simp only [Bool.and_eq_true, Bool.not_eq_true', decide_eq_true_eq] at hc
  unfold numberFront?
  dsimp only
  rw [if_neg (by simp [hc.1]), if_neg (by simp [hc.2])]

/-- An operator is read unless what follows makes it a longer one. -/
lemma readsFront_operator (hl : l.IsPreset) {c : Char} {s : Text}
    (h : operatorFront? c (s ++ rest) = some (symbol, rest)) :
    ReadsFront l n (c :: s) rest symbol n := by
  have hc := mem_operatorSigns h
  refine ⟨c, s, rfl, ?_⟩
  rw [front_eq_plainFront hl (not_mem_jobs_of_mem_operatorSigns hl hc), plainFront,
    numberFront?_operatorSign hl hc, h]
  rfl

/-- The symbol of an operator is read as this operator. -/
lemma readsFront_symbol (hl : l.IsPreset) (op : BinaryOp) (h : EndsOperator rest) :
    ReadsFront l n op.symbol rest (.operator op) n := by
  obtain ⟨c, s, hs, hread⟩ := operatorFront?_symbol op h
  obtain ⟨d, u, hsymbol⟩ : ∃ d u, op.symbol = d :: u := by cases op <;> exact ⟨_, _, rfl⟩
  rw [hsymbol, List.cons_append] at hs
  obtain ⟨rfl, rfl⟩ := List.cons.inj hs
  rw [hsymbol]
  exact readsFront_operator hl hread

/-! ## Error values -/

/-- Cutting behind the bytes of the first text gives back both texts. -/
lemma splitAtByte_append_self (t rest : Text) :
    Text.splitAtByte (Text.byteSize t) (t ++ rest) = (t, rest) := by
  induction t with
  | nil =>
    cases rest with
    | nil => rfl
    | cons c rest =>
      rw [Text.byteSize_nil, List.nil_append, Text.splitAtByte,
        if_neg (Nat.not_le.mpr (Char.utf8Size_pos c))]
  | cons c t ih =>
    rw [Text.byteSize_cons, List.cons_append, Text.splitAtByte, if_pos (Nat.le_add_right _ _),
      Nat.add_sub_cancel_left, ih]

/-- A name is read back in any case. -/
lemma errorName?_append {t : Text} (e : ErrorValue) (rest : Text) (hne : t ≠ [])
    (hsize : Text.byteSize t = Text.byteSize (Text.upper t)) :
    errorName? (Text.upper t, e) (t ++ rest) = some (e, rest) := by
  rw [errorName?, ← hsize, splitAtByte_append_self]
  exact if_pos ⟨hne, rfl, rfl⟩

/-- Another name is not read, if neither of the two starts with the other. -/
lemma errorName?_eq_none {entry : Text × ErrorValue} {t : Text} (rest : Text)
    (h : ¬entry.1 <+: Text.upper t) (h' : ¬Text.upper t <+: entry.1) :
    errorName? entry (t ++ rest) = none := by
  have happend := Text.splitAtByte_append (Text.byteSize entry.1) (t ++ rest)
  refine if_neg ?_
  rintro ⟨-, -, hname⟩
  rcases List.append_eq_append_iff.mp happend with ⟨u, ht, -⟩ | ⟨u, htaken, -⟩
  · refine h ⟨Text.upper u, ?_⟩
    rw [← hname, ← Text.upper_append, ← ht]
  · refine h' ⟨Text.upper u, ?_⟩
    rw [← hname, htaken, Text.upper_append]

/-- Names of error values that do not match leave what has been found. -/
lemma foldl_longer_eq_self {names : List (Text × ErrorValue)} {s : Text}
    (h : ∀ entry ∈ names, errorName? entry s = none) (found : Option (ErrorValue × Text)) :
    names.foldl (fun found entry => longer found (errorName? entry s)) found = found := by
  induction names generalizing found with
  | nil => rfl
  | cons entry names ih =>
    obtain ⟨hentry, hnames⟩ := List.forall_mem_cons.mp h
    have hlonger : longer found none = found := by cases found <;> rfl
    rw [List.foldl_cons, hentry, hlonger, ih hnames]

/-- A name is read back from a table in which no name starts with another one. -/
lemma errorValue?_append {names : List (Text × ErrorValue)} {t : Text} {e : ErrorValue}
    (hmem : (Text.upper t, e) ∈ names) (hne : t ≠ [])
    (hsize : Text.byteSize t = Text.byteSize (Text.upper t))
    (hnames : names.Pairwise fun a b => ¬a.1 <+: b.1 ∧ ¬b.1 <+: a.1) (rest : Text) :
    errorValue? names (t ++ rest) = some (e, rest) := by
  obtain ⟨front, back, rfl⟩ := List.append_of_mem hmem
  obtain ⟨-, hback, hfront⟩ := List.pairwise_append.mp hnames
  have hnone : ∀ entry ∈ front, errorName? entry (t ++ rest) = none := by
    intro entry hentry
    obtain ⟨h, h'⟩ := hfront entry hentry (Text.upper t, e) List.mem_cons_self
    exact errorName?_eq_none rest h h'
  have hnone' : ∀ entry ∈ back, errorName? entry (t ++ rest) = none := by
    intro entry hentry
    obtain ⟨h, h'⟩ := (List.pairwise_cons.mp hback).1 entry hentry
    exact errorName?_eq_none rest h' h
  rw [errorValue?, List.foldl_append, foldl_longer_eq_self hnone, List.foldl_cons,
    errorName?_append e rest hne hsize, foldl_longer_eq_self hnone']
  rfl

/-- In both tables of error values no name starts with another one. -/
lemma errorNames_pairwise (hl : l.IsPreset) :
    l.errorNames.Pairwise fun a b => ¬a.1 <+: b.1 ∧ ¬b.1 <+: a.1 := by
  rcases hl with rfl | rfl <;> decide

/-- The name of an error value is one of those known, and starts with a number sign. -/
lemma errorName_spec (hl : l.IsPreset) (e : ErrorValue) :
    (l.errorName e, e) ∈ l.errorNames ∧ ∃ s, l.errorName e = '#' :: s := by
  rcases hl with rfl | rfl <;> cases e <;> exact ⟨by decide, _, rfl⟩

/-- The names of error values are in upper case. -/
lemma upper_errorName (hl : l.IsPreset) (e : ErrorValue) :
    Text.upper (l.errorName e) = l.errorName e := by
  have hall : (l.errorName e).all Text.isOwnForm = true := by
    rcases hl with rfl | rfl <;> cases e <;> decide
  exact Text.upper_eq_self (List.all_eq_true.mp hall)

/-- The name of an error value is read in any case. -/
lemma readsFront_errorName (hl : l.IsPreset) {s : Text} {e : ErrorValue}
    (hmem : (Text.upper ('#' :: s), e) ∈ l.errorNames)
    (hsize : Text.byteSize ('#' :: s) = Text.byteSize (Text.upper ('#' :: s))) :
    ReadsFront l n ('#' :: s) rest (.errorValue e) n := by
  have hblank : ¬l.isBlank '#' = true := by rcases hl with rfl | rfl <;> decide
  have hread := errorValue?_append hmem (List.cons_ne_nil _ _) hsize (errorNames_pairwise hl) rest
  rw [List.cons_append] at hread
  refine ⟨'#', s, rfl, ?_⟩
  rw [front, if_neg hblank, if_neg (by decide), if_pos rfl, errorFront, hread]

/-- The name of an error value is read as this error value. -/
lemma readsFront_errorValue (hl : l.IsPreset) (e : ErrorValue) :
    ReadsFront l n (l.errorName e) rest (.errorValue e) n := by
  obtain ⟨hmem, s, hs⟩ := errorName_spec hl e
  have hupper := upper_errorName hl e
  rw [hs] at hmem hupper ⊢
  exact readsFront_errorName hl (by rwa [hupper]) (by rw [hupper])

/-! ## Numbers -/

/-- The decimal separators of the presets can separate decimals. -/
lemma isDecimal_decimal (hl : l.IsPreset) : IsDecimal l.decimal := by
  rcases hl with rfl | rfl <;> exact ⟨rfl, by decide⟩

/-- The decimal separators of the presets do not start a name. -/
lemma startsName_decimal (hl : l.IsPreset) : startsName l.decimal = false := by
  rcases hl with rfl | rfl <;> decide

/-- What can start a word is looked at as a number first. -/
lemma front_of_startsWord (hl : l.IsPreset) {c : Char} (hc : startsWord l c = true) (s : Text) :
    front l n c s =
      match numberFront? l c s with
      | some (symbol, rest) => .lexeme symbol rest n
      | none => wordFront l n c s := by
  obtain ⟨hjobs, hsigns⟩ := not_mem_of_startsWord hl hc
  have hoperator : operatorFront? c s = none := by
    cases h : operatorFront? c s with
    | none => rfl
    | some found => exact absurd (mem_operatorSigns h) hsigns
  rw [front_eq_plainFront hl hjobs]
  cases h : numberFront? l c s <;> simp [plainFront, hoperator, h]

/-- A number starts with a digit, or with the decimal separator and a digit. -/
lemma NumeralText.localized_head (decimal : Char) {numeral : Text} (h : NumeralText numeral) :
    ∃ c s, localized decimal numeral = c :: s ∧
      (c.isDigit = true ∨ c = decimal ∧ s.head?.any Char.isDigit = true) := by
  cases h with
  | @mk whole f e hwhole hf he hne =>
    cases whole with
    | cons c whole =>
      have hc := hwhole c List.mem_cons_self
      have hlocal := localized_digits decimal (List.forall_mem_singleton.mpr hc)
      refine ⟨c, localized decimal (whole ++ f ++ e), ?_, Or.inl hc⟩
      have happend : localized decimal (c :: whole ++ f ++ e) =
          localized decimal [c] ++ localized decimal (whole ++ f ++ e) := rfl
      rw [happend, hlocal, List.singleton_append]
    | nil =>
      cases hf with
      | absent => simp at hne
      | @present d s hd hs =>
        have hlocal := localized_digits decimal (List.forall_mem_singleton.mpr hd)
        refine ⟨decimal, localized decimal (d :: s ++ e), ?_, Or.inr ⟨rfl, ?_⟩⟩
        · simp [localized]
        · have happend : localized decimal (d :: s ++ e) =
              localized decimal [d] ++ localized decimal (s ++ e) := rfl
          rw [happend, hlocal, List.singleton_append, List.head?_cons, Option.any_some, hd]

/-- Digits that are not followed by a colon do not start a run of rows. -/
lemma linesReference_digits {whole tail : Text} (hwhole : ∀ c ∈ whole, c.isDigit = true)
    (htail : Text.StopsAt Char.isDigit tail) (hdollar : tail.head? ≠ some '$')
    (hcolon : tail.head? ≠ some ':') : linesReference .row none (whole ++ tail) = none := by
  refine linesReference_eq_none fun w s heq => ?_
  obtain ⟨u, hu, happend, -⟩ := indexText_of_linePart _ heq
  obtain ⟨c, body, rfl, hbody⟩ := hu.exists_body
  cases hanchor : w.anchor with
  | absolute =>
    rw [hanchor, anchorText, List.append_assoc, List.singleton_append] at happend
    cases whole with
    | nil =>
      rw [List.nil_append] at happend
      exact hdollar (by rw [happend]; rfl)
    | cons d whole =>
      obtain ⟨rfl, -⟩ := List.cons.inj happend
      cases hwhole _ List.mem_cons_self
  | relative =>
    rw [hanchor, anchorText, List.nil_append] at happend
    obtain ⟨-, hs⟩ := Text.append_cancel hwhole hbody htail (Text.stopsAt_cons rfl s) happend
    exact hcolon (by rw [hs]; rfl)

/-- No run of rows starts with a number. -/
lemma linesReference_numeral (hl : l.IsPreset) {numeral : Text} (h : NumeralText numeral)
    (hrest : Terminated l rest) :
    linesReference .row none (localized l.decimal numeral ++ rest) = none := by
  obtain ⟨whole, tail, rfl, hwhole, htail⟩ := h.exists_tail
  have hlocal : localized l.decimal (whole ++ tail) = whole ++ localized l.decimal tail := by
    rw [localized, List.map_append]
    exact congrArg (· ++ _) (localized_digits l.decimal hwhole)
  rw [hlocal, List.append_assoc]
  cases tail with
  | nil =>
    exact linesReference_digits hwhole (hrest.stopsAt_isDigit hl)
      (hrest.head_ne hl (by simp [goesOn])) (hrest.head_ne hl (by simp [goesOn]))
  | cons d tail =>
    have hhead : (if d = '.' then l.decimal else d) = l.decimal ∨
        (if d = '.' then l.decimal else d) = 'E' := by
      rcases htail d rfl with rfl | rfl
      · exact Or.inl rfl
      · exact Or.inr rfl
    have hchar : ∀ c, c = l.decimal ∨ c = 'E' → c.isDigit = false ∧ c ≠ '$' ∧ c ≠ ':' := by
      rcases hl with rfl | rfl <;> (rintro c (rfl | rfl) <;> decide)
    obtain ⟨hdigit, hdollar, hcolon⟩ := hchar _ hhead
    exact linesReference_digits hwhole (Text.stopsAt_cons hdigit _)
      (by simpa [localized] using hdollar) (by simpa [localized] using hcolon)

/-- A text that starts like a number is read as what it is as a number, if no run of rows starts
with it. -/
lemma readsFront_of_number (hl : l.IsPreset) {image numeral : Text}
    (hhead : ∃ c s, image = c :: s ∧
      (c.isDigit = true ∨ c = l.decimal ∧ s.head?.any Char.isDigit = true))
    (hread : number l.decimal (image ++ rest) = (numeral, rest))
    (hlines : linesReference .row none (image ++ rest) = none) :
    ReadsFront l n image rest (.number numeral) n := by
  obtain ⟨c, s, rfl, hc⟩ := hhead
  rw [List.cons_append] at hread hlines
  have hnumber : numberFront? l c (s ++ rest) = some (.number numeral, rest) := by
    unfold numberFront?
    dsimp only
    rw [hread, hlines]
    rcases hc with hc | ⟨rfl, hhead⟩
    · rw [if_pos hc, Option.none_or]
    · have hhead' : (s ++ rest).head?.any Char.isDigit = true := by
        cases s with
        | nil => cases hhead
        | cons d s => exact hhead
      rw [if_neg (by simp [(isDecimal_decimal hl).notDigit]), if_pos ⟨rfl, hhead'⟩]
  have hstarts : startsWord l c = true := by
    rcases hc with hc | ⟨rfl, -⟩ <;> simp [startsWord, *]
  refine ⟨c, s, rfl, ?_⟩
  rw [front_of_startsWord hl hstarts, hnumber]

/-- A number written with the decimal separator of the locale is read as this number. -/
lemma readsFront_number (hl : l.IsPreset) {numeral : Text} (h : NumeralText numeral)
    (hrest : Terminated l rest) :
    ReadsFront l n (localized l.decimal numeral) rest (.number numeral) n :=
  readsFront_of_number hl (h.localized_head l.decimal)
    (number_localized h (isDecimal_decimal hl) (hrest.stopsAt_continuesNumber hl))
    (linesReference_numeral hl h hrest)

/-! ## Names and functions -/

/-- No number starts like a word of letters, or with a `$` or a quote. -/
lemma front_eq_wordFront (hl : l.IsPreset) {c : Char}
    (hc : c = '\'' ∨ c = '$' ∨ startsName c = true) (s : Text) :
    front l n c s = wordFront l n c s := by
  have hnumber : c.isDigit = false ∧ c ≠ l.decimal := by
    rcases hc with rfl | rfl | hc
    · rcases hl with rfl | rfl <;> exact ⟨by decide, by decide⟩
    · rcases hl with rfl | rfl <;> exact ⟨by decide, by decide⟩
    · constructor
      · by_contra hdigit
        have hdigit : c.isDigit = true := by simpa using hdigit
        cases (startsName_of_isDigit hdigit).symm.trans hc
      · rintro rfl
        cases (startsName_decimal hl).symm.trans hc
  have hnone : numberFront? l c s = none := by
    unfold numberFront?
    dsimp only
    rw [if_neg (by simp [hnumber.1]), if_neg (by simp [hnumber.2])]
  have hstarts : startsWord l c = true := by
    rcases hc with rfl | rfl | hc
    · simp [startsWord]
    · simp [startsWord]
    · simp [startsWord, hc]
  rw [front_of_startsWord hl hstarts, hnone]

/-- A word that is no reference is a name or a function. -/
lemma front_eq_nameFront (hl : l.IsPreset) {c : Char} {s : Text} (hc : startsName c = true)
    (habsent : referenceFront (c :: s) = .absent) : front l n c s = nameFront l n c s := by
  rw [front_eq_wordFront hl (Or.inr (Or.inr hc)), wordFront, if_pos (Or.inr (Or.inr hc)), habsent]
  exact if_pos hc

/-- A name that does not look like a cell is read as this name. -/
lemma readsFront_name (hl : l.IsPreset) {word : Text} (h : NameText word)
    (hcell : ∀ w, ¬CellText w word) (hrest : Terminated l rest) :
    ReadsFront l n word rest (.name word) n := by
  have habsent := referenceFront_name h (hrest.endsName hl) (Or.inr hcell)
  have hstops := hrest.stopsAt_continuesName hl
  cases h with
  | @mk c s hc hs =>
    rw [List.cons_append] at habsent
    refine ⟨c, s, rfl, ?_⟩
    rw [front_eq_nameFront hl hc habsent, nameFront, Text.takeWhile_append hs hstops,
      Text.dropWhile_append hs hstops]
    dsimp only
    split
    · next rest' hparen => exact absurd rfl (hrest.head_ne hl (c := '(') (by simp [goesOn]))
    · rfl

/-- A name with a parenthesis behind it is a function, also if it looks like a cell. -/
lemma readsFront_function (hl : l.IsPreset) {word : Text} (h : NameText word) :
    ReadsFront l n (word ++ ['(']) rest
      (if l.canonicalName word = offsetName then .offsetCall else .call (l.canonicalName word))
      (n.enter (.call n.braces)) := by
  have hstops : Text.StopsAt continuesName ('(' :: rest) := Text.stopsAt_cons (by decide) rest
  have hends : EndsName ('(' :: rest) := ⟨hstops, by simp, by simp, by simp⟩
  have habsent := referenceFront_name h hends (Or.inl rfl)
  cases h with
  | @mk c s hc hs =>
    rw [List.cons_append] at habsent
    refine ⟨c, s ++ ['('], rfl, ?_⟩
    rw [List.append_assoc, List.singleton_append, front_eq_nameFront hl hc habsent, nameFront,
      Text.takeWhile_append hs hstops, Text.dropWhile_append hs hstops]
    rfl

/-- The name of a function in front of a parenthesis is read as a call of the function. -/
lemma readsFront_call (hl : l.IsPreset) {word : Text} (h : NameText word)
    (hoffset : l.canonicalName word ≠ offsetName) :
    ReadsFront l n (word ++ ['(']) rest (.call (l.canonicalName word)) (n.enter (.call n.braces)) := by
  have hread : ReadsFront l n (word ++ ['(']) rest _ (n.enter (.call n.braces)) :=
    readsFront_function hl h
  rwa [if_neg hoffset] at hread

/-- The name of the offset function in front of a parenthesis is read as an offset. -/
lemma readsFront_offsetCall (hl : l.IsPreset) {word : Text} (h : NameText word)
    (hoffset : l.canonicalName word = offsetName) :
    ReadsFront l n (word ++ ['(']) rest .offsetCall (n.enter (.call n.braces)) := by
  have hread : ReadsFront l n (word ++ ['(']) rest _ (n.enter (.call n.braces)) :=
    readsFront_function hl h
  rwa [if_pos hoffset] at hread

/-- A name in upper case is a name, as far as it is below U+0080. -/
lemma nameText_upper {word : Text} (h : NameText word) (hascii : Text.IsAscii (Text.upper word)) :
    NameText (Text.upper word) := by
  have hword := Text.isWord_upper fun c hc => isWord_of_continuesName (h.continues c hc)
  have hcontinues : ∀ d ∈ Text.upper word, continuesName d = true := fun d hd =>
    Text.forall_ascii (p := fun d => Text.isWord d = true → continuesName d = true)
      (by decide) (hascii d hd) (hword d hd)
  cases h with
  | @mk c s hc hs =>
    have hne := (Text.upperForm_spec (isWord_of_continuesName (continuesName_of_startsName hc))).1
    obtain ⟨d, form, hform⟩ := List.exists_cons_of_ne_nil hne
    have hd : d ∈ Text.upperForm c := by
      rw [hform]
      exact List.mem_cons_self
    rw [Text.upper_cons, hform, List.cons_append] at hascii hcontinues ⊢
    obtain ⟨hlt, -⟩ := List.forall_mem_cons.mp hascii
    refine .mk ?_ (List.forall_mem_cons.mp hcontinues).2
    rcases Text.eq_toUpper_of_mem_upperForm hd hlt with ⟨hclt, rfl⟩ | hupper
    · exact Text.forall_ascii (p := fun c => startsName c = true → startsName c.toUpper = true)
        (by decide) hclt hc
    · exact Text.forall_ascii (p := fun d => d.isUpper = true → startsName d = true)
        (by decide) hlt hupper

/-- Whether the text is a name. -/
def isNameText : Text → Bool
  | [] => false
  | c :: s => startsName c && s.all continuesName

/-- The test for names is right. -/
lemma nameText_of_isNameText {word : Text} (h : isNameText word = true) : NameText word := by
  cases word with
  | nil => cases h
  | cons c s =>
    obtain ⟨hc, hs⟩ := (Bool.and_eq_true _ _).mp h
    exact .mk hc (List.all_eq_true.mp hs)

/-- The local name of a function is a name, and means the function. -/
lemma localName_spec (hl : l.IsPreset) {word : Text} (h : NameText word)
    (hascii : Text.IsAscii (l.canonicalName word)) :
    NameText (l.localName (l.canonicalName word)) ∧
      l.canonicalName (l.localName (l.canonicalName word)) = l.canonicalName word := by
  have htable : ∀ entry ∈ l.functionNames,
      NameText entry.1 ∧ l.canonicalName entry.1 = entry.2 := by
    have hall : l.functionNames.all
        (fun entry => isNameText entry.1 && l.canonicalName entry.1 = entry.2) = true := by
      rcases hl with rfl | rfl <;> decide
    intro entry hentry
    obtain ⟨hname, hcanonical⟩ := (Bool.and_eq_true _ _).mp (List.all_eq_true.mp hall entry hentry)
    exact ⟨nameText_of_isNameText hname, of_decide_eq_true hcanonical⟩
  cases hfind : l.functionNames.find? fun entry => entry.2 = l.canonicalName word with
  | some entry =>
    have hlocal : l.localName (l.canonicalName word) = entry.1 := by
      rw [Locale.localName, hfind]
      rfl
    obtain ⟨hname, hcanonical⟩ := htable entry (List.mem_of_find?_eq_some hfind)
    have hentry := List.find?_some hfind
    rw [hlocal]
    exact ⟨hname, hcanonical.trans (of_decide_eq_true hentry)⟩
  | none =>
    have hlocal : l.localName (l.canonicalName word) = l.canonicalName word := by
      rw [Locale.localName, hfind]
      rfl
    rcases l.canonicalName_cases word with hentry | ⟨hnot, hupper⟩
    · exact absurd (decide_eq_true rfl) (List.find?_eq_none.mp hfind _ hentry)
    · rw [hlocal]
      rw [hupper] at hascii ⊢
      exact ⟨nameText_upper h hascii,
        Locale.canonicalName_eq_self hnot (Text.upper_upper hascii)⟩

/-! ## References -/

/-- A reference that starts with a digit is a run of rows. -/
lemma linesReference_of_isDigit {c : Char} {s : Text} (hc : c.isDigit = true)
    (h : referenceFront (c :: s) = .present symbol rest) :
    linesReference .row none (c :: s) = some (symbol, rest) := by
  have hquote : c ≠ '\'' := by
    rintro rfl
    cases hc
  have hdollar : c ≠ '$' := by
    rintro rfl
    cases hc
  have halpha : ¬c.isAlpha = true := by
    rw [Text.isAlpha_of_isDigit hc]
    decide
  have hsheet : sheetFront (c :: s) = .absent := by
    rw [sheetFront, if_neg hquote, if_neg (by simp [startsName_of_isDigit hc])]
  have hcolumn : columnPart (c :: s) = none := by
    have hanchor : anchor (anchorText .relative ++ c :: s) = _ := anchor_append hdollar
    rw [anchorText, List.nil_append] at hanchor
    rw [columnPart, hanchor]
    simp [halpha]
  have hcolumns : linesReference .column none (c :: s) = none := by
    refine linesReference_eq_none fun w s' heq => ?_
    cases hcolumn.symm.trans heq
  have hcell : cellReference none (c :: s) = none := by
    rw [cellReference, hcolumn]
  rw [referenceFront, hsheet] at h
  dsimp only at h
  rw [bareReference, hcolumns, hcell, Option.none_or, Option.or_none] at h
  split at h
  · next hlines =>
    cases h
    exact hlines
  · cases h

/-- A written reference is read as this reference. -/
lemma readsFront_reference (hl : l.IsPreset) (h : ReferenceText symbol t)
    (hrest : EndsReference rest) : ReadsFront l n t rest symbol n := by
  have hread := referenceFront_append h hrest
  rcases h.head with ⟨c, s, rfl, hc⟩ | ⟨c, digits, s, rfl, hdigits⟩
  · have hword : c = '$' ∨ c = '\'' ∨ startsName c = true := by tauto
    refine ⟨c, s, rfl, ?_⟩
    rw [List.cons_append] at hread
    rw [front_eq_wordFront hl hc, wordFront, if_pos hword, hread]
  · have hc := hdigits c List.mem_cons_self
    have hstarts : startsWord l c = true := by simp [startsWord, hc]
    rw [List.cons_append, List.cons_append] at hread
    refine ⟨c, digits ++ ':' :: s, rfl, ?_⟩
    rw [front_of_startsWord hl hstarts, numberFront?, if_pos hc, linesReference_of_isDigit hc hread,
      Option.some_or]

end Scan

end GridFormula
