import GridFormula.Proofs.Formula.SymbolText
import GridFormula.Proofs.Locale.SameWords
import GridFormula.Proofs.Number.SmallInteger

/-!
# How offsets are written

An offset is written with a cell and two to four integers, each of which may have blanks and signs
in front. Such a text is cut into the same lexemes in all locales with the words of the United
States, whatever their blanks are.
-/

namespace GridFormula

open Scan

/-! ## Lexemes with blanks between them -/

namespace Scan

variable {l : Locale} {n n' : Nesting} {s t rest : Text} {xs ys : List Lexeme}

/-- The text is cut into the lexemes, which may have blanks in front of them. -/
def ScansApart (l : Locale) (n : Nesting) (s : Text) (xs : List Lexeme) : Prop :=
  ∃ zs, Scans l n s zs ∧ zs.filter (fun z => !z.isBlank) = xs

/-- A lexeme that is read in front of others may have blanks in front. -/
lemma ReadsFront.scansApart {symbol : Symbol} (h : ReadsFront l n t rest symbol n')
    (hne : symbol ≠ .blank) (hxs : ScansApart l n' rest xs) :
    ScansApart l n (t ++ rest) (⟨symbol, t⟩ :: xs) := by
  obtain ⟨zs, hzs, rfl⟩ := hxs
  exact ⟨_, h.scans hzs, List.filter_cons_of_pos (by simpa [Lexeme.isBlank] using hne)⟩

/-- A blank in front is joined with the blanks behind it. -/
lemma ScansApart.blank {c : Char} (hc : l.isBlank c = true) (h : ScansApart l n s xs) :
    ScansApart l n (c :: s) xs := by
  obtain ⟨zs, hzs, rfl⟩ := h
  have hfront : ∀ {d u}, l.isBlank d = true →
      front l n d u = .lexeme .blank (u.dropWhile l.isBlank) n := by
    intro d u hd
    rw [front, if_pos hd]
  have hcons := hfront (u := s) hc
  cases hzs with
  | nil => exact ⟨_, .cons hcons .nil, rfl⟩
  | @cons _ n' d u symbol rest zs hread hrest =>
    by_cases hd : l.isBlank d = true
    · obtain ⟨rfl, rfl, rfl⟩ := Front.lexeme.inj ((hfront hd).symm.trans hread)
      rw [List.dropWhile_cons_of_pos hd] at hcons
      exact ⟨_, .cons hcons hrest, rfl⟩
    · rw [List.dropWhile_cons_of_neg hd] at hcons
      exact ⟨_, .cons hcons (.cons hread hrest), rfl⟩

/-- Wherever what follows the text is as given, the text is cut into the lexemes, and nothing that
was opened in it stays open. -/
def IsCut (l : Locale) (Follows : Text → Prop) (t : Text) (xs : List Lexeme) : Prop :=
  ∀ n rest ys, Follows rest → ScansApart l n rest ys → ScansApart l n (t ++ rest) (xs ++ ys)

end Scan

/-! ## Integers -/

/-- An integer with fewer than sixteen digits that is written out, with any number of signs and
blanks in front. -/
inductive IntegerText (l : Locale) : Int → Text → Prop where
  | digits {s : Text} :
    s ≠ [] → (∀ c ∈ s, c.isDigit = true) → Text.toNat s < 10 ^ 15 → IntegerText l (Text.toNat s) s
  | signed {n : Int} {s : Text} (sign : Sign) :
    IntegerText l n s → IntegerText l (sign.apply n) (sign.symbol ++ s)
  | blank {n : Int} {c : Char} {s : Text} :
    l.isBlank c = true → IntegerText l n s → IntegerText l n (c :: s)

/-- The lexemes of an integer: signs, and a number that is small. -/
inductive IntegerLexemes : Int → List Lexeme → Prop where
  | number {n : Int} {numeral image : Text} :
    (Numeral.read? numeral).bind Binary64.smallInt? = some n →
      IntegerLexemes n [⟨.number numeral, image⟩]
  | signed {n : Int} {xs : List Lexeme} (sign : Sign) (image : Text) :
    IntegerLexemes n xs → IntegerLexemes (sign.apply n) (⟨.operator sign.operator, image⟩ :: xs)

section

variable {l : Locale} {n : Nesting} {t rest : Text}

/-- The locale of the United States is a preset. -/
lemma isPreset_unitedStates : Locale.unitedStates.IsPreset :=
  Or.inl rfl

/-- A sign in front of an integer is read by itself. -/
lemma readsFront_sign (hwords : l.SameWords .unitedStates) (sign : Sign) :
    ReadsFront l n sign.symbol rest (.operator sign.operator) n := by
  have hread : ReadsFront .unitedStates n sign.symbol rest (.operator sign.operator) n := by
    cases sign <;> exact readsFront_operator isPreset_unitedStates rfl
  cases sign <;> exact hread.of_sameWords hwords rfl

/-- Digits are read as a number. -/
lemma readsFront_digits (hwords : l.SameWords .unitedStates) {s : Text} (hne : s ≠ [])
    (hs : ∀ c ∈ s, c.isDigit = true) (hrest : Terminated .unitedStates rest) :
    ReadsFront l n s rest (.number s) n := by
  have himage : NumeralImage '.' s s := by
    have hmk : NumeralImage '.' (s ++ [] ++ []) (s ++ ([] ++ [])) :=
      .mk hs .absent .absent (Or.inl hne)
    simpa using hmk
  have hread : ReadsFront .unitedStates n s rest (.number s) n :=
    himage.readsFront isPreset_unitedStates hrest
  obtain ⟨c, s, rfl⟩ := List.exists_cons_of_ne_nil hne
  exact hread.of_sameWords hwords (isBlank_of_isDigit (hs c List.mem_cons_self))

/-- An integer is cut into signs and a number. -/
lemma IntegerText.exists_lexemes (hwords : l.SameWords .unitedStates) {i : Int}
    (h : IntegerText l i t) :
    ∃ xs, IntegerLexemes i xs ∧ IsCut l (Terminated .unitedStates) t xs := by
  induction h with
  | @digits s hne hs hlt =>
    refine ⟨[⟨.number s, s⟩], .number (Numeral.smallInt?_digits hne hs hlt), ?_⟩
    intro n rest ys hrest hys
    exact (readsFront_digits hwords hne hs hrest).scansApart (by simp) hys
  | @signed i s sign _ ih =>
    obtain ⟨xs, hxs, hcut⟩ := ih
    refine ⟨_, .signed sign sign.symbol hxs, ?_⟩
    intro n rest ys hrest hys
    rw [List.append_assoc]
    exact (readsFront_sign hwords sign).scansApart (by simp) (hcut n rest ys hrest hys)
  | @blank i c s hc _ ih =>
    obtain ⟨xs, hxs, hcut⟩ := ih
    exact ⟨xs, hxs, fun n rest ys hrest hys => (hcut n rest ys hrest hys).blank hc⟩

end

/-! ## Offsets -/

/-- What an offset is asked for: how many rows and columns to go, and the size of the result. -/
structure OffsetSteps where
  rows : Int
  columns : Int
  height : Int
  width : Int
deriving DecidableEq, Repr

/-- What the numbers of an offset ask for. The result has one row and one column where its size is
not given. -/
def OffsetSteps.ofNumbers? : List Int → Option OffsetSteps
  | [rows, columns] => some ⟨rows, columns, 1, 1⟩
  | [rows, columns, height] => some ⟨rows, columns, height, 1⟩
  | [rows, columns, height, width] => some ⟨rows, columns, height, width⟩
  | _ => none

/-- How the numbers of an offset are written, with a separator in front of each. -/
def argumentText (l : Locale) (arguments : List Text) : Text :=
  arguments.flatMap fun t => l.argument :: t

/-- How an offset from a written cell is written. -/
inductive OffsetText (l : Locale) (w : WrittenCell) (o : OffsetSteps) : Text → Prop where
  | mk {cell : Text} {numbers : List Int} {arguments : List Text} :
    CellText w cell → List.Forall₂ (IntegerText l) numbers arguments →
      OffsetSteps.ofNumbers? numbers = some o →
        OffsetText l w o (offsetName ++ ['('] ++ (cell ++ (argumentText l arguments ++ [')'])))

/-- The lexemes of the numbers of an offset. -/
inductive ArgumentLexemes : List Int → List Lexeme → Prop where
  | nil : ArgumentLexemes [] []
  | cons {n : Int} {numbers : List Int} {xs ys : List Lexeme} (image : Text) :
    IntegerLexemes n xs → ArgumentLexemes numbers ys →
      ArgumentLexemes (n :: numbers) (⟨.argumentSeparator, image⟩ :: (xs ++ ys))

/-- The lexemes of an offset. -/
inductive OffsetLexemes (w : WrittenCell) (o : OffsetSteps) : List Lexeme → Prop where
  | mk {numbers : List Int} {xs : List Lexeme} (call cell close : Text) :
    ArgumentLexemes numbers xs → OffsetSteps.ofNumbers? numbers = some o →
      OffsetLexemes w o
        (⟨.offsetCall, call⟩ :: ⟨.cell w, cell⟩ :: (xs ++ [⟨.closeParen, close⟩]))

section

variable {l : Locale} {n : Nesting} {t rest : Text}

/-- With the same words, the separator of arguments is read as one inside of a call. -/
lemma readsFront_separator (hwords : l.SameWords .unitedStates) (hn : n.inCall = true) :
    ReadsFront l n [l.argument] rest .argumentSeparator n := by
  have hread : ReadsFront .unitedStates n [Locale.unitedStates.argument] rest .argumentSeparator n :=
    readsFront_argumentSeparator isPreset_unitedStates hn
  rw [hwords.argument]
  exact hread.of_sameWords hwords rfl

/-- No cell is written with a blank in front. -/
lemma CellText.exists_head {w : WrittenCell} (h : CellText w t) :
    ∃ c s, t = c :: s ∧ Text.isBlank c = false := by
  rcases (ReferenceText.cell h).head with ⟨c, s, rfl, hc⟩ | ⟨c, digits, s, rfl, hdigits⟩
  · refine ⟨c, s, rfl, ?_⟩
    rcases hc with rfl | rfl | hc
    · rfl
    · rfl
    · exact isBlank_of_startsName hc
  · exact ⟨c, _, rfl, isBlank_of_isDigit (hdigits c List.mem_cons_self)⟩

/-- With the same words, a written cell is read as this cell. -/
lemma readsFront_cell (hwords : l.SameWords .unitedStates) {w : WrittenCell} (h : CellText w t)
    (hrest : Scan.EndsReference rest) : ReadsFront l n t rest (.cell w) n := by
  have hread : ReadsFront .unitedStates n t rest (.cell w) n :=
    readsFront_reference isPreset_unitedStates (.cell h) hrest
  obtain ⟨c, s, rfl, hc⟩ := CellText.exists_head h
  exact hread.of_sameWords hwords hc

/-- With the same words, the name of the offset function opens an offset. -/
lemma readsFront_offset (hwords : l.SameWords .unitedStates) :
    ReadsFront l n (offsetName ++ ['(']) rest .offsetCall (n.enter (.call n.braces)) := by
  have hread : ReadsFront .unitedStates n (offsetName ++ ['(']) rest .offsetCall
      (n.enter (.call n.braces)) :=
    readsFront_offsetCall isPreset_unitedStates (nameText_of_isNameText rfl) (by decide +kernel)
  exact hread.of_sameWords hwords rfl

/-- With the same words, a closing parenthesis is read as one. -/
lemma readsFront_closeParen (hwords : l.SameWords .unitedStates) :
    ReadsFront l n [')'] rest .closeParen n.leave := by
  have hread : ReadsFront .unitedStates n [')'] rest .closeParen n.leave :=
    readsFront_bracket isPreset_unitedStates rfl
  exact hread.of_sameWords hwords rfl

/-- Colons and equals signs are read by themselves. -/
lemma readsFront_colon (hwords : l.SameWords .unitedStates) :
    ReadsFront l n [':'] rest .colon n := by
  have hread : ReadsFront .unitedStates n [':'] rest .colon n :=
    readsFront_operator isPreset_unitedStates rfl
  exact hread.of_sameWords hwords rfl

/-- With the same words, an equals sign is read as one. -/
lemma readsFront_equal (hwords : l.SameWords .unitedStates) :
    ReadsFront l n ['='] rest (.operator .equal) n := by
  have hread : ReadsFront .unitedStates n ['='] rest (.operator .equal) n :=
    readsFront_operator isPreset_unitedStates rfl
  exact hread.of_sameWords hwords rfl

/-- What stands behind an argument does not go on with it. -/
lemma terminated_argumentText {arguments : List Text} (hwords : l.SameWords .unitedStates) :
    Terminated .unitedStates (argumentText l arguments ++ ')' :: rest) := by
  cases arguments with
  | nil => exact terminated_cons (by simp [Locale.terminators]) _
  | cons t arguments => exact terminated_cons (by simp [Locale.terminators, hwords.argument]) _

/-- The numbers of an offset are cut into their lexemes. -/
lemma exists_argumentLexemes (hwords : l.SameWords .unitedStates) {numbers : List Int}
    {arguments : List Text} (h : List.Forall₂ (IntegerText l) numbers arguments) :
    ∃ xs, ArgumentLexemes numbers xs ∧ ∀ n rest ys, n.inCall = true →
      ScansApart l n (')' :: rest) ys →
        ScansApart l n (argumentText l arguments ++ ')' :: rest) (xs ++ ys) := by
  induction h with
  | nil => exact ⟨[], .nil, fun n rest ys _ hys => hys⟩
  | @cons i t numbers arguments ht _ ih =>
    obtain ⟨xs, hxs, hcut⟩ := ht.exists_lexemes hwords
    obtain ⟨ys, hys, hcuts⟩ := ih
    refine ⟨_, .cons [l.argument] hxs hys, fun n rest zs hn hzs => ?_⟩
    have hrest := hcut n _ _ (terminated_argumentText hwords) (hcuts n rest zs hn hzs)
    have houter := (readsFront_separator hwords hn).scansApart (by simp) hrest
    simpa [argumentText] using houter

/-- An offset is cut into its lexemes. -/
theorem OffsetText.exists_lexemes (hwords : l.SameWords .unitedStates) {w : WrittenCell}
    {o : OffsetSteps} (h : OffsetText l w o t) :
    ∃ xs, OffsetLexemes w o xs ∧ IsCut l (fun _ => True) t xs := by
  obtain @⟨cell, numbers, arguments, hcell, hnumbers, ho⟩ := h
  obtain ⟨xs, hxs, hcuts⟩ := exists_argumentLexemes hwords hnumbers
  refine ⟨_, .mk (offsetName ++ ['(']) cell [')'] hxs ho, fun n rest ys _ hys => ?_⟩
  have hin : (n.enter (.call n.braces)).inCall = true := by simp [Nesting.inCall, Nesting.enter]
  have hclose : ScansApart l (n.enter (.call n.braces)) (')' :: rest) (⟨.closeParen, [')']⟩ :: ys) :=
    (readsFront_closeParen hwords).scansApart (by simp) hys
  have hends : Scan.EndsReference (argumentText l arguments ++ ')' :: rest) :=
    (terminated_argumentText hwords).endsReference isPreset_unitedStates
  have hinner := (readsFront_cell hwords hcell hends).scansApart (by simp)
    (hcuts _ rest _ hin hclose)
  have houter := (readsFront_offset hwords).scansApart (by simp) hinner
  simpa using houter

end

end GridFormula
