import GridFormula.Proofs.Lexeme.Spacing
import GridFormula.Proofs.Lexeme.Words

/-!
# How the lexemes of a text are written

The image of a lexeme is the part of the text that it was read from. For references it matters: one
that means nothing stays in the formula as it was written. Of a name it matters what follows it in
the text. A name may look like a cell only where a `$` follows directly, and there a reference
starts.
-/

namespace GridFormula

open Scan

/-- One or more blanks. -/
def AreBlanks (l : Locale) (blanks : Text) : Prop :=
  blanks ≠ [] ∧ ∀ c ∈ blanks, l.isBlank c = true

/-- How a symbol is written. -/
def Symbol.WrittenAs (l : Locale) (image : Text) : Symbol → Prop
  | .blank => AreBlanks l image
  | .number numeral => NumeralText numeral
  | .name word => NameText word
  | .call function =>
    ∃ word, NameText word ∧ function = l.canonicalName word ∧ function ≠ offsetName
  | .cell w => CellText w image
  | .lines axis a b => LinesText axis a b image
  | _ => True

/-- Whether the symbol is a reference. -/
def Symbol.isReference : Symbol → Bool
  | .cell _ | .lines .. => true
  | _ => false

/-- A name that looks like a cell is followed by a reference. -/
def NamesGuarded : List Lexeme → Prop
  | [] => True
  | x :: xs =>
    (∀ name w, x.symbol = .name name → CellText w name →
      ∃ y ∈ xs.head?, y.symbol.isReference = true) ∧ NamesGuarded xs

namespace Scan

/-- A reference is written as a text of it. -/
lemma ReferenceText.writtenAs {l : Locale} {symbol : Symbol} {t : Text}
    (h : ReferenceText symbol t) : symbol.WrittenAs l t := by
  cases h with
  | cell h => exact h
  | lines h => exact h

/-- What is read as a number is written as what is read. -/
lemma writtenAs_of_numberFront? {l : Locale} {c : Char} {s rest : Text} {symbol : Symbol}
    (h : numberFront? l c s = some (symbol, rest)) :
    symbol.WrittenAs l (upTo (c :: s) rest) := by
  rcases symbol_of_numberFront? h with ⟨a, b, rfl⟩ | ⟨numeral, rfl⟩
  · unfold numberFront? at h
    dsimp only at h
    split at h
    · rcases Option.or_eq_some_iff.mp h with h | ⟨-, h⟩
      · obtain ⟨a', b', t, hsymbol, ht, hs⟩ := linesText_of_linesReference .absent h
        cases hsymbol
        rw [List.nil_append] at hs
        rw [hs, upTo_append]
        exact ht
      · cases h
    · split at h <;> cases h
  · exact numeralText_of_numberFront? h

/-- What is read as a name or as a function is written as such. -/
lemma writtenAs_of_nameFront {l : Locale} {n n' : Nesting} {c : Char} {s rest image : Text}
    {symbol : Symbol} (hc : startsName c = true)
    (h : nameFront l n c s = .lexeme symbol rest n') : symbol.WrittenAs l image := by
  have hname : NameText (c :: s.takeWhile continuesName) :=
    .mk hc (Text.forall_mem_takeWhile _ _)
  unfold nameFront at h
  dsimp only at h
  split at h
  · split at h
    · cases h
      trivial
    · next hne =>
      cases h
      exact ⟨_, hname, rfl, hne⟩
  · cases h
    exact hname

/-- A lexeme is written as its symbol says. -/
lemma Starts.writtenAs {l : Locale} {n n' : Nesting} {c : Char} {s rest : Text} {symbol : Symbol}
    (h : Starts l n c s symbol rest n') : symbol.WrittenAs l (upTo (c :: s) rest) := by
  cases h with
  | blank hc =>
    have hs : c :: s = (c :: s.takeWhile l.isBlank) ++ s.dropWhile l.isBlank := by
      rw [List.cons_append, List.takeWhile_append_dropWhile]
    rw [hs, upTo_append]
    exact ⟨List.cons_ne_nil _ _, List.forall_mem_cons.mpr ⟨hc, Text.forall_mem_takeWhile _ _⟩⟩
  | string _ _ => trivial
  | errorValue _ _ => trivial
  | bracket h => rcases symbol_of_bracket? h with rfl | rfl | rfl | rfl <;> trivial
  | separator h => rcases symbol_of_separator? h with rfl | rfl | rfl <;> trivial
  | number h => exact writtenAs_of_numberFront? h
  | operator h => rcases symbol_of_operatorFront? h with ⟨rfl, -⟩ | rfl | ⟨_, rfl⟩ <;> trivial
  | reference h =>
    obtain ⟨t, ht, hs⟩ := referenceText_of_referenceFront h
    rw [hs, upTo_append]
    exact ht.writtenAs
  | name hc _ h => exact writtenAs_of_nameFront hc h

/-- The lexemes of a text are written as their symbols say. -/
theorem Scans.writtenAs {l : Locale} {n : Nesting} {s : Text} {xs : List Lexeme}
    (h : Scans l n s xs) : ∀ x ∈ xs, x.symbol.WrittenAs l x.image := by
  induction h with
  | nil => exact fun x hx => absurd hx List.not_mem_nil
  | cons hfront _ ih => exact List.forall_mem_cons.mpr ⟨(starts_of_front hfront).writtenAs, ih⟩

/-! ## What follows a name -/

/-- No character with a job in the locale is a `$`. -/
structure NoDollar (l : Locale) : Prop where
  blank : l.isBlank '$' = false
  decimal : l.decimal ≠ '$'
  separators : l.argument ≠ '$' ∧ l.arrayColumn ≠ '$' ∧ l.arrayRow ≠ '$'

/-- Only a reference starts with a `$`. -/
lemma Starts.of_dollar {l : Locale} {n n' : Nesting} {s rest : Text} {symbol : Symbol}
    (hl : NoDollar l) (h : Starts l n '$' s symbol rest n') : symbol.isReference = true := by
  cases h with
  | blank hc => cases hl.blank.symm.trans hc
  | string hc _ => cases hc
  | errorValue hc _ => cases hc
  | bracket h => cases h
  | separator h =>
    unfold separator? at h
    rw [if_neg hl.separators.1.symm, if_neg] at h
    · cases h
    · rintro ⟨-, hc | hc⟩
      · exact hl.separators.2.2 hc.symm
      · exact hl.separators.2.1 hc.symm
  | number h =>
    unfold numberFront? at h
    dsimp only at h
    rw [if_neg (by decide), if_neg (fun hc => hl.decimal hc.1.symm)] at h
    cases h
  | operator h => cases h
  | reference h =>
    rcases symbol_of_referenceFront h with ⟨_, _, _, rfl⟩ | ⟨_, rfl⟩ <;> rfl
  | name hc _ _ => cases startsName_dollar.symm.trans hc

/-- Behind the name of a sheet there is a reference, or it is a mistake. -/
lemma referenceFront_sheet_ne_absent {name p : Text} (h : SheetText (some name) p) (rest : Text) :
    referenceFront (p ++ rest) ≠ .absent := by
  rw [referenceFront, sheetFront_append h]
  dsimp only
  intro habsent
  split at habsent <;> cases habsent

/-- A name that looks like a cell is followed by a `$`. -/
lemma Starts.dollar_of_cellText {l : Locale} {n n' : Nesting} {c : Char} {s rest name : Text}
    {w : WrittenCell} (h : Starts l n c s (.name name) rest n') (hw : CellText w name) :
    ∃ rest', rest = '$' :: rest' := by
  cases h with
  | bracket h => rcases symbol_of_bracket? h with h | h | h | h <;> cases h
  | separator h => rcases symbol_of_separator? h with h | h | h <;> cases h
  | number h => rcases symbol_of_numberFront? h with ⟨_, _, h⟩ | ⟨_, h⟩ <;> cases h
  | operator h => rcases symbol_of_operatorFront? h with ⟨h, -⟩ | h | ⟨_, h⟩ <;> cases h
  | reference h => rcases symbol_of_referenceFront h with ⟨_, _, _, h⟩ | ⟨_, h⟩ <;> cases h
  | name hc habsent h =>
    -- The name goes on as far as it can. With anything but a `$` behind it, the scan would have
    -- found the cell.
    unfold nameFront at h
    dsimp only at h
    have hs : c :: s = (c :: s.takeWhile continuesName) ++ s.dropWhile continuesName := by
      rw [List.cons_append, List.takeWhile_append_dropWhile]
    split at h
    · split at h <;> cases h
    · next hparen =>
      cases h
      have hstops := Text.stopsAt_dropWhile continuesName s
      cases hdrop : s.dropWhile continuesName with
      | nil =>
        have hpresent := referenceFront_cell hw endsReference_nil
        rw [hdrop] at hs
        rw [hs] at habsent
        cases hpresent.symm.trans habsent
      | cons d rest =>
        rw [hdrop] at hs hstops
        by_cases hd : d = '$'
        · subst hd
          exact ⟨rest, rfl⟩
        · have hnoMark : d ≠ '!' := by
            rintro rfl
            exact referenceFront_sheet_ne_absent
              (.plain hc (Text.forall_mem_takeWhile _ _)) rest (by simpa using hs ▸ habsent)
          have hruns : runsOn (d :: rest) = false := by
            have hparen : d ≠ '(' := by
              rintro rfl
              exact hparen rest hdrop
            have hcontinues := hstops d rfl
            unfold runsOn
            grind
          have hends : EndsReference (d :: rest) := ⟨hruns, by simpa using hnoMark⟩
          have hpresent := referenceFront_cell hw hends
          rw [hs] at habsent
          cases hpresent.symm.trans habsent

/-- No name that is scanned looks like a cell, unless a reference follows. -/
theorem Scans.namesGuarded {l : Locale} {n : Nesting} {s : Text} {xs : List Lexeme}
    (hl : NoDollar l) (h : Scans l n s xs) : NamesGuarded xs := by
  induction h with
  | nil => trivial
  | @cons n n' c s symbol rest xs hfront hrest ih =>
    refine ⟨?_, ih⟩
    rintro name w rfl hw
    obtain ⟨rest', rfl⟩ := (starts_of_front hfront).dollar_of_cellText hw
    cases hrest with
    | cons hnext _ => exact ⟨_, rfl, (starts_of_front hnext).of_dollar hl⟩

end Scan

/-! ## With the blanks in front -/

/-- A lexeme is written as its symbol says, and blanks stand in front of it. -/
def Spaced.IsWritten (l : Locale) (x : Spaced) : Prop :=
  (∀ blanks ∈ x.lead, AreBlanks l blanks) ∧ x.symbol.WrittenAs l x.image

/-- A name that looks like a cell has a reference directly behind it. -/
def Guarded : List Spaced → Prop
  | [] => True
  | x :: xs =>
    (∀ word w, x.symbol = .name word → CellText w word →
      ∃ y ∈ xs.head?, y.lead = none ∧ y.symbol.isReference = true) ∧ Guarded xs

/-- Dropping idle blanks leaves the others in their order. -/
lemma dropIdleBlanks_sublist (before : Option Lexeme) (xs : List Lexeme) :
    (dropIdleBlanks before xs).Sublist xs := by
  induction xs generalizing before with
  | nil => exact .slnil
  | cons x xs ih =>
    rw [dropIdleBlanks]
    split
    · exact (ih _).cons x
    · exact (ih _).cons_cons x

/-- A reference is no blank. -/
lemma isBlank_of_isReference {x : Lexeme} (h : x.symbol.isReference = true) :
    x.isBlank = false := by
  unfold Lexeme.isBlank
  rw [decide_eq_false_iff_not]
  intro hblank
  rw [hblank] at h
  cases h

/-- Dropping idle blanks keeps names guarded. -/
lemma NamesGuarded.dropIdleBlanks {xs : List Lexeme} (h : NamesGuarded xs)
    (before : Option Lexeme) : NamesGuarded (dropIdleBlanks before xs) := by
  induction xs generalizing before with
  | nil => trivial
  | cons x xs ih =>
    rw [GridFormula.dropIdleBlanks]
    split
    · exact ih h.2 _
    · refine ⟨fun word w hx hw => ?_, ih h.2 _⟩
      obtain ⟨y, hy, href⟩ := h.1 word w hx hw
      cases xs with
      | nil => cases hy
      | cons y xs =>
        cases hy
        rw [GridFormula.dropIdleBlanks, isBlank_of_isReference href, Bool.false_and,
          if_neg Bool.false_ne_true]
        exact ⟨y, rfl, href⟩

/-- Attaching blanks to the lexemes behind them keeps names guarded. -/
lemma NamesGuarded.attach {xs : List Lexeme} (h : NamesGuarded xs) (afterColon : Bool)
    (pending : Option Text) : Guarded (attach afterColon pending xs) := by
  induction xs generalizing afterColon pending with
  | nil => trivial
  | cons x xs ih =>
    rw [GridFormula.attach]
    split
    · exact ih h.2 _ _
    · refine ⟨fun word w hx hw => ?_, ih h.2 _ _⟩
      obtain ⟨y, hy, href⟩ := h.1 word w hx hw
      cases xs with
      | nil => cases hy
      | cons y xs =>
        cases hy
        rw [GridFormula.attach, if_neg (by rw [isBlank_of_isReference href]; decide)]
        exact ⟨_, rfl, ite_self none, href⟩

/-- Attaching blanks to the lexemes behind them keeps lexemes written as they should be. -/
lemma isWritten_attach {l : Locale} {xs : List Lexeme} (h : ∀ x ∈ xs, x.symbol.WrittenAs l x.image)
    (afterColon : Bool) {pending : Option Text} (hpending : ∀ blanks ∈ pending, AreBlanks l blanks) :
    ∀ y ∈ attach afterColon pending xs, y.IsWritten l := by
  -- The blanks that wait for a lexeme are blanks of the locale; this is kept at each step.
  induction xs generalizing afterColon pending with
  | nil => exact fun y hy => absurd hy List.not_mem_nil
  | cons x xs ih =>
    obtain ⟨hx, hxs⟩ := List.forall_mem_cons.mp h
    rw [attach]
    split
    · next hblank =>
      refine ih hxs _ ?_
      intro blanks hblanks
      cases hblanks
      rw [of_decide_eq_true hblank] at hx
      refine ⟨fun hnil => hx.1 (List.append_eq_nil_iff.mp hnil).2, ?_⟩
      intro c hc
      rcases List.mem_append.mp hc with hc | hc
      · cases hp : pending with
        | none =>
          rw [hp] at hc
          cases hc
        | some blanks =>
          rw [hp] at hc
          exact (hpending blanks hp).2 c hc
      · exact hx.2 c hc
    · refine List.forall_mem_cons.mpr ⟨⟨?_, hx⟩, ih hxs _ fun blanks hblanks => ?_⟩
      intro blanks hblanks
      dsimp only at hblanks
      split at hblanks
      · cases hblanks
      · exact hpending blanks hblanks
      · cases hblanks

/-- The lexemes of a text are written as they are said to be, also in view of what follows. -/
theorem isWritten_spaced {l : Locale} {s : Text} {xs : List Lexeme} (hl : NoDollar l)
    (h : lex l s = .ok xs) : (∀ y ∈ spaced xs, y.IsWritten l) ∧ Guarded (spaced xs) := by
  unfold lex at h
  cases hscan : scan l s with
  | error m =>
    rw [hscan] at h
    cases h
  | ok ys =>
    rw [hscan] at h
    cases h
    have hscans := Scan.scan_eq_ok_iff.mp hscan
    refine ⟨isWritten_attach (fun x hx => hscans.writtenAs x ?_) false nofun, ?_⟩
    · exact (dropIdleBlanks_sublist none ys).subset hx
    · exact ((hscans.namesGuarded hl).dropIdleBlanks none).attach false none

end GridFormula
