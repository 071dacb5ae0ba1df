import GridFormula.Lexeme.Scan
import Mathlib.Tactic.Common

/-!
# What a scanned text consists of

A text without mistakes is cut into lexemes, each of which takes as much of the text as the
character at its front asks for. A lexeme has one of nine forms; all that has to be known about
the lexemes of a text follows from the form of each and from what stands behind it.
-/

namespace GridFormula

namespace Scan

/-- A text is cut into lexemes, inside what is open at its front. -/
inductive Scans (l : Locale) : Nesting → Text → List Lexeme → Prop where
  | nil {n} : Scans l n [] []
  | cons {n n' c s symbol rest xs} :
    front l n c s = .lexeme symbol rest n' → Scans l n' rest xs →
      Scans l n (c :: s) (⟨symbol, upTo (c :: s) rest⟩ :: xs)

/-- A lexeme at the front is the first piece. -/
lemma pieces_of_lexeme {l : Locale} {n n' : Nesting} {c : Char} {s rest : Text} {symbol : Symbol}
    (h : front l n c s = .lexeme symbol rest n') (position : Nat) :
    pieces l n position (c :: s) = .ok ⟨symbol, upTo (c :: s) rest⟩ ::
      pieces l n' (position + Text.byteSize (upTo (c :: s) rest)) rest := by
  rw [pieces]
  split
  · next h' _ =>
    cases h.symm.trans h'
    rw [h]
    rfl
  · next h' _ => cases h.symm.trans h'

/-- A mistake at the front is the first piece. -/
lemma pieces_of_mistake {l : Locale} {n : Nesting} {c : Char} {s rest : Text} {fault : ScanFault}
    (h : front l n c s = .mistake fault rest) (position : Nat) :
    pieces l n position (c :: s) = .error ⟨fault, position⟩ ::
      pieces l n (position + Text.byteSize (upTo (c :: s) rest)) rest := by
  rw [pieces]
  split
  · next h' _ => cases h.symm.trans h'
  · next h' _ =>
    cases h.symm.trans h'
    rw [h]
    rfl

/-- Pieces without mistakes are a scan. -/
lemma scans_of_pieces {l : Locale} {n : Nesting} {position : Nat} {s : Text}
    (h : mistakesOf (pieces l n position s) = []) :
    Scans l n s (lexemesOf (pieces l n position s)) := by
  induction hlen : s.length using Nat.strongRecOn generalizing n position s with
  | ind k ih =>
    cases s with
    | nil =>
      rw [pieces]
      exact .nil
    | cons c s =>
      have hle := length_front_le l n c s
      cases hfront : front l n c s with
      | lexeme symbol rest n' =>
        rw [hfront, Front.rest] at hle
        rw [pieces_of_lexeme hfront] at h ⊢
        refine .cons hfront (ih rest.length ?_ h rfl)
        rw [← hlen, List.length_cons]
        omega
      | mistake fault rest =>
        rw [pieces_of_mistake hfront] at h
        cases h

/-- A scan has no mistakes, and its lexemes are the pieces. -/
lemma mistakesOf_pieces_of_scans {l : Locale} {n : Nesting} {s : Text} {xs : List Lexeme}
    (h : Scans l n s xs) (position : Nat) :
    mistakesOf (pieces l n position s) = [] ∧ lexemesOf (pieces l n position s) = xs := by
  induction h generalizing position with
  | nil =>
    rw [pieces]
    exact ⟨rfl, rfl⟩
  | @cons n n' c s symbol rest xs hfront _ ih =>
    obtain ⟨hmistakes, hlexemes⟩ := ih (position + Text.byteSize (upTo (c :: s) rest))
    rw [pieces_of_lexeme hfront]
    exact ⟨hmistakes, congrArg (List.cons _) hlexemes⟩

/-- The scan of a text has no mistakes if the text is cut into lexemes, and then has these. -/
theorem scan_eq_ok_iff {l : Locale} {s : Text} {xs : List Lexeme} :
    scan l s = .ok xs ↔ Scans l .empty s xs := by
  unfold scan
  constructor
  · intro h
    dsimp only at h
    split at h
    · next hm =>
      cases h
      exact scans_of_pieces hm
    · cases h
  · intro h
    obtain ⟨hm, hx⟩ := mistakesOf_pieces_of_scans h 0
    simp only [hm, hx]

/-! ## The forms of a lexeme -/

/-- The forms of a lexeme that starts with `c` and goes on in `s`. -/
inductive Starts (l : Locale) (n : Nesting) (c : Char) (s : Text) :
    Symbol → Text → Nesting → Prop where
  | blank : l.isBlank c = true → Starts l n c s .blank (s.dropWhile l.isBlank) n
  | string {content rest} :
    c = '"' → Text.unquoted? '"' s = some (content, rest) → Starts l n c s (.string content) rest n
  | errorValue {e rest} :
    c = '#' → errorValue? l.errorNames ('#' :: s) = some (e, rest) →
      Starts l n c s (.errorValue e) rest n
  | bracket {symbol n'} : bracket? n c = some (symbol, n') → Starts l n c s symbol s n'
  | separator {symbol} : separator? l n c = some symbol → Starts l n c s symbol s n
  | number {symbol rest} :
    numberFront? l c s = some (symbol, rest) → Starts l n c s symbol rest n
  | operator {symbol rest} :
    operatorFront? c s = some (symbol, rest) → Starts l n c s symbol rest n
  | reference {symbol rest} :
    referenceFront (c :: s) = .present symbol rest → Starts l n c s symbol rest n
  | name {symbol rest n'} :
    startsName c = true → referenceFront (c :: s) = .absent →
      nameFront l n c s = .lexeme symbol rest n' → Starts l n c s symbol rest n'

/-- What stands at the front of a text has one of the forms. -/
lemma starts_of_front {l : Locale} {n n' : Nesting} {c : Char} {s rest : Text} {symbol : Symbol}
    (h : front l n c s = .lexeme symbol rest n') : Starts l n c s symbol rest n' := by
  -- The forms are tried one after the other, and the form is that of the first one that is there.
  unfold front at h
  split at h
  · next hc =>
    cases h
    exact .blank hc
  split at h
  · next hc =>
    unfold stringFront at h
    split at h
    · next hu =>
      cases h
      exact .string hc hu
    · cases h
  split at h
  · next hc =>
    unfold errorFront at h
    split at h
    · next he =>
      cases h
      exact .errorValue hc he
    · cases h
  split at h
  · next hb =>
    cases h
    exact .bracket hb
  · next hs =>
    cases h
    exact .separator hs
  · unfold plainFront at h
    split at h
    · next hp =>
      cases h
      rcases Option.or_eq_some_iff.mp hp with hp | ⟨-, hp⟩
      · exact .number hp
      · exact .operator hp
    · unfold wordFront at h
      split at h
      · split at h
        · next hr =>
          cases h
          exact .reference hr
        · cases h
        · next hr =>
          split at h
          · next hc => exact .name hc hr h
          · cases h
      · cases h

/-! ## The symbols of each form -/

/-- What is read as a bracket is one. -/
lemma symbol_of_bracket? {n n' : Nesting} {c : Char} {symbol : Symbol}
    (h : bracket? n c = some (symbol, n')) :
    symbol = .openParen ∨ symbol = .closeParen ∨ symbol = .openBrace ∨ symbol = .closeBrace := by
  unfold bracket? at h
  split at h <;> cases h <;> simp

/-- What is read as a separator is one. -/
lemma symbol_of_separator? {l : Locale} {n : Nesting} {c : Char} {symbol : Symbol}
    (h : separator? l n c = some symbol) :
    symbol = .argumentSeparator ∨ symbol = .columnSeparator ∨ symbol = .rowSeparator := by
  have harray : arraySeparator l c = .columnSeparator ∨ arraySeparator l c = .rowSeparator := by
    unfold arraySeparator
    split
    · exact Or.inr rfl
    · exact Or.inl rfl
  unfold separator? at h
  split at h
  · obtain rfl := Option.some.inj h
    split
    · exact Or.inr harray
    · exact Or.inl rfl
  · split at h
    · obtain rfl := Option.some.inj h
      exact Or.inr harray
    · cases h

/-- What is read as a run of lines is one. -/
lemma symbol_of_linesReference {axis : Axis} {sheet : Option Text} {s rest : Text}
    {symbol : Symbol} (h : linesReference axis sheet s = some (symbol, rest)) :
    ∃ a b, symbol = .lines axis a b := by
  unfold linesReference at h
  split at h
  · dsimp only at h
    split at h
    · split at h
      · cases h
      · cases h
        exact ⟨_, _, rfl⟩
    · cases h
  · cases h

/-- What is read as a cell is one. -/
lemma symbol_of_cellReference {sheet : Option Text} {s rest : Text} {symbol : Symbol}
    (h : cellReference sheet s = some (symbol, rest)) : ∃ w, symbol = .cell w := by
  unfold cellReference at h
  split at h
  · split at h
    · split at h
      · cases h
      · cases h
        exact ⟨_, rfl⟩
    · cases h
  · cases h

/-- What is read as a reference behind a sheet is a run of lines or a cell. -/
lemma symbol_of_bareReference {sheet : Option Text} {s rest : Text} {symbol : Symbol}
    (h : bareReference sheet s = some (symbol, rest)) :
    (∃ axis a b, symbol = .lines axis a b) ∨ ∃ w, symbol = .cell w := by
  simp only [bareReference, Option.or_eq_some_iff] at h
  rcases h with h | ⟨-, h | ⟨-, h⟩⟩
  · exact Or.inl ⟨_, symbol_of_linesReference h⟩
  · exact Or.inl ⟨_, symbol_of_linesReference h⟩
  · exact Or.inr (symbol_of_cellReference h)

/-- What is read as a reference is a run of lines or a cell. -/
lemma symbol_of_referenceFront {s rest : Text} {symbol : Symbol}
    (h : referenceFront s = .present symbol rest) :
    (∃ axis a b, symbol = .lines axis a b) ∨ ∃ w, symbol = .cell w := by
  unfold referenceFront at h
  split at h
  · split at h
    · next hb =>
      cases h
      exact symbol_of_bareReference hb
    · cases h
  · split at h
    · next hb =>
      cases h
      exact symbol_of_bareReference hb
    · cases h
  · cases h

/-- What starts like a number is a number or a run of rows. -/
lemma symbol_of_numberFront? {l : Locale} {c : Char} {s rest : Text} {symbol : Symbol}
    (h : numberFront? l c s = some (symbol, rest)) :
    (∃ a b, symbol = .lines .row a b) ∨ ∃ numeral, symbol = .number numeral := by
  unfold numberFront? at h
  dsimp only at h
  split at h
  · rcases Option.or_eq_some_iff.mp h with h | ⟨-, h⟩
    · exact Or.inl (symbol_of_linesReference h)
    · cases h
      exact Or.inr ⟨_, rfl⟩
  · split at h
    · cases h
      exact Or.inr ⟨_, rfl⟩
    · cases h

/-- What is read as an operator is one, a colon or a percent sign. -/
lemma symbol_of_operatorFront? {c : Char} {s rest : Text} {symbol : Symbol}
    (h : operatorFront? c s = some (symbol, rest)) :
    (symbol = .colon ∧ c = ':' ∧ rest = s) ∨ symbol = .percent ∨ ∃ op, symbol = .operator op := by
  unfold operatorFront? at h
  split at h
  · cases h
    exact Or.inl ⟨rfl, rfl, rfl⟩
  · cases h
    exact Or.inr (Or.inr ⟨_, rfl⟩)
  · cases h
    exact Or.inr (Or.inr ⟨_, rfl⟩)
  · cases h
    exact Or.inr (Or.inr ⟨_, rfl⟩)
  · cases h
    exact Or.inr (Or.inr ⟨_, rfl⟩)
  · cases h
    exact Or.inr (Or.inr ⟨_, rfl⟩)
  · cases h
    exact Or.inr (Or.inr ⟨_, rfl⟩)
  · cases h
    exact Or.inr (Or.inl rfl)
  · cases h
    exact Or.inr (Or.inr ⟨_, rfl⟩)
  · split at h <;> cases h <;> exact Or.inr (Or.inr ⟨_, rfl⟩)
  · split at h <;> cases h <;> exact Or.inr (Or.inr ⟨_, rfl⟩)
  · cases h

/-- What starts like a name is a name or opens a call. -/
lemma symbol_of_nameFront {l : Locale} {n n' : Nesting} {c : Char} {s rest : Text}
    {symbol : Symbol} (h : nameFront l n c s = .lexeme symbol rest n') :
    symbol = .name (c :: s.takeWhile continuesName) ∨ symbol = .offsetCall ∨
      ∃ function, symbol = .call function := by
  unfold nameFront at h
  dsimp only at h
  split at h
  · split at h
    · cases h
      exact Or.inr (Or.inl rfl)
    · cases h
      exact Or.inr (Or.inr ⟨_, rfl⟩)
  · cases h
    exact Or.inl rfl

/-- Only blanks make a blank, and they make one together. -/
lemma Starts.of_blank {l : Locale} {n n' : Nesting} {c : Char} {s rest : Text}
    (h : Starts l n c s .blank rest n') : l.isBlank c = true ∧ rest = s.dropWhile l.isBlank := by
  cases h with
  | blank hc => exact ⟨hc, rfl⟩
  | bracket h => rcases symbol_of_bracket? h with h | h | h | h <;> cases h
  | separator h => rcases symbol_of_separator? h with h | h | h <;> cases h
  | number h => rcases symbol_of_numberFront? h with ⟨_, _, h⟩ | ⟨_, h⟩ <;> cases h
  | operator h => rcases symbol_of_operatorFront? h with ⟨h, -⟩ | h | ⟨_, h⟩ <;> cases h
  | reference h => rcases symbol_of_referenceFront h with ⟨_, _, _, h⟩ | ⟨_, h⟩ <;> cases h
  | name _ _ h => rcases symbol_of_nameFront h with h | h | ⟨_, h⟩ <;> cases h

/-- A colon by itself is written as one. -/
lemma Starts.of_colon {l : Locale} {n n' : Nesting} {c : Char} {s rest : Text}
    (h : Starts l n c s .colon rest n') : c = ':' ∧ rest = s := by
  cases h with
  | bracket h => rcases symbol_of_bracket? h with h | h | h | h <;> cases h
  | separator h => rcases symbol_of_separator? h with h | h | h <;> cases h
  | number h => rcases symbol_of_numberFront? h with ⟨_, _, h⟩ | ⟨_, h⟩ <;> cases h
  | operator h =>
    rcases symbol_of_operatorFront? h with ⟨-, hc, hs⟩ | h | ⟨_, h⟩
    · exact ⟨hc, hs⟩
    · cases h
    · cases h
  | reference h => rcases symbol_of_referenceFront h with ⟨_, _, _, h⟩ | ⟨_, h⟩ <;> cases h
  | name _ _ h => rcases symbol_of_nameFront h with h | h | ⟨_, h⟩ <;> cases h

/-- Where the front of a text is no blank, the first lexeme is none either. -/
lemma Scans.head_not_blank {l : Locale} {n : Nesting} {s : Text} {x : Lexeme} {xs : List Lexeme}
    (h : Scans l n s (x :: xs)) (hs : ∀ c ∈ s.head?, l.isBlank c = false) :
    x.isBlank = false := by
  cases h with
  | @cons n n' c s symbol rest xs hfront _ =>
    unfold Lexeme.isBlank
    rw [decide_eq_false_iff_not]
    rintro rfl
    have hc := (starts_of_front hfront).of_blank.1
    rw [hs c rfl] at hc
    cases hc

/-- Dropping characters of a kind stops in front of one that is not of this kind. -/
lemma head_dropWhile (p : Char → Bool) (s : Text) : ∀ c ∈ (s.dropWhile p).head?, p c = false := by
  intro c hc
  have h := List.head?_dropWhile_not p s
  rw [Option.mem_def.mp hc] at h
  simpa using h

/-- Two blanks never follow each other. -/
theorem Scans.isChain_blank {l : Locale} {n : Nesting} {s : Text} {xs : List Lexeme}
    (h : Scans l n s xs) : xs.IsChain fun x y => x.isBlank = true → y.isBlank = false := by
  induction h with
  | nil => exact .nil
  | @cons n n' c s symbol rest xs hfront hrest ih =>
    cases xs with
    | nil => exact .singleton _
    | cons y ys =>
      refine List.IsChain.cons_cons ?_ ih
      intro hx
      obtain rfl : symbol = .blank := of_decide_eq_true hx
      obtain ⟨-, rfl⟩ := (starts_of_front hfront).of_blank
      exact hrest.head_not_blank (head_dropWhile _ _)

/-- A colon is written as one. -/
theorem Scans.image_colon {l : Locale} {n : Nesting} {s : Text} {xs : List Lexeme}
    (h : Scans l n s xs) : ∀ x ∈ xs, x.symbol = .colon → x.image = [':'] := by
  induction h with
  | nil => exact fun x hx => absurd hx List.not_mem_nil
  | @cons n n' c s symbol rest xs hfront _ ih =>
    refine List.forall_mem_cons.mpr ⟨?_, ih⟩
    rintro rfl
    obtain ⟨rfl, rfl⟩ := (starts_of_front hfront).of_colon
    exact upTo_append [':'] rest

end Scan

end GridFormula
