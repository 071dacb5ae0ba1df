import GridFormula.Lexeme.Reference
import GridFormula.Locale.Basic

/-!
# From text to lexemes

A formula is cut into lexemes from left to right. What a character at the front starts depends on
the locale and, for separators, on what is open at that place: a character that separates both
arguments and the parts of an array separates arguments directly inside a call, and parts of an
array elsewhere between braces. A place where no lexeme starts is a mistake; scanning goes on
behind it, so that all mistakes of a text are found together.
-/

namespace GridFormula

/-- What an open parenthesis belongs to. -/
inductive Group where
  /-- A call, opened inside as many pairs of braces. -/
  | call (braces : Nat)
  | plain
deriving DecidableEq, Repr

/-- What is open at a place in a formula. -/
structure Nesting where
  /-- The number of open braces. -/
  braces : Nat
  /-- The open parentheses, innermost first. -/
  groups : List Group
deriving DecidableEq, Repr

namespace Nesting

/-- Nothing is open. -/
def empty : Nesting := ⟨0, []⟩

/-- Opens a parenthesis. -/
def enter (n : Nesting) (g : Group) : Nesting :=
  { n with groups := g :: n.groups }

/-- Closes a parenthesis, if one is open. -/
def leave (n : Nesting) : Nesting :=
  { n with groups := n.groups.tail }

/-- Opens a brace. -/
def enterBrace (n : Nesting) : Nesting :=
  { n with braces := n.braces + 1 }

/-- Closes a brace, if one is open. -/
def leaveBrace (n : Nesting) : Nesting :=
  { n with braces := n.braces - 1 }

/-- Whether the innermost parenthesis is that of a call, with no brace opened since. -/
def inCall (n : Nesting) : Bool :=
  n.groups.head? = some (.call n.braces)

end Nesting

/-- A place where no lexeme starts. -/
structure Mistake where
  fault : ScanFault
  /-- The number of bytes in front of the place. -/
  position : Nat
deriving DecidableEq, Repr

/-- The text that reports a mistake. -/
def Mistake.message (m : Mistake) : Text :=
  let position := " at position ".toList ++ Text.ofNat m.position
  match m.fault with
  | .unterminatedString => "Unterminated string literal".toList ++ position
  | .unknownErrorValue => "Unknown error literal".toList ++ position
  | .unterminatedSheetName => "Unterminated quoted sheet name".toList ++ position
  | .missingMark => "Quoted sheet name".toList ++ position ++ " must be followed by `!`".toList
  | .missingReference => "Expected a reference after the sheet name".toList ++ position
  | .unexpected c => "Unexpected character `".toList ++ c :: '`' :: position

namespace Scan

/-! ## Numbers -/

/-- Reads the decimal separator and the digits behind it, if both are there; a point is written for
the separator. -/
def fraction (decimal : Char) : Text → Text × Text
  | c :: d :: s =>
    if c = decimal ∧ d.isDigit then
      ('.' :: d :: s.takeWhile Char.isDigit, s.dropWhile Char.isDigit)
    else ([], c :: d :: s)
  | s => ([], s)

/-- Takes the sign of an exponent off the front. -/
def exponentSign : Text → Text × Text
  | '+' :: s => (['+'], s)
  | '-' :: s => (['-'], s)
  | s => ([], s)

/-- Reads an exponent, if it has digits. -/
def exponent : Text → Text × Text
  | [] => ([], [])
  | c :: s =>
    let (sign, digits) := exponentSign s
    if (c = 'E' ∨ c = 'e') ∧ digits.takeWhile Char.isDigit ≠ [] then
      ('E' :: (sign ++ digits.takeWhile Char.isDigit), digits.dropWhile Char.isDigit)
    else ([], c :: s)

/-- Reads a number: digits, a fraction and an exponent. -/
def number (decimal : Char) (s : Text) : Text × Text :=
  let (fraction, rest) := fraction decimal (s.dropWhile Char.isDigit)
  let (exponent, rest) := exponent rest
  (s.takeWhile Char.isDigit ++ fraction ++ exponent, rest)

/-! ## Error values -/

/-- Reads the name of one error value, in any case. -/
def errorName? (entry : Text × ErrorValue) (s : Text) : Option (ErrorValue × Text) :=
  let (taken, rest) := Text.splitAtByte (Text.byteSize entry.1) s
  if taken ≠ [] ∧ Text.byteSize taken = Text.byteSize entry.1 ∧ Text.upper taken = entry.1 then
    some (entry.2, rest)
  else none

/-- The reading that leaves less, or of two that leave as much the second one. -/
def longer (a b : Option (ErrorValue × Text)) : Option (ErrorValue × Text) :=
  match a, b with
  | some (d, s), some (e, t) => if s.length < t.length then some (d, s) else some (e, t)
  | a, none => a
  | none, b => b

/-- Reads the longest name of an error value that the text starts with. -/
def errorValue? (names : List (Text × ErrorValue)) (s : Text) : Option (ErrorValue × Text) :=
  names.foldl (fun found entry => longer found (errorName? entry s)) none

/-! ## One lexeme -/

/-- What stands at the front of a text: a lexeme or a mistake, what is left behind it, and what is
open there. -/
inductive Front where
  | lexeme (symbol : Symbol) (rest : Text) (inside : Nesting)
  | mistake (fault : ScanFault) (rest : Text)
deriving DecidableEq, Repr

/-- What is left behind the front of a text. -/
def Front.rest : Front → Text
  | lexeme _ rest _ => rest
  | mistake _ rest => rest

/-- A text between double quotes, behind the first of them. -/
def stringFront (n : Nesting) (s : Text) : Front :=
  match Text.unquoted? '"' s with
  | some (content, rest) => .lexeme (.string content) rest n
  | none => .mistake .unterminatedString []

/-- The name of an error value, which starts with `#`. -/
def errorFront (l : Locale) (n : Nesting) (s : Text) : Front :=
  match errorValue? l.errorNames ('#' :: s) with
  | some (e, rest) => .lexeme (.errorValue e) rest n
  | none => .mistake .unknownErrorValue s

/-- A bracket, and what is open behind it. -/
def bracket? (n : Nesting) : Char → Option (Symbol × Nesting)
  | '(' => some (.openParen, n.enter .plain)
  | ')' => some (.closeParen, n.leave)
  | '{' => some (.openBrace, n.enterBrace)
  | '}' => some (.closeBrace, n.leaveBrace)
  | _ => none

/-- What the separator of array parts `c` separates. -/
def arraySeparator (l : Locale) (c : Char) : Symbol :=
  if c = l.arrayRow then .rowSeparator else .columnSeparator

/-- What a character separates, if it is a separator where it stands. -/
def separator? (l : Locale) (n : Nesting) (c : Char) : Option Symbol :=
  if c = l.argument then
    some (if 0 < n.braces ∧ !n.inCall then arraySeparator l c else .argumentSeparator)
  else if 0 < n.braces ∧ (c = l.arrayRow ∨ c = l.arrayColumn) then some (arraySeparator l c)
  else none

/-- A number or a run of rows, which start with a digit, or a number that starts with the decimal
separator. -/
def numberFront? (l : Locale) (c : Char) (s : Text) : Option (Symbol × Text) :=
  let numeral := number l.decimal (c :: s)
  if c.isDigit then
    (linesReference .row none (c :: s)).or (some (.number numeral.1, numeral.2))
  else if c = l.decimal ∧ s.head?.any Char.isDigit then some (.number numeral.1, numeral.2)
  else none

/-- An operator, a colon or a percent sign. The comparisons may take two characters. -/
def operatorFront? (c : Char) (s : Text) : Option (Symbol × Text) :=
  match c with
  | ':' => some (.colon, s)
  | '+' => some (.operator .plus, s)
  | '-' => some (.operator .minus, s)
  | '*' => some (.operator .times, s)
  | '/' => some (.operator .divide, s)
  | '^' => some (.operator .power, s)
  | '&' => some (.operator .concat, s)
  | '%' => some (.percent, s)
  | '=' => some (.operator .equal, s)
  | '<' =>
    match s with
    | '=' :: rest => some (.operator .atMost, rest)
    | '>' :: rest => some (.operator .notEqual, rest)
    | rest => some (.operator .less, rest)
  | '>' =>
    match s with
    | '=' :: rest => some (.operator .atLeast, rest)
    | rest => some (.operator .greater, rest)
  | _ => none

/-- Reads the name that starts with `c`, or the function if a parenthesis follows. -/
def nameFront (l : Locale) (n : Nesting) (c : Char) (s : Text) : Front :=
  let name := c :: s.takeWhile continuesName
  match s.dropWhile continuesName with
  | '(' :: rest =>
    let function := l.canonicalName name
    .lexeme (if function = offsetName then .offsetCall else .call function) rest
      (n.enter (.call n.braces))
  | rest => .lexeme (.name name) rest n

/-- A reference, or a name or function that is none. -/
def wordFront (l : Locale) (n : Nesting) (c : Char) (s : Text) : Front :=
  if c = '$' ∨ c = '\'' ∨ startsName c then
    match referenceFront (c :: s) with
    | .present symbol rest => .lexeme symbol rest n
    | .broken fault rest => .mistake fault rest
    | .absent => if startsName c then nameFront l n c s else .mistake (.unexpected c) s
  else .mistake (.unexpected c) s

/-- What stands at the front of the text `c :: s`, where the character has no job by itself. -/
def plainFront (l : Locale) (n : Nesting) (c : Char) (s : Text) : Front :=
  match (numberFront? l c s).or (operatorFront? c s) with
  | some (symbol, rest) => .lexeme symbol rest n
  | none => wordFront l n c s

/-- What stands at the front of the text `c :: s`. -/
def front (l : Locale) (n : Nesting) (c : Char) (s : Text) : Front :=
  if l.isBlank c then .lexeme .blank (s.dropWhile l.isBlank) n
  else if c = '"' then stringFront n s
  else if c = '#' then errorFront l n s
  else
    match bracket? n c, separator? l n c with
    | some (symbol, inside), _ => .lexeme symbol s inside
    | none, some symbol => .lexeme symbol s n
    | none, none => plainFront l n c s

/-! ## What is left is shorter -/

/-- Reading a fraction does not make the text longer. -/
theorem length_fraction_le (decimal : Char) (s : Text) :
    (fraction decimal s).2.length ≤ s.length := by
  unfold fraction
  split
  · next c d s =>
    split
    · have := length_dropWhile_le Char.isDigit s
      simp only [List.length_cons]; omega
    · exact Nat.le_refl _
  · exact Nat.le_refl _

/-- Reading the sign of an exponent does not make the text longer. -/
theorem length_exponentSign_le (s : Text) : (exponentSign s).2.length ≤ s.length := by
  unfold exponentSign
  split <;> simp

/-- Reading an exponent does not make the text longer. -/
theorem length_exponent_le (s : Text) : (exponent s).2.length ≤ s.length := by
  unfold exponent
  split
  · simp
  · next c s =>
    have h₁ := length_exponentSign_le s
    simp only
    split
    · have := length_dropWhile_le Char.isDigit (exponentSign s).2
      simp only [List.length_cons]; omega
    · simp

/-- Reading a number takes at least its digits and its fraction. -/
theorem length_number_le (decimal : Char) (s : Text) :
    (number decimal s).2.length ≤ (fraction decimal (s.dropWhile Char.isDigit)).2.length :=
  length_exponent_le _

/-- Reading the name of an error value makes the text shorter. -/
theorem length_lt_of_errorName? {entry : Text × ErrorValue} {e : ErrorValue} {s rest : Text}
    (h : errorName? entry s = some (e, rest)) : rest.length < s.length := by
  simp only [errorName?] at h
  split at h
  · next hc =>
    have hs := congrArg List.length (Text.splitAtByte_append (Text.byteSize entry.1) s)
    have hp := List.length_pos_iff.2 hc.1
    simp only [Option.some.injEq, Prod.mk.injEq] at h
    rw [List.length_append] at hs
    rw [← h.2]
    omega
  · simp at h

/-- Reading an error value makes the text shorter. -/
theorem length_lt_of_errorValue? {names : List (Text × ErrorValue)} {e : ErrorValue}
    {s rest : Text} (h : errorValue? names s = some (e, rest)) : rest.length < s.length := by
  -- Every reading that the fold holds on to leaves less than `s`.
  suffices hfold : ∀ (names : List (Text × ErrorValue)) (found : Option (ErrorValue × Text)),
      (∀ x ∈ found, x.2.length < s.length) →
      ∀ x ∈ names.foldl (fun found entry => longer found (errorName? entry s)) found,
        x.2.length < s.length from
    hfold names none (by simp) (e, rest) h
  intro names
  induction names with
  | nil => intro found hf; simpa using hf
  | cons entry names ih =>
    intro found hf
    simp only [List.foldl_cons]
    apply ih
    intro x hx
    have hentry : ∀ y ∈ errorName? entry s, y.2.length < s.length := fun _ hy =>
      length_lt_of_errorName? hy
    unfold longer at hx
    split at hx
    · next hd =>
      split at hx <;> cases hx
      · exact hf _ (by simp)
      · exact hentry _ (by simp [hd])
    · exact hf x hx
    · exact hentry x hx

/-- Behind the opening quote, reading a text does not make what is left longer. -/
theorem length_stringFront_le (n : Nesting) (s : Text) :
    (stringFront n s).rest.length ≤ s.length := by
  unfold stringFront
  split
  · next h => exact Nat.le_of_lt (Text.length_lt_of_unquoted? h)
  · exact Nat.zero_le _

/-- Behind the number sign, reading an error value does not make what is left longer. -/
theorem length_errorFront_le (l : Locale) (n : Nesting) (s : Text) :
    (errorFront l n s).rest.length ≤ s.length := by
  unfold errorFront
  split
  · next h => exact Nat.le_of_lt_succ (length_lt_of_errorValue? h)
  · exact Nat.le_refl _

/-- Behind the first character, reading a number does not make what is left longer. -/
theorem length_numberFront?_le {l : Locale} {c : Char} {s rest : Text} {symbol : Symbol}
    (h : numberFront? l c s = some (symbol, rest)) : rest.length ≤ s.length := by
  simp only [numberFront?] at h
  split at h
  · next hd =>
    rcases Option.or_eq_some_iff.1 h with h | ⟨_, h⟩
    · exact Nat.le_of_lt_succ (length_lt_of_linesReference h)
    · cases h
      refine Nat.le_trans (length_number_le _ _) (Nat.le_trans (length_fraction_le _ _) ?_)
      simp only [List.dropWhile_cons, hd, if_true]
      exact length_dropWhile_le _ _
  · next hnd =>
    split at h
    · next hd =>
      cases h
      cases s with
      | nil => simp at hd
      | cons d s =>
        obtain ⟨hc, hd⟩ := hd
        simp only [List.head?_cons, Option.any_some] at hd
        refine Nat.le_trans (length_number_le _ _) ?_
        rw [List.dropWhile_cons_of_neg hnd]
        have := length_dropWhile_le Char.isDigit s
        simp only [fraction, hc, hd, and_self, if_true, List.length_cons]
        omega
    · simp at h

/-- Behind the first character, reading an operator does not make what is left longer. -/
theorem length_operatorFront?_le {c : Char} {s rest : Text} {symbol : Symbol}
    (h : operatorFront? c s = some (symbol, rest)) : rest.length ≤ s.length := by
  unfold operatorFront? at h
  split at h
  all_goals first | (cases h; exact Nat.le_refl _) | skip
  · split at h <;> cases h <;> simp
  · split at h <;> cases h <;> simp
  · simp at h

/-- Behind the first character, reading a name does not make what is left longer. -/
theorem length_nameFront_le (l : Locale) (n : Nesting) (c : Char) (s : Text) :
    (nameFront l n c s).rest.length ≤ s.length := by
  have h := length_dropWhile_le continuesName s
  simp only [nameFront]
  split
  · next hd => rw [hd] at h; simp only [List.length_cons, Front.rest] at *; omega
  · exact h

/-- Behind the first character, reading a word does not make what is left longer. -/
theorem length_wordFront_le (l : Locale) (n : Nesting) (c : Char) (s : Text) :
    (wordFront l n c s).rest.length ≤ s.length := by
  unfold wordFront
  split
  · split
    · next h => exact Nat.le_of_lt_succ (length_lt_of_referenceFront h)
    · next h => exact Nat.le_of_lt_succ (length_lt_of_broken_referenceFront h)
    · split
      · exact length_nameFront_le l n c s
      · exact Nat.le_refl _
  · exact Nat.le_refl _

/-- Behind the first character, reading what is no text and no error value does not make what is
left longer. -/
theorem length_plainFront_le (l : Locale) (n : Nesting) (c : Char) (s : Text) :
    (plainFront l n c s).rest.length ≤ s.length := by
  unfold plainFront
  split
  · next h =>
    rcases Option.or_eq_some_iff.1 h with h | ⟨_, h⟩
    · exact length_numberFront?_le h
    · exact length_operatorFront?_le h
  · exact length_wordFront_le l n c s

/-- Every lexeme takes at least one character, and so does every mistake. -/
theorem length_front_le (l : Locale) (n : Nesting) (c : Char) (s : Text) :
    (front l n c s).rest.length ≤ s.length := by
  unfold front
  split
  · exact length_dropWhile_le _ _
  split
  · exact length_stringFront_le n s
  split
  · exact length_errorFront_le l n s
  split
  · exact Nat.le_refl _
  · exact Nat.le_refl _
  · exact length_plainFront_le l n c s

/-! ## All lexemes -/

/-- The start of `s` that is followed by `rest`. -/
def upTo (s rest : Text) : Text :=
  s.take (s.length - rest.length)

/-- What stands in front of the rest is the first part. -/
@[simp] theorem upTo_append (s rest : Text) : upTo (s ++ rest) rest = s := by
  simp [upTo]

/-- Scans a text with `position` bytes in front of it, inside what is open. -/
def pieces (l : Locale) (n : Nesting) (position : Nat) : Text → List (Except Mistake Lexeme)
  | [] => []
  | c :: s =>
    let next := front l n c s
    have _hlt : next.rest.length < (c :: s).length :=
      Nat.lt_succ_of_le (length_front_le l n c s)
    let image := upTo (c :: s) next.rest
    match next with
    | .lexeme symbol rest n =>
      .ok ⟨symbol, image⟩ :: pieces l n (position + Text.byteSize image) rest
    | .mistake fault rest =>
      .error ⟨fault, position⟩ :: pieces l n (position + Text.byteSize image) rest
termination_by s => s.length
decreasing_by all_goals exact _hlt

end Scan

/-- The mistakes among the pieces of a text. -/
def mistakesOf (pieces : List (Except Mistake Lexeme)) : List Mistake :=
  pieces.filterMap fun piece =>
    match piece with
    | .error m => some m
    | .ok _ => none

/-- The lexemes among the pieces of a text. -/
def lexemesOf (pieces : List (Except Mistake Lexeme)) : List Lexeme :=
  pieces.filterMap Except.toOption

/-- All lexemes of a text in their order, blanks included, or all its mistakes if there are any. -/
def scan (l : Locale) (s : Text) : Except (List Mistake) (List Lexeme) :=
  let pieces := Scan.pieces l .empty 0 s
  match mistakesOf pieces with
  | [] => .ok (lexemesOf pieces)
  | mistakes => .error mistakes

end GridFormula
