import GridFormula.Lexeme.Scan

/-!
# Blanks between lexemes

Some blanks say nothing and are left out: those at the end, those on either side of the colon
between two cells, and those in front of an argument separator. Directly behind another argument
separator they stay, because there they belong to an omitted argument. Every blank that is left is
then attached to the lexeme behind it. Where that lexeme has no place for a blank of its own
(next to a colon, and in front of a separator of array parts) it is dropped.
-/

namespace GridFormula

/-- Whether the lexeme can stand next to the colon of an area of cells. -/
def Lexeme.isAreaPart (x : Lexeme) : Bool :=
  match x.symbol with
  | .cell _ | .colon => true
  | _ => false

/-- Whether the lexeme separates arguments. -/
def Lexeme.isArgumentSeparator (x : Lexeme) : Bool :=
  x.symbol = .argumentSeparator

/-- Whether a blank between two neighbours says nothing. -/
def isIdleBetween (before after : Option Lexeme) : Bool :=
  match after with
  | none => true
  | some b =>
    (before.any Lexeme.isAreaPart && b.isAreaPart) ||
      (b.isArgumentSeparator && !before.any Lexeme.isArgumentSeparator)

/-- Leaves out the blanks that say nothing from a list with `before` in front of it. -/
def dropIdleBlanks (before : Option Lexeme) : List Lexeme → List Lexeme
  | [] => []
  | x :: xs =>
    if x.isBlank && isIdleBetween before xs.head? then dropIdleBlanks (some x) xs
    else x :: dropIdleBlanks (some x) xs

/-- Only blanks are left out. -/
theorem filter_dropIdleBlanks (before : Option Lexeme) (xs : List Lexeme) :
    (dropIdleBlanks before xs).filter (fun x => !x.isBlank) =
      xs.filter (fun x => !x.isBlank) := by
  induction xs generalizing before with
  | nil => rfl
  | cons x xs ih =>
    simp only [dropIdleBlanks]
    split
    · next h =>
      simp only [Bool.and_eq_true] at h
      simp [h.1, ih]
    · simp only [List.filter_cons, ih]

/-- The lexemes of a text without the blanks that say nothing, or the mistakes in it. -/
def lex (l : Locale) (s : Text) : Except (List Mistake) (List Lexeme) :=
  (scan l s).map (dropIdleBlanks none)

/-- A lexeme that is no blank, with the blanks in front of it. -/
structure Spaced where
  /-- The blanks in front, if there are any that have a place. -/
  lead : Option Text
  symbol : Symbol
  image : Text
deriving DecidableEq, Repr

/-- Whether a lexeme has no place for blanks in front of it. -/
def Symbol.isTight : Symbol → Bool
  | .colon | .columnSeparator | .rowSeparator => true
  | _ => false

/-- Attaches blanks to the lexemes behind them. The list has a colon in front of it or not, and
`pending` holds the blanks met since then. -/
def attach (afterColon : Bool) (pending : Option Text) : List Lexeme → List Spaced
  | [] => []
  | x :: xs =>
    if x.isBlank then attach afterColon (some (pending.getD [] ++ x.image)) xs
    else
      ⟨if afterColon || x.symbol.isTight then none else pending, x.symbol, x.image⟩ ::
        attach (x.symbol = .colon) none xs

/-- The lexemes that are no blanks, each with the blanks in front of it. -/
def spaced (xs : List Lexeme) : List Spaced :=
  attach false none xs

/-- Attaching blanks to the lexemes behind them leaves the other symbols. -/
theorem map_symbol_attach (afterColon : Bool) (pending : Option Text) (xs : List Lexeme) :
    (attach afterColon pending xs).map Spaced.symbol =
      (xs.filter (fun x => !x.isBlank)).map Lexeme.symbol := by
  induction xs generalizing afterColon pending with
  | nil => rfl
  | cons x xs ih =>
    simp only [attach]
    split
    · next h => simp [h, ih]
    · next h => simp [h, ih]

/-- Attaching blanks loses no other lexeme. -/
theorem map_symbol_spaced (xs : List Lexeme) :
    (spaced xs).map Spaced.symbol = (xs.filter (fun x => !x.isBlank)).map Lexeme.symbol :=
  map_symbol_attach false none xs

end GridFormula
