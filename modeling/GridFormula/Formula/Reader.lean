import GridFormula.Formula.Offset
import GridFormula.Lexeme.Spacing

/-!
# Reading a formula

A formula starts with an equals sign. Behind it stands an expression: operands with binary
operators between them. An operand may have signs in front and percent signs behind, both of
which bind closer than every binary operator. The tree of an expression grows from left to right:
each operator is attached to the tree of what stands before it, as deep on its right edge as its
level allows.

All functions of a reader take the lexemes that are left and give back those that are left behind
what they have read. They follow each other in rounds, of which every one takes a lexeme, so the
number of lexemes bounds their depth.
-/

namespace GridFormula

/-- Why lexemes are not a formula. -/
inductive ReadFault where
  /-- The formula does not start with an equals sign, or with blanks in front of it. -/
  | noEqualsSign
  | unexpectedEnd
  /-- A lexeme, written like this, cannot stand where it does. -/
  | unexpected (image : Text)
  | unclosedParen
  | unclosedCall
  | unclosedArray
  /-- The rows of an array differ in length. -/
  | unevenRows
  /-- There is no cell behind a colon. -/
  | noAreaEnd
  /-- Only the last end of an area is written with a sheet. -/
  | lastOnlyQualified
  | offset (fault : OffsetFault)
  /-- An offset that is an area is used as the end of another area. -/
  | offsetArea
deriving DecidableEq, Repr

/-- The text that reports why lexemes are not a formula. -/
def ReadFault.message : ReadFault → Text
  | noEqualsSign => "Formula must start with `=`".toList
  | unexpectedEnd => "Unexpected end of formula".toList
  | unexpected image => "Unexpected token `".toList ++ image ++ ['`']
  | unclosedParen => "Expected `)`".toList
  | unclosedCall => "Unterminated function call".toList
  | unclosedArray => "Unterminated array literal".toList
  | unevenRows => "Array literal rows must all have the same length".toList
  | noAreaEnd => "Expected a cell reference after `:`".toList
  | lastOnlyQualified =>
    "Only the start of a range may be qualified with a sheet on its own".toList
  | offset fault => fault.message
  | offsetArea => "An OFFSET that denotes a range cannot be the end of another range".toList

namespace Reader

/-- An end of an area of cells: a cell as it was written, or what an offset was resolved to. -/
inductive AreaEnd where
  | written (w : WrittenCell) (image : Text)
  | resolved (a : Atom)

/-- What the end of an area means by itself. -/
def AreaEnd.atom (site : Site) : AreaEnd → Atom
  | written w image => site.cell w image
  | resolved a => a

/-- The area between two ends that have been resolved. -/
def joined (site : Site) (raw : Text) : Atom → Atom → Except ReadFault Atom
  | .cell a, .cell b =>
    match EndSheets.compare (a.sheet.map some) (b.sheet.map some) with
    | .lastOnly => .error .lastOnlyQualified
    | .lost => .ok (.unreadable raw .lostReference)
    | .agreed sheet q => .ok (.cells (.ofCells a { b with sheet } q site.base))
  | .cells _, _ | _, .cells _ => .error .offsetArea
  | .unreadable _ e, _ | _, .unreadable _ e => .ok (.unreadable raw e)
  | _, _ => .ok (.errorValue .lostReference)

/-- The area between two ends. Two written cells are looked up together, so that a sheet in front of
the first one holds for both. -/
def area (site : Site) (raw : Text) : AreaEnd → AreaEnd → Except ReadFault Atom
  | .written a _, .written b _ =>
    match site.cells? a b raw with
    | some a => .ok a
    | none => .error .lastOnlyQualified
  | a, b => joined site raw (a.atom site) (b.atom site)

/-- How lexemes were written, without the blanks in front of the first one. -/
def written : List Spaced → Text
  | [] => []
  | x :: xs => x.image ++ xs.flatMap fun y => y.lead.getD [] ++ y.image

/-- How the lexemes from `xs` up to `rest` were written. -/
def writtenUpTo (xs rest : List Spaced) : Text :=
  written (xs.take (xs.length - rest.length))

/-- The sign that a symbol can be. -/
def sign? : Symbol → Option Sign
  | .operator op => op.sign?
  | _ => none

/-- Reads the percent signs behind an operand. -/
def percents (t : Tree) : List Spaced → Tree × List Spaced
  | [] => (t, [])
  | x :: xs => if x.symbol = .percent then percents (.percent x.lead t) xs else (t, x :: xs)

/-- A call whose only argument is left out has no arguments. The blanks that belonged to the
argument then stand in front of the closing parenthesis. -/
def withoutSoleOmission : List Tree × Option Text → List Tree × Option Text
  | ([.atom lead .omitted], _) => ([], lead)
  | arguments => arguments

/-- Puts a tree in front of the first row. -/
def intoFirstRow (t : Tree) : List (List Tree) → List (List Tree)
  | [] => [[t]]
  | row :: rows => (t :: row) :: rows

/-- Whether all rows are as long as the first one. -/
def areEven : List (List Tree) → Bool
  | [] => true
  | row :: rows => rows.all fun other => other.length = row.length

mutual

/-- Reads an expression. -/
def expression (site : Site) : Nat → List Spaced → Except ReadFault (Tree × List Spaced)
  | 0, _ => .error .unexpectedEnd
  | n + 1, xs => do
    let (t, xs) ← operand site n xs
    chain site n t xs

/-- Reads on behind an operand, with the tree of what was read so far. -/
def chain (site : Site) : Nat → Tree → List Spaced → Except ReadFault (Tree × List Spaced)
  | n + 1, t, x :: xs =>
    match x.symbol with
    | .operator op => do
      let (right, xs) ← operand site n xs
      chain site n (t.append x.lead op right) xs
    | _ => .ok (t, x :: xs)
  | _, t, xs => .ok (t, xs)

/-- Reads an operand with its signs. -/
def operand (site : Site) : Nat → List Spaced → Except ReadFault (Tree × List Spaced)
  | n + 1, x :: xs =>
    match sign? x.symbol with
    | some sign => do
      let (t, xs) ← operand site n xs
      .ok (.signed x.lead sign t, xs)
    | none => do
      let (t, xs) ← primary site n x xs
      .ok (percents t xs)
  | _, _ => .error .unexpectedEnd

/-- Reads what starts with the lexeme `x` and is no sign. -/
def primary (site : Site) :
    Nat → Spaced → List Spaced → Except ReadFault (Tree × List Spaced)
  | 0, _, _ => .error .unexpectedEnd
  | n + 1, x, xs =>
    match x.symbol with
    | .number numeral => .ok (.atom x.lead (.number numeral), xs)
    | .string content => .ok (.atom x.lead (.string content), xs)
    | .errorValue e => .ok (.atom x.lead (.errorValue e), xs)
    | .name name => .ok (.atom x.lead (.name name), xs)
    | .lines axis a b =>
      match site.lines? axis a b x.image with
      | some a => .ok (.atom x.lead a, xs)
      | none => .error .lastOnlyQualified
    | .cell _ | .offsetCall => do
      let (a, xs) ← reference site n (x :: xs)
      .ok (.atom x.lead a, xs)
    | .call function => do
      let ((ts, inner), xs) ← arguments site n xs
      let (ts, inner) := withoutSoleOmission (ts, inner)
      .ok (.call x.lead function ts inner, xs)
    | .openParen => do
      let (t, xs) ← expression site n xs
      match xs with
      | [] => .error .unclosedParen
      | y :: xs =>
        if y.symbol = .closeParen then .ok (.parens x.lead t y.lead, xs)
        else .error (.unexpected y.image)
    | .openBrace => do
      let ((rows, inner), xs) ← rows site n xs
      if areEven rows then .ok (.array x.lead rows inner, xs) else .error .unevenRows
    | _ => .error (.unexpected x.image)

/-- Reads a cell or an offset, or an area between two of them. -/
def reference (site : Site) : Nat → List Spaced → Except ReadFault (Atom × List Spaced)
  | 0, _ => .error .unexpectedEnd
  | n + 1, xs => do
    let (first, rest) ← areaEnd site n xs
    match rest with
    | y :: behind =>
      if y.symbol = .colon then do
        let (last, rest) ← areaEnd site n behind
        let a ← area site (writtenUpTo xs rest) first last
        .ok (a, rest)
      else .ok (first.atom site, rest)
    | [] => .ok (first.atom site, rest)

/-- Reads an end of an area. -/
def areaEnd (site : Site) : Nat → List Spaced → Except ReadFault (AreaEnd × List Spaced)
  | n + 1, x :: xs =>
    match x.symbol with
    | .cell w => .ok (.written w x.image, xs)
    | .offsetCall => do
      let ((ts, inner), xs) ← arguments site n xs
      match site.offset (withoutSoleOmission (ts, inner)).1 with
      | .ok a => .ok (.resolved a, xs)
      | .error fault => .error (.offset fault)
    | _ => .error .noAreaEnd
  | _, _ => .error .noAreaEnd

/-- Reads the arguments of a call and the parenthesis behind them, with the blanks in front of it.
An argument that is left out takes the blanks in front of what ends it. -/
def arguments (site : Site) :
    Nat → List Spaced → Except ReadFault ((List Tree × Option Text) × List Spaced)
  | n + 1, x :: xs =>
    match x.symbol with
    | .closeParen => .ok (([.atom x.lead .omitted], none), xs)
    | .argumentSeparator => do
      let ((ts, inner), xs) ← arguments site n xs
      .ok ((.atom x.lead .omitted :: ts, inner), xs)
    | _ => do
      let (t, xs) ← expression site n (x :: xs)
      match xs with
      | [] => .error .unclosedCall
      | y :: xs =>
        match y.symbol with
        | .closeParen => .ok (([t], y.lead), xs)
        | .argumentSeparator => do
          let ((ts, inner), xs) ← arguments site n xs
          .ok ((t :: ts, inner), xs)
        | _ => .error (.unexpected y.image)
  | _, _ => .error .unexpectedEnd

/-- Reads the rows of an array and the brace behind them, with the blanks in front of it. -/
def rows (site : Site) :
    Nat → List Spaced → Except ReadFault ((List (List Tree) × Option Text) × List Spaced)
  | 0, _ => .error .unexpectedEnd
  | n + 1, xs => do
    let (t, xs) ← expression site n xs
    match xs with
    | [] => .error .unclosedArray
    | y :: xs =>
      match y.symbol with
      | .closeBrace => .ok (([[t]], y.lead), xs)
      | .columnSeparator => do
        let ((ts, inner), xs) ← rows site n xs
        .ok ((intoFirstRow t ts, inner), xs)
      | .rowSeparator => do
        let ((ts, inner), xs) ← rows site n xs
        .ok (([t] :: ts, inner), xs)
      | _ => .error (.unexpected y.image)

end

/-- The depth that suffices to read a list of lexemes: between two of them at most five functions
follow each other. -/
def depth (xs : List Spaced) : Nat :=
  6 * xs.length + 6

/-- Reads a whole formula. -/
def formula (site : Site) : List Spaced → Except ReadFault Tree
  | [] => .error .noEqualsSign
  | x :: xs =>
    if x.symbol = .operator .equal ∧ x.lead = none then do
      let (t, rest) ← expression site (depth xs) xs
      match rest with
      | [] => .ok t
      | y :: _ => .error (.unexpected y.image)
    else .error .noEqualsSign

/-- Whether an offset starts from a cell with a relative coordinate. What such an offset means
depends on the cell that the formula stands in. -/
def isPlaceBound : List Spaced → Bool
  | x :: y :: xs =>
    (match x.symbol, y.symbol with
      | .offsetCall, .cell w => w.column.anchor = .relative || w.row.anchor = .relative
      | _, _ => false) || isPlaceBound (y :: xs)
  | _ => false

end Reader

/-- Why a text is not a formula. -/
inductive FormulaFault where
  | mistake (m : Mistake)
  | fault (f : ReadFault)
deriving DecidableEq, Repr

/-- The text that reports why a text is not a formula. -/
def FormulaFault.message : FormulaFault → Text
  | mistake m => m.message
  | fault f => f.message

/-- What a text was read as. -/
structure Reading where
  tree : Tree
  /-- Why the text is not a formula; none if it is. -/
  faults : List FormulaFault
  /-- Whether the tree may be another one in another cell. -/
  isPlaceBound : Bool

namespace Reading

/-- Whether the text is a formula. -/
def isFormula (r : Reading) : Bool :=
  r.faults.isEmpty

/-- What stands for a text that is not a formula: the text itself, without its equals sign. -/
def failed (text : Text) (faults : List FormulaFault) : Reading where
  tree := .atom none (.unreadable (if text.head? = some '=' then text.tail else text) .other)
  faults := faults
  isPlaceBound := false

end Reading

namespace Site

/-- Reads the lexemes of a text. -/
def readLexemes (site : Site) (text : Text) (xs : List Lexeme) : Reading :=
  match Reader.formula site (spaced xs) with
  | .ok tree => ⟨tree, [], Reader.isPlaceBound (spaced xs)⟩
  | .error fault => .failed text [.fault fault]

/-- Reads a text. -/
def read (site : Site) (text : Text) : Reading :=
  match lex site.locale text with
  | .ok xs => site.readLexemes text xs
  | .error mistakes => .failed text (mistakes.map .mistake)

end Site

end GridFormula
