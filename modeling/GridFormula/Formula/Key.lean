import GridFormula.Formula.Mark
import GridFormula.Formula.Reader

/-!
# Keys of formulas

The key of a formula is a text that is the same for all formulas with the same tree. It is written
like the formula, in one fixed locale; in the place of each reference stands what the reference
holds, which for a relative coordinate is its distance from the formula's cell. The key can be
found without reading the formula: the lexemes give the same marks as the tree does.
-/

namespace GridFormula

/-! ## What a reference holds -/

/-- The letter for the kind of a coordinate. -/
def Anchor.letter : Anchor → Char
  | relative => 'R'
  | absolute => 'A'

/-- What a coordinate holds. -/
def Coord.key (c : Coord) : Text :=
  c.anchor.letter :: Text.ofInt c.value

/-- The number of a sheet that is named and written, behind a mark that is always there. -/
def sheetKey (isWritten : Bool) (sheet : Option SheetId) : Text :=
  '#' :: if isWritten then (sheet.map Text.ofNat).getD [] else []

/-- What a reference to a cell holds. -/
def CellRef.key (isWritten : Bool) (r : CellRef) : Text :=
  sheetKey isWritten r.sheet ++ r.column.key ++ r.row.key

/-- How an axis is called in keys. -/
def Axis.title : Axis → Text
  | row => "ROW".toList
  | column => "COL".toList

/-- What a reference to a line holds. -/
def LineRef.key (axis : Axis) (isWritten : Bool) (r : LineRef) : Text :=
  sheetKey isWritten r.sheet ++ axis.title ++ r.position.key

/-- What a reference to an area holds, given what its ends hold with and without a written sheet. -/
def Area.key {α : Type} (key : Bool → α → Text) (r : Area α) : Text :=
  key (r.qualification ≠ .neither) r.first ++ ':' :: key (r.qualification = .both) r.last

/-! ## The key of a tree -/

/-- What stands for an atom in a key. -/
def Atom.key : Atom → Text
  | omitted => []
  | number numeral => numeral
  | string content => Text.quoted '"' content
  | .name n => n
  | errorValue e => e.code
  | unreadable raw _ => raw
  | cell r => r.key true
  | cells r => r.key CellRef.key
  | lines axis r => r.key (LineRef.key axis)

/-- What stands for a mark in a key. -/
def Mark.key : Mark → Text
  | space blanks => blanks
  | atom a => a.key
  | operator op => op.symbol
  | percent => ['%']
  | call function => function ++ ['(']
  | offsetCall => offsetName ++ ['(']
  | colon => [':']
  | argumentSeparator | columnSeparator => [',']
  | rowSeparator => [';']
  | openParen => ['(']
  | closeParen => [')']
  | openBrace => ['\x7b']
  | closeBrace => ['\x7d']

/-- The key of the formula with a given tree. -/
def Tree.key (t : Tree) : Text :=
  '=' :: t.marks.flatMap Mark.key

/-! ## The key of lexemes -/

namespace Site

/-- The mark that one lexeme makes; a run of lines of which only the last one names a sheet makes
none. -/
def mark? (site : Site) (x : Spaced) : Option Mark :=
  match x.symbol with
  | .blank => some (.space x.image)
  | .number numeral => some (.atom (.number numeral))
  | .string content => some (.atom (.string content))
  | .errorValue e => some (.atom (.errorValue e))
  | .cell w => some (.atom (site.cell w x.image))
  | .lines axis a b => (site.lines? axis a b x.image).map .atom
  | .call function => some (.call function)
  | .offsetCall => some .offsetCall
  | .name name => some (.atom (.name name))
  | .colon => some .colon
  | .argumentSeparator => some .argumentSeparator
  | .columnSeparator => some .columnSeparator
  | .rowSeparator => some .rowSeparator
  | .openBrace => some .openBrace
  | .closeBrace => some .closeBrace
  | .openParen => some .openParen
  | .closeParen => some .closeParen
  | .operator op => some (.operator op)
  | .percent => some .percent

/-- The marks that lexemes make. Two cells with a colon between them make one atom. -/
def marks? (site : Site) : List Spaced → Option (List Mark)
  | [] => some []
  | ⟨lead, .cell a, image⟩ :: ⟨_, .colon, _⟩ :: ⟨_, .cell b, image'⟩ :: xs =>
    match site.cells? a b (image ++ ':' :: image'), site.marks? xs with
    | some atom, some marks => some (Mark.spaces lead ++ .atom atom :: marks)
    | _, _ => none
  | x :: xs =>
    match site.mark? x, site.marks? xs with
    | some mark, some marks => some (Mark.spaces x.lead ++ mark :: marks)
    | _, _ => none

/-- The key of a formula from its lexemes. There is none if only the last end of an area is written
with a sheet; such lexemes are not a formula. -/
def key? (site : Site) (xs : List Lexeme) : Option Text :=
  (site.marks? (spaced xs)).map fun marks => marks.flatMap Mark.key

end Site

end GridFormula
