import GridFormula.Formula.Operator
import GridFormula.Reference.Area
import GridFormula.Value.ErrorValue

/-!
# Formula trees

A formula is a tree of operators, calls and brackets over atoms. Every node keeps the blanks that
were written in front of it, and a pair of brackets also those in front of the closing one, so
that the formula can be written again as it was. Of an operator behind its operand the blanks are
those between the two.
-/

namespace GridFormula

/-- The parts of a formula that have no parts themselves. -/
inductive Atom where
  /-- An argument that is left out. -/
  | omitted
  /-- A number, written with a point. -/
  | number (numeral : Text)
  /-- A text, without its quotes. -/
  | string (content : Text)
  /-- A name, as it was written. -/
  | name (name : Text)
  | errorValue (e : ErrorValue)
  /-- A piece of text that means nothing, and the error value that stands for it. -/
  | unreadable (raw : Text) (e : ErrorValue)
  | cell (r : CellRef)
  | cells (r : Area CellRef)
  /-- A run of whole rows or columns. -/
  | lines (axis : Axis) (r : Area LineRef)
deriving DecidableEq, Repr

/-- A formula without its equals sign. -/
inductive Tree where
  | atom (lead : Option Text) (a : Atom)
  | signed (lead : Option Text) (sign : Sign) (operand : Tree)
  | percent (lead : Option Text) (operand : Tree)
  | binary (lead : Option Text) (op : BinaryOp) (left right : Tree)
  | call (lead : Option Text) (function : Text) (arguments : List Tree) (inner : Option Text)
  | parens (lead : Option Text) (content : Tree) (inner : Option Text)
  | array (lead : Option Text) (rows : List (List Tree)) (inner : Option Text)

namespace Tree

/-! ## Equality -/

mutual

/-- Decides whether two trees are the same. -/
def decEq : (s t : Tree) → Decidable (s = t)
  | .atom l a, t =>
    match t with
    | .atom m b => decidable_of_iff (l = m ∧ a = b) (by simp)
    | .signed .. | .percent .. | .binary .. | .call .. | .parens .. | .array .. => isFalse nofun
  | .signed l g s, t =>
    match t with
    | .signed m h t =>
      have := decEq s t
      decidable_of_iff (l = m ∧ g = h ∧ s = t) (by simp)
    | .atom .. | .percent .. | .binary .. | .call .. | .parens .. | .array .. => isFalse nofun
  | .percent l s, t =>
    match t with
    | .percent m t =>
      have := decEq s t
      decidable_of_iff (l = m ∧ s = t) (by simp)
    | .atom .. | .signed .. | .binary .. | .call .. | .parens .. | .array .. => isFalse nofun
  | .binary l o s s', t =>
    match t with
    | .binary m p t t' =>
      have := decEq s t
      have := decEq s' t'
      decidable_of_iff (l = m ∧ o = p ∧ s = t ∧ s' = t') (by simp)
    | .atom .. | .signed .. | .percent .. | .call .. | .parens .. | .array .. => isFalse nofun
  | .call l f ss i, t =>
    match t with
    | .call m g ts j =>
      have := decEqList ss ts
      decidable_of_iff (l = m ∧ f = g ∧ ss = ts ∧ i = j) (by simp)
    | .atom .. | .signed .. | .percent .. | .binary .. | .parens .. | .array .. => isFalse nofun
  | .parens l s i, t =>
    match t with
    | .parens m t j =>
      have := decEq s t
      decidable_of_iff (l = m ∧ s = t ∧ i = j) (by simp)
    | .atom .. | .signed .. | .percent .. | .binary .. | .call .. | .array .. => isFalse nofun
  | .array l rs i, t =>
    match t with
    | .array m qs j =>
      have := decEqRows rs qs
      decidable_of_iff (l = m ∧ rs = qs ∧ i = j) (by simp)
    | .atom .. | .signed .. | .percent .. | .binary .. | .call .. | .parens .. => isFalse nofun

/-- Decides whether two lists of trees are the same. -/
def decEqList : (ss ts : List Tree) → Decidable (ss = ts)
  | [], ts => match ts with
    | [] => isTrue rfl
    | _ :: _ => isFalse nofun
  | s :: ss, ts => match ts with
    | [] => isFalse nofun
    | t :: ts =>
      have := decEq s t
      have := decEqList ss ts
      decidable_of_iff (s = t ∧ ss = ts) (by simp)

/-- Decides whether two lists of rows are the same. -/
def decEqRows : (rs qs : List (List Tree)) → Decidable (rs = qs)
  | [], qs => match qs with
    | [] => isTrue rfl
    | _ :: _ => isFalse nofun
  | r :: rs, qs => match qs with
    | [] => isFalse nofun
    | q :: qs =>
      have := decEqList r q
      have := decEqRows rs qs
      decidable_of_iff (r = q ∧ rs = qs) (by simp)

end

instance : DecidableEq Tree := decEq

/-! ## Parts -/

/-- The trees directly below the root, in their order. -/
def children : Tree → List Tree
  | .atom .. => []
  | .signed _ _ t | .percent _ t | .parens _ t _ => [t]
  | .binary _ _ s t => [s, t]
  | .call _ _ ts _ => ts
  | .array _ rows _ => rows.flatten

/-- Whether the whole formula means nothing. -/
def isUnreadable : Tree → Bool
  | .atom _ (.unreadable ..) => true
  | _ => false

mutual

/-- Changes the atoms of a tree. -/
def mapAtoms (f : Atom → Atom) : Tree → Tree
  | .atom lead a => .atom lead (f a)
  | .signed lead sign t => .signed lead sign (mapAtoms f t)
  | .percent lead t => .percent lead (mapAtoms f t)
  | .binary lead op s t => .binary lead op (mapAtoms f s) (mapAtoms f t)
  | .call lead function ts inner => .call lead function (mapAtomsList f ts) inner
  | .parens lead t inner => .parens lead (mapAtoms f t) inner
  | .array lead rows inner => .array lead (mapAtomsRows f rows) inner

/-- Changes the atoms of each tree of a list. -/
def mapAtomsList (f : Atom → Atom) : List Tree → List Tree
  | [] => []
  | t :: ts => mapAtoms f t :: mapAtomsList f ts

/-- Changes the atoms of each tree of each row. -/
def mapAtomsRows (f : Atom → Atom) : List (List Tree) → List (List Tree)
  | [] => []
  | row :: rows => mapAtomsList f row :: mapAtomsRows f rows

end

/-- The atoms of several trees are changed tree by tree. -/
theorem mapAtomsList_eq_map (f : Atom → Atom) (ts : List Tree) :
    mapAtomsList f ts = ts.map (mapAtoms f) := by
  induction ts with
  | nil => rfl
  | cons t ts ih => simp [mapAtomsList, ih]

/-- The atoms of rows are changed tree by tree. -/
theorem mapAtomsRows_eq_map (f : Atom → Atom) (rows : List (List Tree)) :
    mapAtomsRows f rows = rows.map (List.map (mapAtoms f)) := by
  induction rows with
  | nil => rfl
  | cons row rows ih => simp [mapAtomsRows, mapAtomsList_eq_map, ih]

/-- Attaches an operator and its right operand to a tree of operators. A lower operator keeps its
left operand and takes the new one into its right operand; any other becomes the left operand. -/
def append (left : Tree) (lead : Option Text) (op : BinaryOp) (right : Tree) : Tree :=
  match left with
  | .binary lead' op' s t =>
    if op'.level < op.level then .binary lead' op' s (t.append lead op right)
    else .binary lead op (.binary lead' op' s t) right
  | left => .binary lead op left right

end Tree

end GridFormula
