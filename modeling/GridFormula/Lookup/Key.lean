import GridFormula.Text.Lower
import GridFormula.Text.Mark
import GridFormula.Text.Normal
import GridFormula.Value.Basic

/-!
# Keys for looking up values

Two values are found by one another if they have the same key. Texts are folded first; a collation
says whether they have to agree in case and in accents. An empty cell, an error and what is not a
number have no key, so they are never found. Keys are ordered: numbers come first, then texts, then
truth values.
-/

namespace GridFormula

/-- Which differences between texts count. -/
structure Collation where
  caseSensitive : Bool
  accentSensitive : Bool
deriving DecidableEq, Repr

/-- A text without the differences that do not count. -/
def Collation.fold (c : Collation) (s : Text) : Text :=
  let s := if c.caseSensitive then s else Text.lower s
  if c.accentSensitive then s else (Text.canonical s).filter fun ch => !Text.isMark ch

/-- What a value is looked up by. -/
inductive LookupKey where
  | number (x : Binary64)
  | text (s : Text)
  | bool (b : Bool)
deriving DecidableEq, Repr

/-- The key of a value, where two texts have one key if they fold to the same. Both zeros have one
key. -/
def Value.key? (fold : Text → Text) : Value → Option LookupKey
  | number x =>
    if x.isNaN then none else if x.isZero then some (.number .zero) else some (.number x)
  | text s => some (.text (fold s))
  | bool b => some (.bool b)
  | empty | error _ => none

namespace LookupKey

/-- The place of a kind of keys among the others. -/
def kindRank : LookupKey → Nat
  | number _ => 0
  | text _ => 1
  | bool _ => 2

/-- The order of keys. -/
def before : LookupKey → LookupKey → Bool
  | number x, number y => x.rank < y.rank
  | text s, text t => Text.before s t
  | bool a, bool b => !a && b
  | a, b => a.kindRank < b.kindRank

/-- Keys in ascending order. -/
def ascending (keys : List LookupKey) : List LookupKey :=
  keys.mergeSort fun a b => !b.before a

end LookupKey

end GridFormula
