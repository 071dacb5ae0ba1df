import GridFormula.Lookup.Bound
import GridFormula.Lookup.Key

/-!
# Searching values

A value is searched for among others by its key: from one end to the other, or by halving where
the caller says that the values ascend. In ascending values those without a key come last.
-/

namespace GridFormula

/-- Which one is found of several values with the key. -/
inductive Occurrence where
  | first
  | last
deriving DecidableEq, Repr

/-- How values are searched. -/
structure SearchOptions where
  /-- Whether the values are said to ascend. -/
  preferSorted : Bool
  occurrence : Occurrence
deriving DecidableEq, Repr

/-- A way to find the place of a value among others. -/
abbrev Search : Type := Value → List Value → SearchOptions → Option Nat

/-- The place of the last member with a property. -/
def lastIndex? {α : Type} (p : α → Bool) (xs : List α) : Option Nat :=
  (xs.reverse.findIdx? p).map fun i => xs.length - 1 - i

/-- The place of a key among values that ascend. -/
def searchSorted (fold : Text → Text) (key : LookupKey) (values : List Value) (o : Occurrence) :
    Option Nat :=
  let first := partitionLength (fun v => (v.key? fold).any fun k => k.before key) values
  let behind := partitionLength (fun v => (v.key? fold).any fun k => !key.before k) values
  if first = behind then none
  else
    match o with
    | .first => some first
    | .last => some (behind - 1)

/-- The place of a key among values in any order. -/
def searchAll (fold : Text → Text) (key : LookupKey) (values : List Value) (o : Occurrence) :
    Option Nat :=
  let isFound (v : Value) : Bool := v.key? fold = some key
  match o with
  | .first => values.findIdx? isFound
  | .last => lastIndex? isFound values

/-- Searches the values themselves. -/
def searchValues (fold : Text → Text) : Search := fun value values options =>
  (value.key? fold).bind fun key =>
    if options.preferSorted then searchSorted fold key values options.occurrence
    else searchAll fold key values options.occurrence

end GridFormula
