import GridFormula.Text.Basic

/-!
# Error values

A formula that has no ordinary value has one of ten error values. Each has a code that is the same
in every language; what a user reads may be a translation of it.
-/

namespace GridFormula

/-- The error values of a cell. -/
inductive ErrorValue where
  | divisionByZero
  | unknownName
  | wrongType
  | numeric
  | notAvailable
  | cycle
  | lostReference
  | spill
  | licence
  | other
deriving DecidableEq, Repr

namespace ErrorValue

/-- The code of an error value. -/
def code : ErrorValue → Text
  | divisionByZero => "#DIV/0!".toList
  | unknownName => "#NAME?".toList
  | wrongType => "#VALUE!".toList
  | numeric => "#NUM!".toList
  | notAvailable => "#N/A".toList
  | cycle => "#CYCLE!".toList
  | lostReference => "#REF!".toList
  | spill => "#SPILL!".toList
  | licence => "#LIC!".toList
  | other => "#ERROR!".toList

/-- All error values, in the ascending order of their codes. -/
def all : List ErrorValue :=
  [cycle, divisionByZero, other, licence, notAvailable, unknownName, numeric, lostReference,
    spill, wrongType]

/-- The list of error values is complete. -/
theorem mem_all (e : ErrorValue) : e ∈ all := by
  cases e <;> decide

/-- Two error values with one code are the same. -/
theorem code_injective {d e : ErrorValue} (h : d.code = e.code) : d = e := by
  cases d <;> cases e <;> first | rfl | exact absurd h (by decide)

end ErrorValue

end GridFormula
