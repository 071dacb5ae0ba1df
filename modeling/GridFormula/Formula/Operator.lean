import GridFormula.Text.Basic

/-!
# Operators

The operators that stand between two operands, and the signs that stand before one. The levels of
the binary operators say which of them bind closer; a sign binds closer than all of them, and so
does the percent sign after an operand.
-/

namespace GridFormula

/-- The operators between two operands. -/
inductive BinaryOp where
  | power
  | times
  | divide
  | plus
  | minus
  | concat
  | equal
  | notEqual
  | less
  | greater
  | atMost
  | atLeast
deriving DecidableEq, Repr

/-- The signs before an operand. -/
inductive Sign where
  | plus
  | minus
deriving DecidableEq, Repr

namespace BinaryOp

/-- How the operator is written. -/
def symbol : BinaryOp → Text
  | power => ['^']
  | times => ['*']
  | divide => ['/']
  | plus => ['+']
  | minus => ['-']
  | concat => ['&']
  | equal => ['=']
  | notEqual => ['<', '>']
  | less => ['<']
  | greater => ['>']
  | atMost => ['<', '=']
  | atLeast => ['>', '=']

/-- The level of the operator: those of a higher level bind closer, those of one level from left to
right. -/
def level : BinaryOp → Nat
  | equal | notEqual | less | greater | atMost | atLeast => 1
  | concat => 2
  | plus | minus => 3
  | times | divide => 4
  | power => 5

/-- The level of signs, above all binary operators. -/
def signLevel : Nat := 6

/-- The sign that is written like the operator. -/
def sign? : BinaryOp → Option Sign
  | plus => some .plus
  | minus => some .minus
  | _ => none

end BinaryOp

/-- The binary operator that is written like the sign. -/
def Sign.operator : Sign → BinaryOp
  | plus => .plus
  | minus => .minus

/-- How the sign is written. -/
def Sign.symbol (s : Sign) : Text :=
  s.operator.symbol

/-- The operator written like a sign, and only it, is also that sign. -/
theorem BinaryOp.sign?_eq_some_iff {op : BinaryOp} {s : Sign} :
    op.sign? = some s ↔ op = s.operator := by
  cases op <;> cases s <;> decide

end GridFormula
