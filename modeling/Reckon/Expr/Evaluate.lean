import Reckon.Expr.Basic
import Reckon.Double

/-!
The value of an expression. Both operands of a binary operator are evaluated,
the left one first, before they are combined, so nothing is short-circuited.
`&` and `|` drop the fraction of their operands and combine them as 64-bit
integers; an operand that has no such integer is the only failure that a tree of
numbers can have.
-/

namespace Reckon

inductive EvalError where
  | notFinite (operand : Double)
  | outsideRange (operand : Double)
  | flawed (flaw : Flaw)
  deriving DecidableEq

def EvalError.message : EvalError → String
  | .notFinite operand =>
      "bitwise operand " ++ String.ofList operand.display ++ " is not finite"
  | .outsideRange operand =>
      "bitwise operand " ++ String.ofList operand.display ++ " is outside the 64-bit integer range"
  | .flawed flaw => flaw.message

namespace Double

def truncate (negative : Bool) (magnitude : Magnitude) : Int :=
  let whole := magnitude.units / unitsPerOne
  if negative then -(whole : Int) else whole

def toInt64 : Double → Except EvalError Int
  | .finite negative magnitude =>
      let whole := truncate negative magnitude
      if -0x8000000000000000 ≤ whole ∧ whole < 0x8000000000000000 then .ok whole
      else .error (.outsideRange (.finite negative magnitude))
  | operand => .error (.notFinite operand)

/-- Combines two operands bit by bit in two's complement. -/
def bitwise (combine : BitVec 64 → BitVec 64 → BitVec 64) (left right : Double) :
    Except EvalError Double := do
  let a ← left.toInt64
  let b ← right.toInt64
  return .ofInt (combine (.ofInt 64 a) (.ofInt 64 b)).toInt

end Double

def Operator.apply : Operator → Double → Double → Except EvalError Double
  | .and, left, right => Double.bitwise (· &&& ·) left right
  | .or, left, right => Double.bitwise (· ||| ·) left right
  | .add, left, right => .ok (left.add right)
  | .subtract, left, right => .ok (left.subtract right)
  | .multiply, left, right => .ok (left.multiply right)
  | .divide, left, right => .ok (left.divide right)
  | .power, left, right => .ok (left.power right)

def Tree.evaluateBy {α : Type} (value : α → Except EvalError Double) :
    Tree α → Except EvalError Double
  | .leaf a => value a
  | .negative operand => do
      let x ← operand.evaluateBy value
      return x.negate
  | .binary op left right => do
      let a ← left.evaluateBy value
      let b ← right.evaluateBy value
      op.apply a b

/-- Going below so many levels is a failure, met when the walk gets there. -/
def Tree.evaluateWithin {α : Type} (levels : Nat) (value : α → Except EvalError Double)
    (tree : Tree α) : Except EvalError Double :=
  (tree.prune levels).evaluateBy fun
    | some a => value a
    | none => .error (.flawed .tooDeep)

def Expr.evaluate (expression : Expr) : Except EvalError Double :=
  expression.evaluateBy .ok

def Sketch.leafValue : Option Double → Except EvalError Double
  | some value => .ok value
  | none => .error (.flawed .gap)

end Reckon
