import Reckon.Token.Basic

/-!
Expression trees. The leaves are a parameter: an `Expr` has numbers for leaves,
and a `Sketch`, which may come from outside, has numbers or gaps. Walks over a
tree take the meaning of a leaf as an argument, so one definition serves both.

A walk that must not go deeper than some number of levels runs over the tree
pruned to that depth, where each subtree that lies too deep has become a leaf.
-/

namespace Reckon

inductive Tree (α : Type) where
  | leaf (value : α)
  | negative (operand : Tree α)
  | binary (op : Operator) (left right : Tree α)
  deriving DecidableEq

abbrev Expr := Tree Double

/-- A tree in which operands may be missing. -/
abbrev Sketch := Tree (Option Double)

inductive Flaw where
  | gap
  | tooDeep
  deriving DecidableEq, Repr

def tooDeepMessage : String := "expression nested too deeply"

def Flaw.message : Flaw → String
  | .gap => "Unknown node NoneType"
  | .tooDeep => tooDeepMessage

namespace Tree

variable {α β : Type}

def map (f : α → β) : Tree α → Tree β
  | .leaf value => .leaf (f value)
  | .negative operand => .negative (operand.map f)
  | .binary op left right => .binary op (left.map f) (right.map f)

/-- Replaces the leaves from left to right, up to the first one that fails. -/
def traverse {ε : Type} (f : α → Except ε β) : Tree α → Except ε (Tree β)
  | .leaf value => do return .leaf (← f value)
  | .negative operand => do return .negative (← operand.traverse f)
  | .binary op left right => do return .binary op (← left.traverse f) (← right.traverse f)

/-- The number of levels; a leaf has one. -/
def height : Tree α → Nat
  | .leaf _ => 1
  | .negative operand => operand.height + 1
  | .binary _ left right => max left.height right.height + 1

/-- Keeps so many levels; what lies deeper becomes `none`. -/
def prune : (levels : Nat) → Tree α → Tree (Option α)
  | 0, _ => .leaf none
  | _ + 1, .leaf value => .leaf (some value)
  | levels + 1, .negative operand => .negative (operand.prune levels)
  | levels + 1, .binary op left right =>
      .binary op (left.prune levels) (right.prune levels)

/-- The tree itself when it has no more than so many levels. -/
def shallow (levels : Nat) (tree : Tree α) : Except Flaw (Tree α) :=
  if tree.height ≤ levels then .ok tree else .error .tooDeep

def sameBy (same : α → β → Bool) : Tree α → Tree β → Bool
  | .leaf a, .leaf b => same a b
  | .negative a, .negative b => a.sameBy same b
  | .binary op a b, .binary op' a' b' => op = op' && a.sameBy same a' && b.sameBy same b'
  | _, _ => false

/-- Compares from the left and stops at the first difference; `none` when the
comparison would go deeper than so many levels. -/
def sameWithin? (same : α → β → Bool) : (levels : Nat) → Tree α → Tree β → Option Bool
  | 0, _, _ => none
  | _ + 1, .leaf a, .leaf b => some (same a b)
  | levels + 1, .negative a, .negative b => a.sameWithin? same levels b
  | levels + 1, .binary op a b, .binary op' a' b' =>
      if op = op' then
        match a.sameWithin? same levels a' with
        | some true => b.sameWithin? same levels b'
        | verdict => verdict
      else some false
  | _ + 1, _, _ => some false

end Tree

/-- Equality of expressions, with leaves compared as numbers. -/
def Expr.same (left right : Expr) : Bool := left.sameBy Double.sameNumber right

def Expr.toSketch (expression : Expr) : Sketch := expression.map some

/-- The expression that a sketch without gaps stands for. The first flaw from the
left is reported. -/
def Sketch.complete (levels : Nat) (sketch : Sketch) : Except Flaw Expr :=
  (sketch.prune levels).traverse fun
    | none => .error .tooDeep
    | some none => .error .gap
    | some (some value) => .ok value

end Reckon
