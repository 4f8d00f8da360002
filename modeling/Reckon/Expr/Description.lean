import Reckon.Expr.Basic

/-!
What is told of a tree. The outline has one line per node, indented by its depth
and labelled with its place under its parent. The parenthesized text is source
text again: every operator has its own parentheses and numbers are written out
in full, so that no precedence is needed to read it. The census says how often each
operator occurs, how many literals and negations there are, how deep the tree is and how
many nodes it has; a leaf that is no literal counts as a node only. Trees and censuses
are also structured values, as requests bring them and replies carry them.
-/

namespace Reckon

def Operator.nodeName : Operator → List Char
  | .and => ['A', 'n', 'd']
  | .or => ['O', 'r']
  | .add => ['A', 'd', 'd']
  | .subtract => ['S', 'u', 'b', 't', 'r', 'a', 'c', 't']
  | .multiply => ['M', 'u', 'l', 't', 'i', 'p', 'l', 'y']
  | .divide => ['D', 'i', 'v', 'i', 'd', 'e']
  | .power => ['C', 'a', 'r', 'e', 't']

inductive Place where
  | root | operand | left | right
  deriving DecidableEq, Repr

def Place.label : Place → List Char
  | .root => []
  | .operand => "operand: ".toList
  | .left => "left: ".toList
  | .right => "right: ".toList

namespace Tree

variable {α : Type}

def outlineLines (indent : List Char) (leafText : α → List Char) :
    (depth : Nat) → Place → Tree α → List (List Char)
  | depth, place, .leaf value => [header depth place (leafText value)]
  | depth, place, .negative operand =>
      header depth place "Negative".toList ::
        outlineLines indent leafText (depth + 1) .operand operand
  | depth, place, .binary op left right =>
      header depth place (op.nodeName ++ ['(', op.symbol, ')']) ::
        (outlineLines indent leafText (depth + 1) .left left ++
          outlineLines indent leafText (depth + 1) .right right)
where
  header (depth : Nat) (place : Place) (name : List Char) : List Char :=
    (List.replicate depth indent).flatten ++ place.label ++ name

def outlineBy (indent : List Char) (leafText : α → List Char) (tree : Tree α) : List Char :=
  List.intercalate ['\n'] (tree.outlineLines indent leafText 0 .root)

/-- Source text with parentheses around every operation. -/
def parenthesizedBy (leafText : α → List Char) : Tree α → List Char
  | .leaf value => leafText value
  | .negative operand => '(' :: '-' :: (operand.parenthesizedBy leafText ++ [')'])
  | .binary op left right =>
      '(' :: (left.parenthesizedBy leafText ++
        op.symbol :: (right.parenthesizedBy leafText ++ [')']))

end Tree

def numberLine (value : Double) : List Char :=
  "Number(".toList ++ value.display ++ [')']

def Expr.outline (expression : Expr) (indent : List Char) : List Char :=
  expression.outlineBy indent numberLine

def Expr.parenthesized (expression : Expr) : List Char :=
  expression.parenthesizedBy Double.plain

def Sketch.leafLine : Option Double → List Char
  | some value => numberLine value
  | none => "NoneType".toList

namespace Tree

variable {α : Type}

def nodes : Tree α → Nat
  | .leaf _ => 1
  | .negative operand => operand.nodes + 1
  | .binary _ left right => left.nodes + right.nodes + 1

def literals (isLiteral : α → Bool) : Tree α → Nat
  | .leaf value => if isLiteral value then 1 else 0
  | .negative operand => operand.literals isLiteral
  | .binary _ left right => left.literals isLiteral + right.literals isLiteral

def negations : Tree α → Nat
  | .leaf _ => 0
  | .negative operand => operand.negations + 1
  | .binary _ left right => left.negations + right.negations

def count (op : Operator) : Tree α → Nat
  | .leaf _ => 0
  | .negative operand => operand.count op
  | .binary found left right =>
      left.count op + right.count op + (if found = op then 1 else 0)

end Tree

structure Census where
  operators : List (Operator × Nat)
  literals : Nat
  negations : Nat
  depth : Nat
  nodes : Nat
  deriving DecidableEq, Repr

/-- The operators in the order of their symbols' code points. -/
def Operator.bySymbol : List Operator :=
  [.and, .multiply, .add, .subtract, .divide, .power, .or]

/-- Operators that do not occur are left out. -/
def Tree.censusBy {α : Type} (isLiteral : α → Bool) (tree : Tree α) : Census where
  operators := (Operator.bySymbol.map fun op => (op, tree.count op)).filter (·.2 != 0)
  literals := tree.literals isLiteral
  negations := tree.negations
  depth := tree.height
  nodes := tree.nodes

def Expr.census (expression : Expr) : Census := expression.censusBy fun _ => true

/-- A structured value. Numbers that count something are integers; measured values are
doubles. -/
inductive Data where
  | null
  | bool (value : Bool)
  | integer (value : Int)
  | number (value : Double)
  | text (value : String)
  | list (items : List Data)
  | object (fields : List (String × Data))
  deriving Inhabited

namespace Data

/-- The value of the last field with a name; nothing for what is no object. -/
def field? (name : String) : Data → Option Data
  | .object fields => (fields.reverse.find? (·.1 == name)).map (·.2)
  | _ => none

end Data

def Tree.toDataBy {α : Type} (leafData : α → Data) : Tree α → Data
  | .leaf value => leafData value
  | .negative operand =>
      .object [("type", .text "Negative"), ("operand", operand.toDataBy leafData)]
  | .binary op left right =>
      .object [("type", .text (String.ofList op.nodeName)), ("op", .text op.symbol.toString),
        ("left", left.toDataBy leafData), ("right", right.toDataBy leafData)]

def numberData (value : Double) : Data :=
  .object [("type", .text "Number"), ("value", .number value)]

def Expr.toData (expression : Expr) : Data := expression.toDataBy numberData

def Sketch.leafData : Option Double → Data
  | some value => numberData value
  | none => .object [("type", .text "Unknown"), ("repr", .text "None")]

def Census.toData (census : Census) : Data :=
  .object [
    ("operators", .object (census.operators.map fun (op, count) =>
      (op.symbol.toString, .integer count))),
    ("literals", .integer census.literals),
    ("negations", .integer census.negations),
    ("depth", .integer census.depth),
    ("nodes", .integer census.nodes)]

end Reckon
