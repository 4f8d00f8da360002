import Reckon.Decimal.Layout

/-!
The tokens of the expression language and the table of binary operators, which
is the only source of binding strength. A token that is no operator has
precedence zero.
-/

namespace Reckon

inductive Operator where
  | and | or | add | subtract | multiply | divide | power
  deriving DecidableEq, Repr

namespace Operator

def all : List Operator := [.and, .or, .add, .subtract, .multiply, .divide, .power]

def symbol : Operator → Char
  | .and => '&'
  | .or => '|'
  | .add => '+'
  | .subtract => '-'
  | .multiply => '*'
  | .divide => '/'
  | .power => '^'

def ofSymbol? (c : Char) : Option Operator :=
  all.find? fun op => op.symbol = c

/-- Binding strength, loosest first. -/
def precedence : Operator → Nat
  | .and | .or => 1
  | .add | .subtract => 2
  | .multiply | .divide => 3
  | .power => 4

def rightAssociative : Operator → Bool
  | .power => true
  | _ => false

end Operator

/-- Unary minus binds more tightly than every binary operator. -/
def negationPrecedence : Nat := 5

inductive Token where
  | operator (op : Operator)
  | leftParen
  | rightParen
  | number (value : Double)
  | finish
  deriving DecidableEq

/-- A token without its value. -/
inductive TokenKind where
  | operator (op : Operator)
  | leftParen
  | rightParen
  | number
  | finish
  deriving DecidableEq, Repr

namespace TokenKind

def symbol : TokenKind → String
  | .operator op => op.symbol.toString
  | .leftParen => "("
  | .rightParen => ")"
  | .number => "NUM"
  | .finish => "EOF"

def name : TokenKind → String
  | .operator .and => "AND"
  | .operator .or => "OR"
  | .operator .add => "ADD"
  | .operator .subtract => "SUBTRACT"
  | .operator .multiply => "MULTIPLY"
  | .operator .divide => "DIVIDE"
  | .operator .power => "CARET"
  | .leftParen => "LEFT_PAREN"
  | .rightParen => "RIGHT_PAREN"
  | .number => "NUM"
  | .finish => "EOF"

def all : List TokenKind :=
  Operator.all.map .operator ++ [.leftParen, .rightParen, .number, .finish]

end TokenKind

def precedenceName : Nat → String
  | 0 => "DEFAULT_ZERO"
  | 1 => "AND_OR"
  | 2 => "ADD_SUB"
  | 3 => "MUL_DIV"
  | 4 => "POWER"
  | _ => "NEGATIVE"

namespace Token

def kind : Token → TokenKind
  | .operator op => .operator op
  | .leftParen => .leftParen
  | .rightParen => .rightParen
  | .number _ => .number
  | .finish => .finish

def precedence : Token → Nat
  | .operator op => op.precedence
  | _ => 0

def rightAssociative : Token → Bool
  | .operator op => op.rightAssociative
  | _ => false

/-- The token of a character that is a token by itself. -/
def ofSymbol? : Char → Option Token
  | '(' => some .leftParen
  | ')' => some .rightParen
  | c => (Operator.ofSymbol? c).map .operator

def describe : Token → String
  | .number value => "Num(" ++ String.ofList value.display ++ ")"
  | .finish => "EOF"
  | token => "Token('" ++ token.kind.symbol ++ "')"

end Token

end Reckon
