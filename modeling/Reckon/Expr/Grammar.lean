import Reckon.Expr.Basic
import Reckon.Decimal.Reading
import Reckon.Token.Scanner

/-!
The expression language as a layered grammar, read layer by layer: the second
definition of the language, beside the parser that climbs by precedence.

    bits     := sum      (("&" | "|") sum)*
    sum      := product  (("+" | "-") product)*
    product  := power    (("*" | "/") power)*
    power    := unary    ("^" power)?
    unary    := "-" unary | atom
    atom     := NUMBER | "(" bits ")"
    NUMBER   := DIGIT+ ("." DIGIT+)?

The three outer layers fold to the left. A number is the longest text of its
form, and one that is too large is infinite here.
-/

namespace Reckon.Grammar

def numberSplit (text : List Char) : List Char × List Char :=
  let whole := text.takeWhile Char.isDigit
  match text.dropWhile Char.isDigit with
  | '.' :: rest =>
      let fraction := rest.takeWhile Char.isDigit
      if fraction = [] then (whole, '.' :: rest)
      else (whole ++ '.' :: fraction, rest.dropWhile Char.isDigit)
  | rest => (whole, rest)

/-- The tokens of a text, without the end. `steps` is at least the length. -/
def lexemesWithin? : (steps : Nat) → List Char → Option (List Token)
  | _, [] => some []
  | 0, _ => none
  | steps + 1, c :: rest =>
      if isBlank c then lexemesWithin? steps rest
      else if c.isDigit then do
        let (literal, rest) := numberSplit (c :: rest)
        let decimal ← Decimal.ofLiteral? literal
        let tokens ← lexemesWithin? steps rest
        some (.number (.ofDecimal false decimal) :: tokens)
      else do
        let token ← Token.ofSymbol? c
        let tokens ← lexemesWithin? steps rest
        some (token :: tokens)

def lexemes? (text : List Char) : Option (List Token) :=
  lexemesWithin? text.length text

/-- What a layer recognises at the front of the tokens, and what is left. -/
abbrev Layer := List Token → Option (Expr × List Token)

def foldRest (operators : List Operator) (operand : Layer) :
    (steps : Nat) → (left : Expr) → Layer
  | steps + 1, left, .operator op :: tokens =>
      if op ∈ operators then
        match operand tokens with
        | some (right, rest) => foldRest operators operand steps (.binary op left right) rest
        | none => none
      else some (left, .operator op :: tokens)
  | _, left, tokens => some (left, tokens)

def folded (operators : List Operator) (operand : Layer) (steps : Nat) : Layer := fun tokens =>
  match operand tokens with
  | some (left, rest) => foldRest operators operand steps left rest
  | none => none

def atom (group : Layer) : Layer
  | .number value :: rest => some (.leaf value, rest)
  | .leftParen :: tokens =>
      match group tokens with
      | some (inner, .rightParen :: rest) => some (inner, rest)
      | _ => none
  | _ => none

def unary (group : Layer) : (steps : Nat) → Layer
  | steps + 1, .operator .subtract :: tokens =>
      match unary group steps tokens with
      | some (operand, rest) => some (.negative operand, rest)
      | none => none
  | _, tokens => atom group tokens

def power (group : Layer) : (steps : Nat) → Layer
  | 0, _ => none
  | steps + 1, tokens =>
      match unary group steps tokens with
      | some (base, .operator .power :: rest) =>
          match power group steps rest with
          | some (exponent, rest) => some (.binary .power base exponent, rest)
          | none => none
      | outcome => outcome

def product (group : Layer) (steps : Nat) : Layer :=
  folded [.multiply, .divide] (power group steps) steps

def sum (group : Layer) (steps : Nat) : Layer :=
  folded [.add, .subtract] (product group steps) steps

/-- The outermost layer; `steps` is more than the number of tokens. -/
def bits : (steps : Nat) → Layer
  | 0, _ => none
  | steps + 1, tokens => folded [.and, .or] (sum (bits steps) steps) steps tokens

def parseTokens? (tokens : List Token) : Option Expr :=
  match bits (tokens.length + 2) tokens with
  | some (tree, []) => some tree
  | _ => none

def parse? (text : List Char) : Option Expr := do
  parseTokens? (← lexemes? text)

end Reckon.Grammar
