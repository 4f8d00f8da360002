import Reckon.Expr.Basic
import Reckon.Token.Scanner

/-!
The parser reads one token ahead and climbs by precedence. `expression least`
takes binary operators that bind at least as tightly as `least`. The right
operand of a left-associative operator must bind more tightly than it, that of
a right-associative operator at least as tightly, and unary minus reaches only
the primary that follows.

A call that fails keeps the cursor where the failure met it, so a caller may go
on from there. Expressions nest at most `limit` deep. The operators that
follow one another in an expression are counted against `steps`, which is more
than the readings that are left.
-/

namespace Reckon

inductive ParseError where
  | unreadable (error : LexError)
  | noOperand (found : Token)
  | expected (complaint : String) (wanted : TokenKind) (found : Token)
  | trailing (found : Token)
  | noOperator (found : Token)
  | tooDeep
  deriving DecidableEq

namespace ParseError

def message : ParseError → String
  | .unreadable error => "invalid input: " ++ error.message
  | .noOperand found => "unable to parse " ++ found.describe
  | .expected complaint wanted found =>
      complaint ++ ": expected '" ++ wanted.symbol ++ "', got " ++ found.describe
  | .trailing found => "unexpected trailing input " ++ found.describe
  | .noOperator found => "no operator " ++ found.describe
  | .tooDeep => tooDeepMessage

def token? : ParseError → Option Token
  | .noOperand found | .expected _ _ found | .trailing found => some found
  | .unreadable _ | .noOperator _ | .tooDeep => none

def lexError? : ParseError → Option LexError
  | .unreadable error => some error
  | _ => none

end ParseError

/-- The current token, the position behind it, and what follows. -/
structure Cursor where
  current : Token
  position : Nat
  feed : Feed
  deriving DecidableEq

abbrev Parser := EStateM ParseError Cursor

namespace Parser

/-- Makes the next reading current. When there is none to be had, the current token
stays. -/
def advance : Parser Unit := fun cursor =>
  match cursor.feed with
  | .finished position => .ok () { cursor with current := .finish, position }
  | .blocked error => .error (.unreadable error) { cursor with position := error.position }
  | .token token position rest => .ok () ⟨token, position, rest⟩
  | .refused error position rest =>
      .error (.unreadable error) { cursor with position, feed := rest }

def current : Parser Token := return (← get).current

def expect (complaint : String) (wanted : TokenKind) : Parser Unit := do
  let found ← current
  if found.kind = wanted then advance
  else throw (.expected complaint wanted found)

/-- The least precedence that the right operand of a token takes. -/
def operandLeast (token : Token) : Nat :=
  if token.rightAssociative then token.precedence else token.precedence + 1

/-- A number, a group in parentheses, or a negated primary. -/
def primaryWith (expression : (least : Nat) → Parser Expr) : Parser Expr := do
  match ← current with
  | .operator .subtract =>
      advance
      return .negative (← expression (negationPrecedence + 1))
  | .number value =>
      advance
      return .leaf value
  | .leftParen =>
      advance
      let inner ← expression 1
      expect "unbalanced parenthesis" .rightParen
      return inner
  | found => throw (.noOperand found)

/-- Extends `left` by the operators that bind at least as tightly as `least`. With
`least` zero every token counts as an operator, and one that is none fails once its
right operand has been read. -/
def chainWith (expression : (least : Nat) → Parser Expr) (least : Nat) :
    (steps : Nat) → (left : Expr) → Parser Expr
  | 0, left => return left
  | steps + 1, left => do
      let token ← current
      if token ≠ .finish ∧ least ≤ token.precedence then
        advance
        let right ← expression (operandLeast token)
        match token with
        | .operator op => chainWith expression least steps (.binary op left right)
        | found => throw (.noOperator found)
      else return left

def expressionWithin (steps : Nat) : (limit least : Nat) → Parser Expr
  | 0, _ => throw .tooDeep
  | limit + 1, least => do
      let left ← primaryWith (expressionWithin steps limit)
      chainWith (expressionWithin steps limit) least steps left

def stepsLeft : Parser Nat := return (← get).feed.length + 1

def expression (limit least : Nat) : Parser Expr := do
  expressionWithin (← stepsLeft) limit least

def primary (limit : Nat) : Parser Expr := do
  primaryWith (expressionWithin (← stepsLeft) limit)

def whole (limit : Nat) : Parser Expr := do
  let tree ← expression limit 1
  let found ← current
  if found = .finish then return tree else throw (.trailing found)

end Parser

namespace Cursor

def ofFeed (feed : Feed) : Except ParseError Cursor :=
  match Parser.advance ⟨.finish, 0, feed⟩ with
  | .ok _ cursor => .ok cursor
  | .error error _ => .error error

def ofText (text : List Char) : Except ParseError Cursor := ofFeed (.ofText text)

end Cursor

def Parser.outcome {α : Type} (parser : Parser α) (cursor : Cursor) : Except ParseError α :=
  match parser cursor with
  | .ok value _ => .ok value
  | .error error _ => .error error

def parseFeed (limit : Nat) (feed : Feed) : Except ParseError Expr := do
  (Parser.whole limit).outcome (← Cursor.ofFeed feed)

def parseWithin (limit : Nat) (text : List Char) : Except ParseError Expr :=
  parseFeed limit (.ofText text)

/-- Parsing without a limit on nesting: each level consumes a token, so there are
never more levels than readings. -/
def parse (text : List Char) : Except ParseError Expr :=
  parseFeed ((Feed.ofText text).length + 1) (.ofText text)

/-! A parser under a sequence of calls. -/

namespace Parser

inductive Call where
  | expression (least : Nat)
  | primary
  | whole
  | advance
  | expect (complaint : String) (wanted : TokenKind)
  deriving DecidableEq, Repr

/-- The calls that read a tree answer with it. -/
def perform (limit : Nat) : Call → Parser (Option Expr)
  | .expression least => return some (← expression limit least)
  | .primary => return some (← primary limit)
  | .whole => return some (← whole limit)
  | .advance => do advance; return none
  | .expect complaint wanted => do expect complaint wanted; return none

def answer (limit : Nat) (call : Call) (cursor : Cursor) :
    Except ParseError (Option Expr) × Cursor :=
  match perform limit call cursor with
  | .ok tree? after => (.ok tree?, after)
  | .error error after => (.error error, after)

def answers (limit : Nat) (cursor : Cursor) :
    List Call → List (Except ParseError (Option Expr) × Cursor)
  | [] => []
  | call :: rest =>
      let first := answer limit call cursor
      first :: answers limit first.2 rest

end Parser

end Reckon
