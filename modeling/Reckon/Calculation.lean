import Reckon.Expr.Description
import Reckon.Expr.Evaluate
import Reckon.Expr.Parser
import Reckon.Text.Basic

/-!
From a text to its value, the calculation that every front end runs. Nesting and the
depth of the tree are both limited, and whoever calculates says how much there is room
for; beyond the limits a calculation fails, and only then do they show.

`runOne` answers a single expression, as a command line and a session do. `session`
answers the lines of a text in order, until the text ends or a line asks to leave. A line
that fails changes nothing for the lines after it.
-/

namespace Reckon

/-- The calls of the parser that may be active at once, and the levels of a tree that
may be walked. -/
structure Limits where
  nesting : Nat
  levels : Nat
  deriving DecidableEq, Repr

inductive Failure where
  | parse (error : ParseError)
  | eval (error : EvalError)
  deriving DecidableEq

namespace Failure

def message : Failure → String
  | .parse error => error.message
  | .eval error => error.message

def isTooDeep : Failure → Bool
  | .parse .tooDeep | .eval (.flawed .tooDeep) => true
  | _ => false

end Failure

def parseText (limits : Limits) (text : String) : Except ParseError Expr :=
  parseWithin limits.nesting text.toList

def evaluateTree (limits : Limits) (tree : Expr) : Except EvalError Double :=
  tree.evaluateWithin limits.levels .ok

def calculate (limits : Limits) (text : String) : Except Failure Double := do
  let tree ← (parseText limits text).mapError .parse
  (evaluateTree limits tree).mapError .eval

structure Output where
  status : Nat
  out : String
  err : String
  deriving DecidableEq

def complain (out message : String) : Output := ⟨1, out, "error: " ++ message ++ "\n"⟩

/-- The outline is printed before the evaluation, which may still fail. -/
def runOne (limits : Limits) (showTree : Bool) (text : String) : Output :=
  match parseText limits text with
  | .error error => complain "" error.message
  | .ok tree =>
      let printed : Except Flaw String :=
        if showTree then (tree.shallow limits.levels).map fun shallow =>
          String.ofList (Expr.outline shallow [' ', ' ']) ++ "\n"
        else .ok ""
      match printed with
      | .error flaw => complain "" flaw.message
      | .ok outline =>
          match evaluateTree limits tree with
          | .error error => complain outline error.message
          | .ok value => ⟨0, outline ++ String.ofList value.display ++ "\n", ""⟩

def exitWords : List String := ["exit", "quit"]

def asksToLeave (line : List Char) : Bool := String.ofList (Text.strip line) ∈ exitWords

/-- A blank line is passed over. -/
def answerLine (limits : Limits) (showTree : Bool) (line : List Char) : Output :=
  let source := String.ofList (Text.strip line)
  if source = "" then ⟨0, "", ""⟩ else runOne limits showTree source

def prompt (terminal : Bool) : String := if terminal then "> " else ""

def answerLines (limits : Limits) (terminal showTree : Bool) : List (List Char) → Output
  | [] => ⟨0, prompt terminal, ""⟩
  | line :: rest =>
      if asksToLeave line then ⟨0, prompt terminal, ""⟩
      else
        let here := answerLine limits showTree line
        let later := answerLines limits terminal showTree rest
        ⟨0, prompt terminal ++ here.out ++ later.out, here.err ++ later.err⟩

def session (limits : Limits) (terminal showTree : Bool) (text : String) : Output :=
  answerLines limits terminal showTree (Text.sessionLines text.toList)

end Reckon
