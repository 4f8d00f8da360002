import Reckon.Batch
import Reckon.Expr.Description
import Reckon.Text.Basic
import Reckon.Web.Address

/-!
The web service: what is answered to a request. The address leads to a route, and
a route has its methods; the body of a request is checked field by field, and
every complaint names the place it is about. Values that the exchange format has
no number for are named instead.
-/

namespace Reckon.Web

structure Request where
  method : String
  address : String
  body : Option Data

structure Reply where
  status : Nat
  body : Option Data
  log : List LogRecord

def reply (status : Nat) (body : Data) : Reply := ⟨status, some body, []⟩

def detail (status : Nat) (text : String) : Reply :=
  reply status (.object [("detail", .text text)])

structure Complaint where
  kind : String
  place : List Data

def Complaint.toData (complaint : Complaint) : Data :=
  .object [("type", .text complaint.kind), ("loc", .list (.text "body" :: complaint.place))]

def refuse (complaints : List Complaint) : Reply :=
  reply 422 (.list (complaints.map Complaint.toData))

def requiredField (name : String) (body : Option Data) : Except (List Complaint) Data :=
  match body with
  | none | some .null => .error [⟨"missing", []⟩]
  | some (.object fields) =>
      match (Data.object fields).field? name with
      | some value => .ok value
      | none => .error [⟨"missing", [.text name]⟩]
  | some _ => .error [⟨"model_attributes_type", []⟩]

def expressionField (body : Option Data) : Except (List Complaint) String := do
  match ← requiredField "expr" body with
  | .text text => .ok text
  | _ => .error [⟨"string_type", [.text "expr"]⟩]

/-- Every element that is no text is complained of, in order. -/
def expressionsField (body : Option Data) : Except (List Complaint) (List String) := do
  match ← requiredField "exprs" body with
  | .list items =>
      let complaints := items.zipIdx.filterMap fun
        | (.text _, _) => none
        | (_, index) => some ⟨"string_type", [.text "exprs", .integer index]⟩
      let texts := items.filterMap fun
        | .text text => some text
        | _ => none
      if complaints.isEmpty then .ok texts else .error complaints
  | _ => .error [⟨"list_type", [.text "exprs"]⟩]

def valueFields (value : Double) : List (String × Data) :=
  if value.isFinite then [("result", .number value)]
  else [("result", .null), ("repr", .text (String.ofList value.display))]

/-- A failed expression; only what is too deep is not logged. -/
def failure (expression : String) (cause : Failure) : Reply :=
  let message := "expression " ++ Text.quote expression ++ " failed: " ++ cause.message
  { detail 400 cause.message with
    log := if cause.isTooDeep then [] else [⟨.debug, "app.main", message⟩] }

def answering (expression : String) (outcome : Except Failure Data) : Reply :=
  match outcome with
  | .ok body => reply 200 body
  | .error cause => failure expression cause

def shallowTree (limits : Limits) (expression : String) : Except Failure Expr := do
  let tree ← (parseText limits expression).mapError .parse
  (tree.shallow limits.levels).mapError fun flaw => .eval (.flawed flaw)

def operatorData (op : Operator) : Data :=
  .object [
    ("symbol", .text op.symbol.toString),
    ("token", .text (TokenKind.operator op).name),
    ("precedence", .text (precedenceName op.precedence)),
    ("level", .integer op.precedence),
    ("associativity", .text (if op.rightAssociative then "right" else "left"))]

/-- The operators, loosest first. -/
def operators : Reply :=
  reply 200 (.object [("operators", .list (Operator.all.map operatorData))])

def parse (limits : Limits) (expression : String) : Reply :=
  answering expression ((shallowTree limits expression).map fun tree =>
    .object [("ok", .bool true), ("analysis", (Expr.census tree).toData)])

def tree (limits : Limits) (expression : String) : Reply :=
  answering expression ((shallowTree limits expression).map fun tree =>
    .object [("ok", .bool true),
      ("pretty", .text (String.ofList (Expr.outline tree [' ', ' ']))),
      ("infix", .text (String.ofList (Expr.parenthesized tree))),
      ("tree", Expr.toData tree)])

def evaluate (limits : Limits) (expression : String) : Reply :=
  answering expression ((calculate limits expression).map fun value =>
    .object (("expr", .text expression) :: valueFields value))

def rowData (row : Row) : Data :=
  let fields := match row.outcome with
    | .ok value => ("error", .null) :: valueFields value
    | .error cause => [("error", .text cause.message), ("result", .null)]
  .object (("expr", .text row.expression) :: fields)

def summaryData (summary : Summary) : Data :=
  .object [
    ("total", .integer summary.total),
    ("ok", .integer summary.ok),
    ("failed", .integer summary.failed),
    ("non_finite", .integer summary.nonFinite)]

def batchLimit : Int := 1000

def batch (limits : Limits) (most : Int) (expressions : List String) : Reply :=
  if most < expressions.length then
    detail 413 ("batch of " ++ toString expressions.length ++ " exceeds limit " ++ toString most)
  else
    let rows := evaluateBatch limits expressions
    { reply 200 (.object [("rows", .list (rows.map rowData)),
        ("summary", summaryData (summarize rows))]) with
      log := rows.map Row.record }

inductive Route where
  | operators | parse | tree | evaluate | batch | documentation
  deriving DecidableEq, Repr

namespace Route

def methods : Route → List String
  | .operators => ["GET"]
  | .parse | .tree | .evaluate | .batch => ["POST"]
  | .documentation => ["GET", "HEAD"]

def ofName? : String → Option Route
  | "/operators" => some .operators
  | "/parse" => some .parse
  | "/ast" => some .tree
  | "/evaluate" => some .evaluate
  | "/evaluate_batch" => some .batch
  | "/openapi.json" | "/docs" | "/docs/oauth2-redirect" | "/redoc" => some .documentation
  | _ => none

/-- A line feed at the end of a path makes no difference. -/
def served? (path : List Char) : Option Route :=
  ofName? (String.ofList (if path.getLast? = some '\n' then path.dropLast else path))

/-- A path with slashes at its end leads where it leads without them. -/
def ofPath? (path : List Char) : Option Route :=
  match served? path with
  | some route => some route
  | none =>
      if path.getLast? = some '/' then served? (path.reverse.dropWhile (· = '/')).reverse
      else none

end Route

def withExpression (body : Option Data) (answer : String → Reply) : Reply :=
  match expressionField body with
  | .ok expression => answer expression
  | .error complaints => refuse complaints

/-- What a route answers; the pages of the documentation are not written here. -/
def Route.answer (limits : Limits) (most : Int) (body : Option Data) : Route → Reply
  | .operators => Web.operators
  | .parse => withExpression body (Web.parse limits)
  | .tree => withExpression body (Web.tree limits)
  | .evaluate => withExpression body (Web.evaluate limits)
  | .batch =>
      match expressionsField body with
      | .ok expressions => Web.batch limits most expressions
      | .error complaints => refuse complaints
  | .documentation => ⟨200, none, []⟩

def dispatch (limits : Limits) (most : Int) (method : String) (path : List Char)
    (body : Option Data) : Reply :=
  match Route.ofPath? path with
  | none => detail 404 "Not Found"
  | some route =>
      if method ∈ route.methods then route.answer limits most body
      else detail 405 "Method Not Allowed"

/-- Methods are named in any case. One of them asks for everything but the body. -/
def respond (limits : Limits) (most : Int) (request : Request) : Except AddressError Reply := do
  let path ← Address.target request.address.toList
  let method := Text.upper request.method
  let reply := dispatch limits most method path request.body
  return if method = "HEAD" then { reply with body := none } else reply

end Reckon.Web
