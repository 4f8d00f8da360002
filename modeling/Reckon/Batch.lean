import Reckon.Calculation
import Reckon.Text.Quoted

/-!
Many expressions, each calculated on its own: one row per expression, in the
order given. A failure fills its row with a message and stops nothing. Each row
is logged, and a summary counts the rows.

A report shows the rows as a table of text. Columns are aligned to the right and
their widths count code points. All finite values of a column are written alike:
with as many places as one of them needs, up to six, or all with an exponent
when that column would be unreadable.
-/

namespace Reckon

inductive Level where
  | debug | info | warning | error | critical
  deriving DecidableEq, Repr

namespace Level

def rank : Level → Nat
  | .debug => 10
  | .info => 20
  | .warning => 30
  | .error => 40
  | .critical => 50

def name : Level → String
  | .debug => "DEBUG"
  | .info => "INFO"
  | .warning => "WARNING"
  | .error => "ERROR"
  | .critical => "CRITICAL"

end Level

structure LogRecord where
  level : Level
  source : String
  message : String
  deriving DecidableEq

structure Row where
  expression : String
  outcome : Except Failure Double

namespace Row

def ofText (limits : Limits) (text : String) : Row := ⟨text, calculate limits text⟩

def error? (row : Row) : Option String :=
  match row.outcome with
  | .ok _ => none
  | .error failure => some failure.message

/-- A failed row has no number. -/
def value (row : Row) : Double :=
  match row.outcome with
  | .ok value => value
  | .error _ => .nan

def failed (row : Row) : Bool := row.error?.isSome

/-- The row has a value, and it is infinite or nan. -/
def nonFinite (row : Row) : Bool :=
  match row.outcome with
  | .ok value => !value.isFinite
  | .error _ => false

def record (row : Row) : LogRecord :=
  let quoted := Text.quote row.expression
  match row.outcome with
  | .ok value =>
      ⟨.debug, "engine.batch", "expression " ++ quoted ++ " -> " ++ String.ofList value.display⟩
  | .error failure =>
      let complaint :=
        if failure.isTooDeep then " nested too deeply" else " failed: " ++ failure.message
      ⟨.warning, "engine.batch", "expression " ++ quoted ++ complaint⟩

end Row

def evaluateBatch (limits : Limits) (expressions : List String) : List Row :=
  expressions.map (Row.ofText limits)

structure Summary where
  total : Nat
  ok : Nat
  failed : Nat
  nonFinite : Nat
  deriving DecidableEq, Repr

def summarize (rows : List Row) : Summary where
  total := rows.length
  ok := rows.countP fun row => !row.failed
  failed := rows.countP Row.failed
  nonFinite := rows.countP Row.nonFinite

namespace Report

def visible (text : String) : String :=
  String.ofList (text.toList.flatMap fun
    | '\t' => ['\\', 't']
    | '\r' => ['\\', 'r']
    | '\n' => ['\\', 'n']
    | c => [c])

def magnitude? : Double → Option Magnitude
  | .finite _ magnitude => some magnitude
  | _ => none

def valueText (write : Magnitude → List Char) : Double → List Char
  | .nan => ['N', 'a', 'N']
  | .infinity negative => Double.signText negative ++ ['i', 'n', 'f']
  | .finite negative magnitude => Double.signText negative ++ write magnitude

def trailingZeros (text : List Char) : Nat :=
  (text.reverse.takeWhile (· = '0')).length

def places : Nat := 6

/-- The zeros that all finite values have in common at their ends. -/
def spareZeros (values : List Double) : Nat :=
  ((values.filterMap magnitude?).map fun m => trailingZeros (m.fixed places)).foldl min places

/-- Cuts zeros off the end, but keeps a digit after the point. -/
def cutZeros (count : Nat) (text : List Char) : List Char :=
  let cut := text.take (text.length - count)
  if cut.getLast? = some '.' then cut ++ ['0'] else cut

def fixedTexts (values : List Double) : List (List Char) :=
  let spare := spareZeros values
  values.map (valueText fun m => cutZeros spare (m.fixed places))

def powerUnits (exponent : Int) : Nat :=
  ((Decimal.nearest? ⟨1, exponent⟩).map Magnitude.units).getD 0

def isSmall (value : Double) : Bool :=
  match magnitude? value with
  | some m => 0 < m.units && m.units < powerUnits (-6)
  | none => false

def isLarge : Double → Bool
  | .nan => false
  | .infinity _ => true
  | .finite _ m => powerUnits 6 < m.units

/-- The longest text that is still written without exponents beside large values. -/
def longest : Nat := 12

def valueTexts (values : List Double) : List (List Char) :=
  let texts := fixedTexts values
  if values.any isSmall || (texts.any (longest < ·.length) && values.any isLarge) then
    values.map (valueText fun m => m.scientific places)
  else texts

/-- Aligns a column to its widest cell, the header included. -/
def alignRight (cells : List String) : List String :=
  let width := (cells.map String.length).foldl max 0
  cells.map fun cell => String.ofList (List.replicate (width - cell.length) ' ') ++ cell

/-- An absent error is shown differently beside errors. -/
def errorCells (rows : List Row) : List String :=
  let absent := if rows.any Row.failed then "NaN" else "None"
  rows.map fun row => (row.error?.map visible).getD absent

def empty : String := "Empty DataFrame\nColumns: [expression, value, error]\nIndex: []"

def table (rows : List Row) : String :=
  if rows.isEmpty then empty
  else
    let expressions := alignRight ("expression" :: rows.map fun row => visible row.expression)
    let values := alignRight (" value" :: (valueTexts (rows.map Row.value)).map String.ofList)
    let errors := alignRight ("error" :: errorCells rows)
    let lines := (expressions.zip (values.zip errors)).map fun (expression, value, error) =>
      expression ++ " " ++ value ++ " " ++ error
    String.intercalate "\n" lines

/-- The table, an empty line and the count of what was evaluated. -/
def text (rows : List Row) : String :=
  let summary := summarize rows
  table rows ++ "\n\n" ++ toString summary.ok ++ "/" ++ toString summary.total
    ++ " evaluated, " ++ toString summary.failed ++ " failed\n"

end Report

end Reckon
