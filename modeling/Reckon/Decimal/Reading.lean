import Reckon.Decimal.Layout
import Reckon.Text.Basic

/-!
Reading a number as it is displayed: an optional sign, then `inf`, `nan`, or
digits with an optional fraction and an optional exponent. The value is the
nearest double, infinite when the decimal is too large.

A number as people enter it leaves more open. Blanks around it, the case of letters
and the script of digits make no difference, a plus sign may stand in front,
underscores may stand between digits, and digits may be missing on one side of
the point. What remains is read as a displayed number is.
-/

namespace Reckon

def signedInt? : List Char → Option Int
  | '-' :: digits => (natural? digits).map fun n => -(n : Int)
  | '+' :: digits | digits => (natural? digits).map fun n => (n : Int)
where
  natural? (digits : List Char) : Option Nat :=
    if digits ≠ [] ∧ digits.all Char.isDigit then some (ofDigits digits) else none

namespace Decimal

def read? (text : List Char) : Option Decimal :=
  let literal := text.takeWhile (· != 'e')
  match text.dropWhile (· != 'e') with
  | [] => ofLiteral? literal
  | _ :: exponent => do
      let decimal ← ofLiteral? literal
      let exponent ← signedInt? exponent
      some ⟨decimal.digits, decimal.exponent + exponent⟩

end Decimal

namespace Double

def ofDecimal (negative : Bool) (decimal : Decimal) : Double :=
  match decimal.nearest? with
  | some magnitude => .finite negative magnitude
  | none => .infinity negative

def read? (text : List Char) : Option Double :=
  match text with
  | '-' :: digits => unsigned? true digits
  | digits => unsigned? false digits
where
  unsigned? (negative : Bool) : List Char → Option Double
    | ['n', 'a', 'n'] => some .nan
    | ['i', 'n', 'f'] => some (.infinity negative)
    | digits => (Decimal.read? digits).map (ofDecimal negative)

end Double

namespace Entry

/-- Blanks, but not the separators of records, may stand around a number. -/
def isMargin (c : Char) : Bool :=
  Text.isSpace c && !(0x1c ≤ c.toNat && c.toNat ≤ 0x1f)

/-- A digit of any script as one from 0 to 9, and a letter in lower case. -/
def plainChar (c : Char) : Char :=
  match Text.digitValue? c with
  | some digit => digitChar digit
  | none => c.toLower

/-- Leaves out underscores; each has to stand between two digits. -/
def joinGroups (previous : Char) : List Char → Option (List Char)
  | [] => some []
  | ['_'] => none
  | '_' :: c :: rest =>
      if previous.isDigit && c.isDigit then (joinGroups c rest).map (c :: ·) else none
  | c :: rest => (joinGroups c rest).map (c :: ·)

/-- Puts a zero where the digits before or after the point are missing. -/
def fillPoint (literal : List Char) : List Char :=
  match literal with
  | '.' :: c :: rest => '0' :: '.' :: c :: rest
  | _ => if literal.getLast? = some '.' then literal ++ ['0'] else literal

def decimal? (text : List Char) : Option Decimal :=
  Decimal.read? (fillPoint (text.takeWhile (· != 'e')) ++ text.dropWhile (· != 'e'))

/-- A decimal far beyond all doubles is infinite, and one far below them is zero. -/
def nearest (negative : Bool) (decimal : Decimal) : Double :=
  if decimal.digits = 0 ∨ decimal.leadingExponent < -400 then Double.ofDecimal negative ⟨0, 0⟩
  else if 400 < decimal.leadingExponent then .infinity negative
  else Double.ofDecimal negative decimal

def unsigned? (negative : Bool) (text : List Char) : Option Double :=
  match String.ofList text with
  | "nan" => some .nan
  | "inf" | "infinity" => some (.infinity negative)
  | _ => (decimal? text).map (nearest negative)

end Entry

def Double.ofEntry? (text : List Char) : Option Double := do
  match ← Entry.joinGroups ' ' ((Text.trimBy Entry.isMargin text).map Entry.plainChar) with
  | '-' :: rest => Entry.unsigned? true rest
  | '+' :: rest | rest => Entry.unsigned? false rest

end Reckon
