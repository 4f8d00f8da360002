import Reckon.Double

/-!
Decimal numbers `digits * 10 ^ exponent`, their digits as characters, and the
two ways between text and doubles: a literal is a decimal, and a decimal is
rounded to the nearest magnitude.

The way back is the shortest decimal that reads back as a given magnitude. A magnitude
lies between two neighbours on a grid of decimals, the multiples of a power of ten.
Rounding is monotone, so when any point of the grid reads back, one of the two
neighbours does. The grids are tried from the coarsest, which leaves one digit,
to the finest, which leaves seventeen; of two neighbours that both read back
the nearer one is taken, a tie going to the even digit.
-/

namespace Reckon

structure Decimal where
  digits : Nat
  exponent : Int
  deriving DecidableEq

def digitChar (digit : Nat) : Char := Char.ofNat (48 + digit)

def digitValue (c : Char) : Nat := c.toNat - 48

/-- The decimal digits of a number, the first one first; zero is one digit. -/
def digitsOf (n : Nat) : List Char :=
  if n < 10 then [digitChar n] else digitsOf (n / 10) ++ [digitChar (n % 10)]

def digitCount (n : Nat) : Nat :=
  if n < 10 then 1 else digitCount (n / 10) + 1

def ofDigits (digits : List Char) : Nat :=
  digits.foldl (fun total c => 10 * total + digitValue c) 0

namespace Decimal

/-- The nearest magnitude; `none` for a decimal that rounds to infinity. -/
def nearest? (decimal : Decimal) : Option Magnitude :=
  match decimal.exponent with
  | .ofNat zeros => Magnitude.nearest? (decimal.digits * Nat.pow 10 zeros * unitsPerOne) 1
  | .negSucc places => Magnitude.nearest? (decimal.digits * unitsPerOne) (Nat.pow 10 (places + 1))

/-- Reads digits with an optional point and further digits; both groups hold at
least one digit, and nothing else is allowed. -/
def ofLiteral? (literal : List Char) : Option Decimal :=
  let whole := literal.takeWhile Char.isDigit
  match literal.dropWhile Char.isDigit with
  | [] => if whole = [] then none else some ⟨ofDigits whole, 0⟩
  | '.' :: fraction =>
      if whole = [] ∨ fraction = [] ∨ !fraction.all Char.isDigit then none
      else some ⟨ofDigits (whole ++ fraction), -fraction.length⟩
  | _ => none

/-- Moves the zeros at the end of the digits into the exponent. -/
def trim (decimal : Decimal) : Decimal :=
  if 0 < decimal.digits ∧ decimal.digits % 10 = 0 then
    trim ⟨decimal.digits / 10, decimal.exponent + 1⟩
  else decimal
termination_by decimal.digits

def leadingExponent (decimal : Decimal) : Int :=
  decimal.exponent + digitCount decimal.digits - 1

end Decimal

namespace Magnitude

/-- Enough decimal places to bring every positive magnitude above 10^18. -/
def scalePlaces : Nat := 343

def scaled (magnitude : Magnitude) : Nat :=
  magnitude.units * Nat.pow 10 scalePlaces / unitsPerOne

/-- The grid with steps of `10 ^ step` scaled places. -/
def gridPoint (step digits : Nat) : Decimal :=
  ⟨digits, (step : Int) - scalePlaces⟩

def readsBack (magnitude : Magnitude) (decimal : Decimal) : Bool :=
  decimal.nearest? = some magnitude

/-- Whether the neighbour above `lower` is to be preferred to it. -/
def nearerAbove (magnitude : Magnitude) (step lower : Nat) : Bool :=
  let exact := 2 * (magnitude.units * Nat.pow 10 scalePlaces)
  let middle := (2 * lower + 1) * Nat.pow 10 step * unitsPerOne
  middle < exact || (middle == exact && lower % 2 == 1)

def onGrid? (magnitude : Magnitude) (step lower : Nat) : Option Decimal :=
  let below := gridPoint step lower
  let above := gridPoint step (lower + 1)
  match magnitude.readsBack below, magnitude.readsBack above with
  | true, true => some (if magnitude.nearerAbove step lower then above else below)
  | true, false => some below
  | false, true => some above
  | false, false => none

/-- Tries `remaining` grids, the last of them with steps of `10 ^ finest`. -/
def shortestFrom (magnitude : Magnitude) (scaled finest : Nat) : (remaining : Nat) → Decimal
  | 0 => gridPoint finest (scaled / Nat.pow 10 finest)
  | remaining + 1 =>
      match magnitude.onGrid? (finest + remaining) (scaled / Nat.pow 10 (finest + remaining)) with
      | some decimal => decimal
      | none => shortestFrom magnitude scaled finest remaining

/-- Seventeen digits always suffice. -/
def maximalDigits : Nat := 17

def shortest (magnitude : Magnitude) : Decimal :=
  if magnitude = .zero then ⟨0, 0⟩
  else
    let scaled := magnitude.scaled
    (magnitude.shortestFrom scaled (digitCount scaled - maximalDigits) maximalDigits).trim

end Magnitude

end Reckon
