import Reckon.Decimal.Basic

/-!
How numbers are written. `display` is the form for results and messages: at
least one digit after the point, and an exponent outside 10^-4 .. 10^16.
`plain` is the form inside expressions, which have no exponents: every digit
is written out, and a whole number has no point. `fixed` and `scientific`
round to a given number of places. The first two share their digits.
-/

namespace Reckon

/-- Which leading exponents are written positionally, and whether a whole number
keeps a point and a zero. -/
structure Layout where
  positional : Int → Bool
  wholeHasPoint : Bool

namespace Layout

def display : Layout := ⟨fun exponent => -4 ≤ exponent && exponent < 16, true⟩

def plain : Layout := ⟨fun _ => true, false⟩

end Layout

def zeros (count : Nat) : List Char := List.replicate count '0'

/-- At least two digits, with a sign in front. -/
def exponentText (exponent : Int) : List Char :=
  let digits := digitsOf exponent.natAbs
  (if exponent < 0 then '-' else '+') :: (zeros (2 - digits.length) ++ digits)

namespace Decimal

/-- The digits before and after the point. -/
def split (decimal : Decimal) : List Char × List Char :=
  let digits := digitsOf decimal.digits
  match decimal.exponent with
  | .ofNat count => (digits ++ zeros count, [])
  | .negSucc count =>
      let padded := zeros (count + 2 - digits.length) ++ digits
      (padded.take (padded.length - (count + 1)), padded.drop (padded.length - (count + 1)))

def withPoint (whole fraction : List Char) : List Char :=
  if fraction = [] then whole else whole ++ '.' :: fraction

def text (layout : Layout) (decimal : Decimal) : List Char :=
  if layout.positional decimal.leadingExponent then
    let (whole, fraction) := decimal.split
    withPoint whole (if fraction = [] ∧ layout.wholeHasPoint then ['0'] else fraction)
  else
    let digits := digitsOf decimal.digits
    withPoint (digits.take 1) (digits.drop 1) ++ 'e' :: exponentText decimal.leadingExponent

end Decimal

namespace Double

def signText (negative : Bool) : List Char := if negative then ['-'] else []

/-- The shortest digits that read back, in the given layout. -/
def text (layout : Layout) : Double → List Char
  | .nan => ['n', 'a', 'n']
  | .infinity negative => signText negative ++ ['i', 'n', 'f']
  | .finite negative magnitude => signText negative ++ magnitude.shortest.text layout

def display (x : Double) : List Char := x.text .display

def plain (x : Double) : List Char := x.text .plain

end Double

namespace Magnitude

/-- Rounded to so many places after the point. -/
def fixed (places : Nat) (magnitude : Magnitude) : List Char :=
  let rounded := roundHalfEven (magnitude.units * Nat.pow 10 places) unitsPerOne
  let (whole, fraction) := Decimal.split ⟨rounded, -places⟩
  Decimal.withPoint whole fraction

/-- One digit before the point, so many after it, and an exponent. -/
def scientific (places : Nat) (magnitude : Magnitude) : List Char :=
  let step := digitCount magnitude.scaled - (places + 1)
  let rounded :=
    if magnitude = .zero then ⟨0, 0⟩
    else gridPoint step
      (roundHalfEven (magnitude.units * Nat.pow 10 scalePlaces) (unitsPerOne * Nat.pow 10 step))
  let digits := digitsOf rounded.digits
  let padded := digits ++ zeros (places + 1 - digits.length)
  Decimal.withPoint (padded.take 1) ((padded.drop 1).take places)
    ++ 'e' :: exponentText rounded.leadingExponent

end Magnitude

end Reckon
