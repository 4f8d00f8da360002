/-!
Double-precision numbers as exact data. A finite value is a sign and a
magnitude; a magnitude is a whole number of units of 2^-1074, the distance
between the smallest doubles, written with a significand of at most 53 bits.
Every inexact operation of the library computes a quotient of natural numbers
exactly and rounds it once, with `Magnitude.nearest?`.

Infinities, nan and the sign of zero follow the binary floating-point standard. Of
the powers the square, the square root and the reciprocal are rounded correctly. Any
other exponent goes to the machine's power function through the 64-bit interchange
format, so nothing beyond the special exponents is claimed about its last bit.
-/

namespace Reckon

def unitsPerOne : Nat := Nat.pow 2 1074

/-- A quotient rounded to the nearest natural number; a half goes to the even
neighbour. -/
def roundHalfEven (numerator denominator : Nat) : Nat :=
  let quotient := numerator / denominator
  let twice := 2 * (numerator % denominator)
  if twice < denominator then quotient
  else if denominator < twice then quotient + 1
  else if quotient % 2 = 0 then quotient
  else quotient + 1

/-- A finite double without its sign: `significand * 2 ^ shift` units. The
leading bit of the significand is set unless the shift is zero, so each value
has one form. -/
structure Magnitude where
  significand : Nat
  shift : Nat
  canonical : significand < Nat.pow 2 53 ∧ shift ≤ 2045 ∧ (Nat.pow 2 52 ≤ significand ∨ shift = 0)
  deriving DecidableEq

namespace Magnitude

def zero : Magnitude := ⟨0, 0, by decide⟩

def units (magnitude : Magnitude) : Nat :=
  magnitude.significand * Nat.pow 2 magnitude.shift

/-- Refuses what no double holds: a shift beyond the largest exponent. -/
def ofParts? (significand shift : Nat) : Option Magnitude :=
  if canonical : significand < Nat.pow 2 53 ∧ shift ≤ 2045 ∧
      (Nat.pow 2 52 ≤ significand ∨ shift = 0) then
    some ⟨significand, shift, canonical⟩
  else none

/-- The magnitude nearest to `numerator / denominator` units, ties to the even
significand; `none` when the quotient rounds beyond the largest double. -/
def nearest? (numerator denominator : Nat) : Option Magnitude :=
  let shift := (numerator / denominator).log2 - 52
  let significand := roundHalfEven numerator (denominator * Nat.pow 2 shift)
  if significand < Nat.pow 2 53 then ofParts? significand shift
  else ofParts? (Nat.pow 2 52) (shift + 1)

end Magnitude

inductive Double where
  | nan
  | infinity (negative : Bool)
  | finite (negative : Bool) (magnitude : Magnitude)
  deriving DecidableEq

namespace Double

def zero : Double := .finite false .zero

def one : Double := .finite false ⟨Nat.pow 2 52, 1022, by decide⟩

def isFinite : Double → Bool
  | .finite _ _ => true
  | _ => false

def isNegative : Double → Bool
  | .nan => false
  | .infinity negative | .finite negative _ => negative

/-- A signed quotient of units, rounded once; what is too large is infinite. -/
def ofQuotient (negative : Bool) (numerator denominator : Nat) : Double :=
  match Magnitude.nearest? numerator denominator with
  | some magnitude => .finite negative magnitude
  | none => .infinity negative

/-- The exact value of a finite double, in units. -/
def signedUnits (negative : Bool) (magnitude : Magnitude) : Int :=
  if negative then -(magnitude.units : Int) else magnitude.units

def ofInt (value : Int) : Double :=
  ofQuotient (value < 0) (value.natAbs * unitsPerOne) 1

/-- Equality of numbers: both zeros are equal, and nan equals nothing. -/
def sameNumber : Double → Double → Bool
  | .infinity a, .infinity b => a == b
  | .finite a x, .finite b y => x == y && (a == b || x == .zero)
  | _, _ => false

/-! Negation and the four operations. -/

def negate : Double → Double
  | .nan => .nan
  | .infinity negative => .infinity (!negative)
  | .finite negative magnitude => .finite (!negative) magnitude

/-- An exact sum of zero is positive unless both terms are negative. -/
def add : Double → Double → Double
  | .nan, _ | _, .nan => .nan
  | .infinity a, .infinity b => if a = b then .infinity a else .nan
  | .infinity a, .finite _ _ => .infinity a
  | .finite _ _, .infinity b => .infinity b
  | .finite a x, .finite b y =>
      let total := signedUnits a x + signedUnits b y
      if total = 0 then .finite (a && b) .zero
      else ofQuotient (total < 0) total.natAbs 1

def subtract (left right : Double) : Double :=
  add left (negate right)

def multiply : Double → Double → Double
  | .nan, _ | _, .nan => .nan
  | .infinity a, .infinity b => .infinity (a != b)
  | .infinity a, .finite b y => if y = .zero then .nan else .infinity (a != b)
  | .finite a x, .infinity b => if x = .zero then .nan else .infinity (a != b)
  | .finite a x, .finite b y => ofQuotient (a != b) (x.units * y.units) unitsPerOne

def divide : Double → Double → Double
  | .nan, _ | _, .nan => .nan
  | .infinity _, .infinity _ => .nan
  | .infinity a, .finite b _ => .infinity (a != b)
  | .finite a _, .infinity b => .finite (a != b) .zero
  | .finite a x, .finite b y =>
      if y = .zero then
        if x = .zero then .nan else .infinity (a != b)
      else ofQuotient (a != b) (x.units * unitsPerOne) y.units

/-! Exponentiation. -/

/-- The interchange format: sign, eleven bits of exponent, 52 of fraction. -/
def toBits : Double → UInt64
  | .nan => 0x7ff8000000000000
  | .infinity negative => signBit negative ||| 0x7ff0000000000000
  | .finite negative magnitude =>
      signBit negative ||| (if magnitude.significand < Nat.pow 2 52 then magnitude.significand
        else magnitude.shift * Nat.pow 2 52 + magnitude.significand).toUInt64
where
  signBit (negative : Bool) : UInt64 := if negative then 0x8000000000000000 else 0

def ofBits (bits : UInt64) : Double :=
  let negative := bits >>> 63 == 1
  let exponent := ((bits >>> 52) &&& 0x7ff).toNat
  let fraction := (bits &&& 0xfffffffffffff).toNat
  if exponent = 0x7ff then
    if fraction = 0 then .infinity negative else .nan
  else
    let magnitude := if exponent = 0 then Magnitude.ofParts? fraction 0
      else Magnitude.ofParts? (Nat.pow 2 52 + fraction) (exponent - 1)
    (magnitude.map (finite negative)).getD .nan

def squareRoot (x : Double) : Double :=
  ofBits (Float.ofBits x.toBits).sqrt.toBits

def two : Double := ofInt 2

def half : Double := divide one two

def power (base exponent : Double) : Double :=
  if exponent = two then multiply base base
  else if exponent = half then squareRoot base
  else if exponent = negate one then divide one base
  else ofBits ((Float.ofBits base.toBits).pow (Float.ofBits exponent.toBits)).toBits

end Double

end Reckon
