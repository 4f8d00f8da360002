import Mathlib
import Reckon.Proofs.Language
import Reckon.Proofs.Nearest
import Reckon.Proofs.Numerals
import Reckon.Proofs.Pieces

/-!
Literals of any length and the doubles they stand for. Each digit counts by its place,
and their sum is an exact rational number, however many there are. The scanner reads the
nearest double from the literal; half way beyond the largest double and further on it
refuses the literal as out of range.
-/

namespace Reckon

/-- The sum of digits by their places; the first counts for the given power of ten. -/
def placeValue (exponent : Int) : List Char → ℚ
  | [] => 0
  | c :: digits => digitValue c * 10 ^ exponent + placeValue (exponent - 1) digits

structure Numeral where
  whole : List Char
  fraction : List Char
  visible : whole ≠ []
  digits : ∀ c ∈ whole ++ fraction, c.isDigit = true

namespace Numeral

def text (numeral : Numeral) : List Char := Decimal.withPoint numeral.whole numeral.fraction

def value (numeral : Numeral) : ℚ :=
  placeValue (numeral.whole.length - 1) (numeral.whole ++ numeral.fraction)

def decimal (numeral : Numeral) : Decimal :=
  ⟨ofDigits (numeral.whole ++ numeral.fraction), -numeral.fraction.length⟩

def padded (numeral : Numeral) (front behind : Nat) : Numeral where
  whole := zeros front ++ numeral.whole
  fraction := numeral.fraction ++ zeros behind
  visible := fun none => numeral.visible (List.append_eq_nil_iff.mp none).2
  digits := by
    intro c member
    simp only [List.mem_append] at member
    rcases member with (leading | inside) | (inside | trailing)
    · exact zeros_isDigit front c leading
    · exact numeral.digits c (List.mem_append_left _ inside)
    · exact numeral.digits c (List.mem_append_right _ inside)
    · exact zeros_isDigit behind c trailing

end Numeral

section Places

theorem ofDigits_cons (c : Char) (digits : List Char) :
    ofDigits (c :: digits) = digitValue c * 10 ^ digits.length + ofDigits digits := by
  induction digits using List.reverseRecOn with
  | nil => simp [ofDigits]
  | append_singleton digits last ih =>
      rw [← List.cons_append, ofDigits_snoc, ih, ofDigits_snoc, List.length_append,
        List.length_singleton]
      ring

theorem placeValue_eq (digits : List Char) (exponent : Int) :
    placeValue exponent digits = ofDigits digits * 10 ^ (exponent + 1 - digits.length) := by
  induction digits generalizing exponent with
  | nil => simp [placeValue, ofDigits]
  | cons c digits ih =>
      have place : (10 : ℚ) ^ exponent = 10 ^ digits.length * 10 ^ (exponent - digits.length) := by
        rw [← zpow_natCast, ← zpow_add₀ (by norm_num), add_sub_cancel]
      rw [placeValue, ih, ofDigits_cons, List.length_cons, place]
      push_cast
      ring_nf

theorem Numeral.value_eq (numeral : Numeral) :
    numeral.value =
      ofDigits (numeral.whole ++ numeral.fraction) / 10 ^ numeral.fraction.length := by
  have places : (numeral.whole.length - 1 + 1 - (numeral.whole ++ numeral.fraction).length : Int) =
      -numeral.fraction.length := by
    rw [List.length_append]
    push_cast
    ring
  rw [value, placeValue_eq, places, zpow_neg, zpow_natCast, div_eq_mul_inv]

theorem Numeral.value_padded (numeral : Numeral) (front behind : Nat) :
    (numeral.padded front behind).value = numeral.value := by
  have inside : zeros front ++ numeral.whole ++ (numeral.fraction ++ zeros behind) =
      zeros front ++ (numeral.whole ++ numeral.fraction ++ zeros behind) := by
    simp only [List.append_assoc]
  have places : (numeral.fraction ++ zeros behind).length = numeral.fraction.length + behind := by
    rw [List.length_append, zeros, List.length_replicate]
  rw [value_eq, value_eq]
  simp only [padded, inside, places, ofDigits_zeros_append, ofDigits_append_zeros]
  push_cast
  rw [pow_add, mul_div_mul_right _ _ (pow_ne_zero _ (by norm_num))]

end Places

section Reading

variable (numeral : Numeral)

theorem Numeral.literal : Literal numeral.text numeral.decimal := by
  have before : ∀ c ∈ numeral.whole, c.isDigit = true :=
    fun c member => numeral.digits c (List.mem_append_left _ member)
  have behind : ∀ c ∈ numeral.fraction, c.isDigit = true :=
    fun c member => numeral.digits c (List.mem_append_right _ member)
  unfold text decimal Decimal.withPoint
  split
  · rename_i integral
    rw [integral, List.append_nil]
    exact Literal.whole numeral.visible before
  · rename_i places
    exact Literal.fraction numeral.visible before places behind

theorem Numeral.nearest?_decimal :
    numeral.decimal.nearest? =
      Magnitude.nearest? (ofDigits (numeral.whole ++ numeral.fraction) * unitsPerOne)
        (10 ^ numeral.fraction.length) := by
  have cleared : -(numeral.fraction.length : Int) + numeral.fraction.length = (0 : Nat) := by
    rw [neg_add_cancel]
    rfl
  rw [decimal, Decimal.nearest?_over _ _ 0 _ cleared, pow_zero, mul_one]

theorem Numeral.value_over :
    ((ofDigits (numeral.whole ++ numeral.fraction) * unitsPerOne : Nat) : ℚ) /
      ((10 ^ numeral.fraction.length : Nat) * unitsPerOne) = numeral.value := by
  rw [value_eq, Nat.cast_mul, mul_div_mul_right _ _ Magnitude.unitsPerOne_ne_zero, Nat.cast_pow,
    Nat.cast_ofNat]

theorem Numeral.nearest?_eq_some_iff (size : Magnitude) :
    numeral.decimal.nearest? = some size ↔
      numeral.value < overflowBound ∧ size.IsNearest numeral.value := by
  have scale : 0 < 10 ^ numeral.fraction.length := Nat.pow_pos (by decide)
  rw [nearest?_decimal, Magnitude.nearest?_eq_some_iff _ scale, value_over]

theorem Numeral.nearest?_eq_none_iff :
    numeral.decimal.nearest? = none ↔ overflowBound ≤ numeral.value := by
  have scale : 0 < 10 ^ numeral.fraction.length := Nat.pow_pos (by decide)
  rw [nearest?_decimal, Magnitude.nearest?_eq_none_iff _ scale, value_over]

theorem Numeral.nearest?_padded (front behind : Nat) :
    (numeral.padded front behind).decimal.nearest? = numeral.decimal.nearest? := by
  apply Option.ext
  intro size
  rw [nearest?_eq_some_iff, nearest?_eq_some_iff, value_padded]

theorem Numeral.readNumber_eq_ok_iff (position : Nat) (token : Token) :
    readNumber numeral.text position = .ok token ↔
      ∃ size, numeral.decimal.nearest? = some size ∧ token = .number (.finite false size) := by
  simp only [readNumber, ofLiteral?_of_literal numeral.literal]
  cases numeral.decimal.nearest? <;> simp [eq_comm]

theorem Numeral.readNumber_eq_error_iff (position : Nat) :
    readNumber numeral.text position = .error ⟨.outOfRange, numeral.text, position⟩ ↔
      overflowBound ≤ numeral.value := by
  rw [← numeral.nearest?_eq_none_iff]
  simp only [readNumber, ofLiteral?_of_literal numeral.literal]
  cases numeral.decimal.nearest? <;> simp

end Reading

section Scanning

variable {blanks run back : List Char} {decimal : Decimal}

theorem Scanner.next_literal (start : Nat) (finished : Bool)
    (before : ∀ c ∈ blanks, isBlank c = true) (literal : Literal run decimal)
    (behind : Ends isNumeral back) :
    Scanner.next ⟨start, blanks ++ (run ++ back), finished⟩ =
      (readNumber run (start + blanks.length),
        ⟨start + blanks.length + run.length, back, finished⟩) := by
  obtain ⟨⟨c, rest, rfl, digit⟩, numerals⟩ := literal.shape
  have visible : Ends isBlank (c :: rest ++ back) := by
    intro d head
    cases head
    exact isNumeral_not_blank (isNumeral_of_isDigit digit)
  have taken := takeWhile_run numerals behind
  have left := dropWhile_run numerals behind
  simp only [Scanner.next, Scanner.skipBlanks, Scanner.skip, takeWhile_run before visible,
    dropWhile_run before visible]
  rw [List.cons_append] at taken left ⊢
  simp only [Scanner.token, digit, ↓reduceIte, Scanner.number, Scanner.skip, taken, left]

/-- A scanner in front of a literal, with or without blanks between, reads the nearest double
from it when its exact value is below the bound, and otherwise refuses it with its text and
its place; both ways it stands behind the literal afterwards. Zeros in front of a literal
and behind its last place make no difference to the token. What the parser makes of tokens
holds finite numbers without a sign. -/
theorem Scanner.next_correctly_rounded (numeral : Numeral) (start : Nat) (finished : Bool)
    (before : ∀ c ∈ blanks, isBlank c = true) (behind : Ends isNumeral back) :
    let scanner (numeral : Numeral) : Scanner :=
      ⟨start, blanks ++ (numeral.text ++ back), finished⟩
    let place := start + blanks.length
    let after : Scanner := ⟨place + numeral.text.length, back, finished⟩
    (∀ size, (scanner numeral).next = (.ok (.number (.finite false size)), after) ↔
      numeral.value < overflowBound ∧ size.IsNearest numeral.value) ∧
    ((∃ size, (scanner numeral).next = (.ok (.number (.finite false size)), after)) ↔
      numeral.value < overflowBound) ∧
    ((scanner numeral).next = (.error ⟨.outOfRange, numeral.text, place⟩, after) ↔
      overflowBound ≤ numeral.value) ∧
    (∀ front trailing token, (scanner (numeral.padded front trailing)).next.1 = .ok token ↔
      (scanner numeral).next.1 = .ok token) ∧
    ∀ text tree, parse text = .ok tree →
      ∀ value ∈ tree.leaves, ∃ size, value = .finite false size := by
  intro scanner place after
  have next (numeral : Numeral) :=
    Scanner.next_literal start finished before numeral.literal behind
  have reads : ∀ size, (scanner numeral).next = (.ok (.number (.finite false size)), after) ↔
      numeral.decimal.nearest? = some size := by
    intro size
    simp only [scanner, after, place, next, Prod.mk.injEq, and_true,
      numeral.readNumber_eq_ok_iff]
    simp [eq_comm]
  refine ⟨?_, ?_, ?_, ?_, ?_⟩
  · intro size
    rw [reads, numeral.nearest?_eq_some_iff]
  · simp only [reads]
    rw [← Option.isSome_iff_exists, ← Option.ne_none_iff_isSome, ne_eq,
      numeral.nearest?_eq_none_iff, not_le]
  · simp only [scanner, after, place, next, Prod.mk.injEq, and_true]
    exact numeral.readNumber_eq_error_iff _
  · intro front trailing token
    simp only [scanner, next, Numeral.readNumber_eq_ok_iff, Numeral.nearest?_padded]
  · intro text tree parsed
    exact parse_leaves parsed

-- 2^53 + 1 is half way between two doubles, and the even one is below; a last digit four
-- hundred places behind the point is enough to go up.
theorem Scanner.next_correctly_rounded_tie :
    let half := ['9', '0', '0', '7', '1', '9', '9', '2', '5', '4', '7', '4', '0', '9', '9', '3']
    let tie : Numeral := ⟨half, [], by decide, List.all_eq_true.mp (by decide +kernel)⟩
    let beyond : Numeral :=
      ⟨half, zeros 399 ++ ['1'], by decide, List.all_eq_true.mp (by decide +kernel)⟩
    let nines : Numeral :=
      ⟨List.replicate 400 '9', [], by decide, List.all_eq_true.mp (by decide +kernel)⟩
    (∀ c ∈ [' '], isBlank c = true) ∧ Ends isNumeral [')'] ∧
    (tie.value < overflowBound ∧ Magnitude.IsNearest ⟨2 ^ 52, 1075, by decide⟩ tie.value) ∧
    (beyond.value < overflowBound ∧
      Magnitude.IsNearest ⟨2 ^ 52 + 1, 1075, by decide⟩ beyond.value) ∧
    overflowBound ≤ nines.value := by
  intro half tie beyond nines
  have before : ∀ c ∈ [' '], isBlank c = true := List.all_eq_true.mp (by decide +kernel)
  have behind : Ends isNumeral [')'] := by
    intro c head
    cases head
    decide
  refine ⟨before, behind, ?_, ?_, ?_⟩
  · apply ((Scanner.next_correctly_rounded tie 3 false before behind).1 _).mp
    decide +kernel
  · apply ((Scanner.next_correctly_rounded beyond 3 false before behind).1 _).mp
    decide +kernel
  · obtain ⟨_, _, refused, _⟩ := Scanner.next_correctly_rounded nines 3 false before behind
    apply refused.mp
    decide +kernel

end Scanning

end Reckon
