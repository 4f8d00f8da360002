import Mathlib
import Reckon.Decimal.Reading
import Reckon.Proofs.Literals

/-!
Written numbers read back. In every layout, with an exponent or without, the text of a
double is read as that double again, the sign of a zero included. So two doubles with
the same text are the same double. No text of a number holds a closing parenthesis.
-/

namespace Reckon

section Exponents

theorem length_digitsOf (n : Nat) : (digitsOf n).length = digitCount n := by
  fun_induction digitsOf n with
  | case1 n small => rw [digitCount, if_pos small]; rfl
  | case2 n large ih => rw [digitCount, if_neg large, List.length_append, ih]; rfl

theorem natural?_padded (count n : Nat) :
    signedInt?.natural? (zeros count ++ digitsOf n) = some n := by
  have visible : zeros count ++ digitsOf n ≠ [] := by simp [digitsOf_ne_nil]
  have all := List.all_eq_true.mpr (padded_isDigit count n)
  rw [signedInt?.natural?, if_pos ⟨visible, all⟩, ofDigits_zeros_append, ofDigits_digitsOf]

theorem signedInt?_exponentText (exponent : Int) :
    signedInt? (exponentText exponent) = some exponent := by
  unfold exponentText
  by_cases negative : exponent < 0
  · have size : -(exponent.natAbs : Int) = exponent := by omega
    rw [if_pos negative, signedInt?, natural?_padded]
    exact congrArg some size
  · have size : (exponent.natAbs : Int) = exponent := by omega
    rw [if_neg negative, signedInt?, natural?_padded]
    exact congrArg some size

theorem exponentText_unclosed (exponent : Int) : ')' ∉ exponentText exponent := by
  intro member
  rcases List.mem_cons.mp member with sign | digit
  · split at sign <;> cases sign
  · exact absurd (padded_isDigit _ _ _ digit) (by decide)

end Exponents

structure Displays (text : List Char) (magnitude : Magnitude) : Prop where
  starts : ∃ c rest, text = c :: rest ∧ c.isDigit = true
  unclosed : ')' ∉ text
  reads : ∃ decimal, Decimal.read? text = some decimal ∧ decimal.nearest? = some magnitude

namespace Decimal

variable {literal : List Char}

theorem numerals_plain (numerals : ∀ c ∈ literal, isNumeral c = true) :
    ∀ c ∈ literal, (c != 'e') = true := by
  intro c member
  rw [bne_iff_ne]
  rintro rfl
  exact absurd (numerals _ member) (by decide)

theorem read?_literal (numerals : ∀ c ∈ literal, isNumeral c = true) :
    read? literal = ofLiteral? literal := by
  have taken := List.takeWhile_eq_self_iff.mpr (numerals_plain numerals)
  have left := List.dropWhile_eq_nil_iff.mpr (numerals_plain numerals)
  simp only [read?, taken, left]

theorem read?_exponent (numerals : ∀ c ∈ literal, isNumeral c = true) {decimal : Decimal}
    (reads : ofLiteral? literal = some decimal) (exponent : Int) :
    read? (literal ++ 'e' :: exponentText exponent) =
      some ⟨decimal.digits, decimal.exponent + exponent⟩ := by
  have plain := numerals_plain numerals
  have ends := mark_ends 'e' (exponentText exponent)
  simp only [read?, takeWhile_run plain ends, dropWhile_run plain ends, reads,
    signedInt?_exponentText]
  rfl

end Decimal

theorem Denotes.displays {text : List Char} {magnitude : Magnitude} (denotes : Denotes text magnitude) :
    Displays text magnitude where
  starts := denotes.starts
  unclosed := fun member => absurd (denotes.numerals _ member) (by decide)
  reads := by
    rw [Decimal.read?_literal denotes.numerals]
    exact denotes.reads

namespace Decimal

variable {decimal : Decimal} {layout : Layout} {magnitude : Magnitude}

def leadingNumeral (decimal : Decimal) : Numeral where
  whole := (digitsOf decimal.digits).take 1
  fraction := (digitsOf decimal.digits).drop 1
  visible := by simp [digitsOf_ne_nil]
  digits := by
    rw [List.take_append_drop]
    exact digitsOf_isDigit decimal.digits

theorem leadingNumeral_decimal (decimal : Decimal) :
    decimal.leadingNumeral.decimal = ⟨decimal.digits, 1 - digitCount decimal.digits⟩ := by
  have one := digitCount_pos decimal.digits
  simp only [Numeral.decimal, leadingNumeral, List.take_append_drop, ofDigits_digitsOf,
    List.length_drop, length_digitsOf, Decimal.mk.injEq, true_and]
  omega

theorem text_scientific (scientific : layout.positional decimal.leadingExponent = false) :
    decimal.text layout =
      decimal.leadingNumeral.text ++ 'e' :: exponentText decimal.leadingExponent := by
  rw [text, if_neg (Bool.eq_false_iff.mp scientific)]
  rfl

theorem displays_scientific (scientific : layout.positional decimal.leadingExponent = false)
    (value : decimal.nearest? = some magnitude) : Displays (decimal.text layout) magnitude := by
  have literal := decimal.leadingNumeral.literal
  obtain ⟨⟨c, rest, start, digit⟩, numerals⟩ := literal.shape
  have reads := read?_exponent numerals (ofLiteral?_of_literal literal) decimal.leadingExponent
  have back : (1 - digitCount decimal.digits : Int) + decimal.leadingExponent = decimal.exponent := by
    rw [leadingExponent]
    omega
  rw [leadingNumeral_decimal, back] at reads
  rw [text_scientific scientific]
  refine ⟨⟨c, rest ++ 'e' :: exponentText decimal.leadingExponent, ?_, digit⟩, ?_, _, reads, value⟩
  · rw [start, List.cons_append]
  · rw [List.mem_append, List.mem_cons, not_or, not_or]
    exact ⟨fun member => absurd (numerals _ member) (by decide), by decide,
      exponentText_unclosed decimal.leadingExponent⟩

end Decimal

theorem Magnitude.displays_shortest (magnitude : Magnitude) (layout : Layout) :
    Displays (magnitude.shortest.text layout) magnitude := by
  cases form : layout.positional magnitude.shortest.leadingExponent with
  | true => exact (magnitude.shortest.denotes_text form magnitude.nearest?_shortest).displays
  | false => exact Decimal.displays_scientific form magnitude.nearest?_shortest

namespace Double

theorem unsigned?_displays {text : List Char} {magnitude : Magnitude} (written : Displays text magnitude)
    (negative : Bool) : read?.unsigned? negative text = some (.finite negative magnitude) := by
  obtain ⟨decimal, reads, value⟩ := written.reads
  obtain ⟨c, rest, rfl, digit⟩ := written.starts
  unfold read?.unsigned?
  split
  · rename_i word
    cases word
    cases digit
  · rename_i word
    cases word
    cases digit
  · rw [reads, Option.map_some, ofDecimal, value]

/-- A double is read back from its text in every layout. -/
theorem read?_text (layout : Layout) (x : Double) : read? (x.text layout) = some x := by
  cases x with
  | nan => rfl
  | infinity negative => cases negative <;> rfl
  | finite negative magnitude =>
      have written := magnitude.displays_shortest layout
      have unsigned := unsigned?_displays written negative
      cases negative with
      | true => exact unsigned
      | false =>
          obtain ⟨c, rest, start, digit⟩ := written.starts
          rw [text, signText, if_neg Bool.false_ne_true, List.nil_append]
          rw [start] at unsigned ⊢
          unfold read?
          split
          · rename_i sign
            cases sign
            cases digit
          · exact unsigned

theorem text_injective (layout : Layout) : Function.Injective (text layout) := by
  intro x y same
  have back := read?_text layout x
  rw [same, read?_text layout y] at back
  exact (Option.some.inj back).symm

theorem text_unclosed (layout : Layout) (x : Double) : ')' ∉ x.text layout := by
  cases x with
  | nan => simp [text]
  | infinity negative => cases negative <;> simp [text, signText]
  | finite negative magnitude =>
      have written := (magnitude.displays_shortest layout).unclosed
      cases negative <;> simpa [text, signText] using written

end Double

end Reckon
