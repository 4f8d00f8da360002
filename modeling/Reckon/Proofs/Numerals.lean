import Mathlib
import Reckon.Proofs.Lexemes
import Reckon.Proofs.ReadBack

/-!
Numbers written out in full. A decimal without an exponent is one run of digits with
at most one point, the scanner takes all of it, and what it reads is the decimal's
own value. So the plain text of a positive number is its token.
-/

namespace Reckon

section Digits

theorem digitChar_isDigit {digit : Nat} (small : digit < 10) : (digitChar digit).isDigit = true := by
  interval_cases digit <;> decide

theorem digitValue_digitChar {digit : Nat} (small : digit < 10) :
    digitValue (digitChar digit) = digit := by
  interval_cases digit <;> decide

theorem digitsOf_isDigit (n : Nat) : ∀ c ∈ digitsOf n, c.isDigit = true := by
  fun_induction digitsOf n with
  | case1 n small =>
      intro c member
      rw [List.mem_singleton.mp member]
      exact digitChar_isDigit small
  | case2 n large ih =>
      intro c member
      rcases List.mem_append.mp member with earlier | last
      · exact ih c earlier
      · rw [List.mem_singleton.mp last]
        exact digitChar_isDigit (Nat.mod_lt n (by decide))

theorem digitsOf_ne_nil (n : Nat) : digitsOf n ≠ [] := by
  unfold digitsOf
  split <;> simp

theorem zeros_isDigit (count : Nat) : ∀ c ∈ zeros count, c.isDigit = true := by
  intro c member
  rw [List.eq_of_mem_replicate member]
  decide

theorem padded_isDigit (count n : Nat) : ∀ c ∈ zeros count ++ digitsOf n, c.isDigit = true := by
  intro c member
  exact (List.mem_append.mp member).elim (zeros_isDigit count c) (digitsOf_isDigit n c)

theorem ofDigits_snoc (digits : List Char) (c : Char) :
    ofDigits (digits ++ [c]) = 10 * ofDigits digits + digitValue c := by
  simp only [ofDigits, List.foldl_append, List.foldl_cons, List.foldl_nil]

theorem ofDigits_digitsOf (n : Nat) : ofDigits (digitsOf n) = n := by
  fun_induction digitsOf n with
  | case1 n small =>
      change 10 * 0 + digitValue (digitChar n) = n
      rw [digitValue_digitChar small]
      omega
  | case2 n large ih =>
      rw [ofDigits_snoc, ih, digitValue_digitChar (Nat.mod_lt n (by decide))]
      exact Nat.div_add_mod n 10

theorem ofDigits_zeros_append (count : Nat) (digits : List Char) :
    ofDigits (zeros count ++ digits) = ofDigits digits := by
  induction count with
  | zero => rfl
  | succ count ih => exact ih

theorem ofDigits_append_zeros (digits : List Char) (count : Nat) :
    ofDigits (digits ++ zeros count) = ofDigits digits * 10 ^ count := by
  induction count with
  | zero => simp [zeros]
  | succ count ih =>
      have more : digits ++ zeros (count + 1) = digits ++ zeros count ++ ['0'] := by
        simp [zeros, List.replicate_succ']
      have zero : digitValue '0' = 0 := by decide
      rw [more, ofDigits_snoc, ih, zero]
      ring

end Digits

structure Denotes (text : List Char) (magnitude : Magnitude) : Prop where
  starts : ∃ c rest, text = c :: rest ∧ c.isDigit = true
  numerals : ∀ c ∈ text, isNumeral c = true
  reads : ∃ decimal, Decimal.ofLiteral? text = some decimal ∧ decimal.nearest? = some magnitude

namespace Decimal

variable {whole fraction : List Char}

theorem denotes_withPoint {magnitude : Magnitude} (nonempty : whole ≠ [])
    (digits : ∀ c ∈ whole, c.isDigit = true) (digits' : ∀ c ∈ fraction, c.isDigit = true)
    (value : nearest? ⟨ofDigits (whole ++ fraction), -fraction.length⟩ = some magnitude) :
    Denotes (withPoint whole fraction) magnitude := by
  obtain ⟨c, rest, rfl⟩ := List.exists_cons_of_ne_nil nonempty
  have first := digits c List.mem_cons_self
  by_cases integral : fraction = []
  · subst integral
    rw [List.append_nil] at value
    exact ⟨⟨c, rest, rfl, first⟩, digits_numerals digits, _, ofLiteral?_whole digits nonempty, value⟩
  · have shape : withPoint (c :: rest) fraction = c :: rest ++ '.' :: fraction := if_neg integral
    have decimals : ¬ (fraction = [] ∨ fraction.all Char.isDigit = false) := by
      rw [not_or, Bool.not_eq_false]
      exact ⟨integral, List.all_eq_true.mpr digits'⟩
    rw [shape]
    refine ⟨⟨c, rest ++ '.' :: fraction, rfl, first⟩, ?_, _, ?_, value⟩
    · intro d member
      rcases List.mem_append.mp member with before | behind
      · exact digits_numerals digits d before
      · rcases List.mem_cons.mp behind with rfl | after
        · decide
        · exact digits_numerals digits' d after
    · rw [ofLiteral?_point digits nonempty, if_neg decimals]

theorem text_positional {layout : Layout} {decimal : Decimal}
    (positional : layout.positional decimal.leadingExponent = true) :
    decimal.text layout = withPoint decimal.split.1
      (if decimal.split.2 = [] ∧ layout.wholeHasPoint then ['0'] else decimal.split.2) := by
  rw [text, if_pos positional]

/-- A whole number may have zeros behind a point. -/
theorem denotes_whole {digits count : Nat} (behind : Nat) {magnitude : Magnitude}
    (value : nearest? ⟨digits, .ofNat count⟩ = some magnitude) :
    Denotes (withPoint (digitsOf digits ++ zeros count) (zeros behind)) magnitude := by
  have padded : ∀ c ∈ digitsOf digits ++ zeros count, c.isDigit = true := by
    intro c member
    exact (List.mem_append.mp member).elim (digitsOf_isDigit digits c) (zeros_isDigit count c)
  have nonempty : digitsOf digits ++ zeros count ≠ [] := by simp [digitsOf_ne_nil]
  have cleared : -((zeros behind).length : Int) + behind = (0 : Nat) := by simp [zeros]
  apply denotes_withPoint nonempty padded (zeros_isDigit behind)
  rw [← value, ofDigits_append_zeros, ofDigits_append_zeros, ofDigits_digitsOf,
    nearest?_over _ behind 0 _ cleared, nearest?_over digits behind (count + behind) _ rfl,
    pow_zero, mul_one, pow_add, ← mul_assoc]

theorem denotes_text (decimal : Decimal) {layout : Layout} {magnitude : Magnitude}
    (positional : layout.positional decimal.leadingExponent = true)
    (value : decimal.nearest? = some magnitude) : Denotes (decimal.text layout) magnitude := by
  obtain ⟨digits, exponent⟩ := decimal
  rw [text_positional positional]
  cases exponent with
  | ofNat count =>
      cases point : layout.wholeHasPoint with
      | false => simpa [split, zeros] using denotes_whole 0 value
      | true => simpa [split, zeros] using denotes_whole 1 value
  | negSucc count =>
      -- At least one digit stands before the point, because of the zeros in front.
      generalize front : zeros (count + 2 - (digitsOf digits).length) ++ digitsOf digits = padded
      have shape : split ⟨digits, .negSucc count⟩ =
          (padded.take (padded.length - (count + 1)), padded.drop (padded.length - (count + 1))) := by
        simp only [split, front]
      have all : ∀ c ∈ padded, c.isDigit = true := by
        rw [← front]
        exact padded_isDigit _ digits
      have long : count + 2 ≤ padded.length := by
        rw [← front, List.length_append, zeros, List.length_replicate]
        omega
      have places : (padded.drop (padded.length - (count + 1))).length = count + 1 := by
        rw [List.length_drop]
        omega
      have nonempty : padded.take (padded.length - (count + 1)) ≠ [] := by
        apply List.ne_nil_of_length_pos
        rw [List.length_take]
        omega
      have visible : padded.drop (padded.length - (count + 1)) ≠ [] :=
        List.ne_nil_of_length_eq_add_one places
      rw [shape, if_neg (fun none => visible none.1)]
      apply denotes_withPoint nonempty
      · exact fun c member => all c (List.mem_of_mem_take member)
      · exact fun c member => all c (List.mem_of_mem_drop member)
      · rw [List.take_append_drop, places, ← front, ofDigits_zeros_append, ofDigits_digitsOf]
        exact value

end Decimal

theorem Magnitude.denotes_shortest (magnitude : Magnitude) :
    Denotes (magnitude.shortest.text .plain) magnitude :=
  magnitude.shortest.denotes_text rfl magnitude.nearest?_shortest

theorem Denotes.feed_eq {text rest : List Char} {magnitude : Magnitude}
    (denotes : Denotes text magnitude) (ends : Ends isNumeral rest) (position : Nat)
    (finished : Bool) :
    Scanner.feed ⟨position, text ++ rest, finished⟩ =
      .token (.number (.finite false magnitude)) (position + text.length)
        (Scanner.feed ⟨position + text.length, rest, finished⟩) := by
  have taken := takeWhile_run denotes.numerals ends
  have left := dropWhile_run denotes.numerals ends
  obtain ⟨decimal, literal, value⟩ := denotes.reads
  have read : readNumber text position = .ok (.number (.finite false magnitude)) := by
    simp only [readNumber, literal, value]
  obtain ⟨c, behind, rfl, digit⟩ := denotes.starts
  rw [List.cons_append] at taken left ⊢
  rw [Scanner.feed_number position (behind ++ rest) finished digit, taken, left, read]
  rfl

end Reckon
