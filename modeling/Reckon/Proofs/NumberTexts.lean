import Mathlib
import Reckon.Proofs.Display
import Reckon.Proofs.FewestDigits
import Reckon.Proofs.FrontEnds
import Reckon.Proofs.MaximalMunch
import Reckon.Proofs.Outlines

/-!
The texts of a number. Inside an expression it is written out in full: no zero stands in
front that is not needed, none stands at the end of the fraction, and the digits between
are the fewest that read back. Results, messages and outlines may give it an exponent or
a point and a zero more, but the significant digits are the same in every layout.
-/

namespace Reckon

/-- The digits of a written number between the zeros at its ends. A sign, a point and an
exponent do not count. -/
def significantDigits (text : List Char) : List Char :=
  Text.trimBy (· = '0') ((text.takeWhile (· != 'e')).filter Char.isDigit)

section Trim

variable {drop : Char → Bool}

theorem trimBy_front {front : List Char} (all : ∀ c ∈ front, drop c = true) (text : List Char) :
    Text.trimBy drop (front ++ text) = Text.trimBy drop text := by
  unfold Text.trimBy
  rw [List.dropWhile_append_of_pos all]

-- What is left of the text after its front is dropped may be nothing at all.
theorem trimBy_behind {behind : List Char} (all : ∀ c ∈ behind, drop c = true)
    (text : List Char) : Text.trimBy drop (text ++ behind) = Text.trimBy drop text := by
  have back : ∀ c ∈ behind.reverse, drop c = true := by
    intro c member
    exact all c (List.mem_reverse.mp member)
  unfold Text.trimBy
  rw [List.dropWhile_append]
  split
  · rename_i nothing
    rw [List.isEmpty_iff.mp nothing, List.dropWhile_eq_nil_iff.mpr all]
  · rw [List.reverse_append, List.dropWhile_append_of_pos back]

/-- A text that has neither of its ends in the class stays as it is. -/
theorem trimBy_eq_self {text : List Char} (first : Ends drop text)
    (last : Ends drop text.reverse) : Text.trimBy drop text = text := by
  rw [Text.trimBy, first.dropWhile, last.dropWhile, List.reverse_reverse]

end Trim

section Digits

theorem zeros_all (count : Nat) : ∀ c ∈ zeros count, decide (c = '0') = true := by
  intro c member
  rw [List.eq_of_mem_replicate member]
  rfl

theorem digitChar_ne_zero {digit : Nat} (small : digit < 10) (nonzero : digit ≠ 0) :
    digitChar digit ≠ '0' := by
  intro same
  have value := digitValue_digitChar small
  rw [same] at value
  exact nonzero value.symm

theorem digitsOf_zero : digitsOf 0 = ['0'] := by
  rw [digitsOf, if_pos (by decide)]
  decide

theorem digitsOf_head {n : Nat} (positive : 0 < n) : (digitsOf n).head? ≠ some '0' := by
  fun_induction digitsOf n with
  | case1 n small =>
      rw [List.head?_cons, ne_eq, Option.some.injEq]
      exact digitChar_ne_zero small positive.ne'
  | case2 n large ih =>
      rw [List.head?_append_of_ne_nil _ (digitsOf_ne_nil _)]
      exact ih (by omega)

theorem digitsOf_getLast (n : Nat) : (digitsOf n).getLast? = some (digitChar (n % 10)) := by
  unfold digitsOf
  split
  · rename_i small
    rw [List.getLast?_singleton, Nat.mod_eq_of_lt small]
  · exact List.getLast?_concat

theorem trimBy_digitsOf {n : Nat} (last : n % 10 ≠ 0) :
    Text.trimBy (· = '0') (digitsOf n) = digitsOf n := by
  have positive : 0 < n := Nat.pos_of_ne_zero fun zero => last (by rw [zero])
  apply trimBy_eq_self
  · intro c head
    apply decide_eq_false
    rintro rfl
    exact digitsOf_head positive head
  · intro c head
    rw [List.head?_reverse, digitsOf_getLast] at head
    apply decide_eq_false
    rintro rfl
    exact digitChar_ne_zero (Nat.mod_lt _ (by decide)) last (Option.some.inj head)

end Digits

namespace Numeral

variable (numeral : Numeral)

structure Tidy (numeral : Numeral) : Prop where
  front : numeral.whole = ['0'] ∨ numeral.whole.head? ≠ some '0'
  behind : numeral.fraction.getLast? ≠ some '0'

theorem filter_text : numeral.text.filter Char.isDigit = numeral.whole ++ numeral.fraction := by
  have before : numeral.whole.filter Char.isDigit = numeral.whole :=
    List.filter_eq_self.mpr fun c member => numeral.digits c (List.mem_append_left _ member)
  have behind : numeral.fraction.filter Char.isDigit = numeral.fraction :=
    List.filter_eq_self.mpr fun c member => numeral.digits c (List.mem_append_right _ member)
  unfold text Decimal.withPoint
  split
  · rename_i integral
    rw [before, integral, List.append_nil]
  · rw [List.filter_append, before, List.filter_cons_of_neg (by decide), behind]

theorem significantDigits_text {tail : List Char} (ends : Ends (· != 'e') tail) :
    significantDigits (numeral.text ++ tail) =
      Text.trimBy (· = '0') (numeral.whole ++ numeral.fraction) := by
  have plain := Decimal.numerals_plain numeral.literal.shape.2
  rw [significantDigits, takeWhile_run plain ends, filter_text]

end Numeral

namespace Decimal

section Split

theorem split_join (decimal : Decimal) : ∃ front behind,
    decimal.split.1 ++ decimal.split.2 =
      zeros front ++ (digitsOf decimal.digits ++ zeros behind) := by
  obtain ⟨digits, exponent⟩ := decimal
  cases exponent with
  | ofNat count => exact ⟨0, count, by simp [split, zeros]⟩
  | negSucc count => exact ⟨count + 2 - (digitsOf digits).length, 0, by simp [split, zeros]⟩

variable (digits count : Nat)

/-- Behind the point stand as many digits as the exponent asks for, and before it at least
one. -/
theorem split_places :
    (split ⟨digits, .negSucc count⟩).2.length = count + 1 ∧
      0 < (split ⟨digits, .negSucc count⟩).1.length := by
  simp only [split, List.length_drop, List.length_take, List.length_append, zeros,
    List.length_replicate]
  omega

theorem split_getLast :
    (split ⟨digits, .negSucc count⟩).2.getLast? = some (digitChar (digits % 10)) := by
  have places := (split_places digits count).1
  have visible := List.ne_nil_of_length_eq_add_one places
  simp only [split] at visible ⊢
  rw [List.getLast?_drop, if_neg (by simpa using visible),
    List.getLast?_append_of_ne_nil _ (digitsOf_ne_nil _), digitsOf_getLast]

end Split

def numeral (decimal : Decimal) : Numeral where
  whole := decimal.split.1
  fraction := decimal.split.2
  visible := by
    obtain ⟨digits, exponent⟩ := decimal
    cases exponent with
    | ofNat count => simp [split, digitsOf_ne_nil]
    | negSucc count => exact List.ne_nil_of_length_pos (split_places digits count).2
  digits := by
    obtain ⟨front, behind, join⟩ := decimal.split_join
    intro c member
    rw [join] at member
    rcases List.mem_append.mp member with zero | rest
    · exact zeros_isDigit front c zero
    · rcases List.mem_append.mp rest with digit | zero
      · exact digitsOf_isDigit decimal.digits c digit
      · exact zeros_isDigit behind c zero

variable (decimal : Decimal)

theorem numeral_value : decimal.numeral.value = decimal.value := by
  obtain ⟨digits, exponent⟩ := decimal
  rw [Numeral.value_eq, value]
  simp only [numeral]
  cases exponent with
  | ofNat count =>
      simp only [split, List.append_nil, ofDigits_append_zeros, ofDigits_digitsOf, List.length_nil,
        pow_zero, div_one, Nat.cast_mul, Nat.cast_pow, Nat.cast_ofNat, Int.ofNat_eq_natCast,
        zpow_natCast]
  | negSucc count =>
      rw [(split_places digits count).1]
      simp only [split, List.take_append_drop, ofDigits_zeros_append, ofDigits_digitsOf,
        zpow_negSucc, div_eq_mul_inv]

theorem text_plain : decimal.text .plain = decimal.numeral.text := by
  rw [text_positional rfl]
  simp [Layout.plain, Numeral.text, numeral]

/-- Where no exponent is written, a layout adds at most a point and a zero. -/
theorem text_padded {layout : Layout}
    (positional : layout.positional decimal.leadingExponent = true) :
    ∃ behind, decimal.text layout = (decimal.numeral.padded 0 behind).text := by
  rw [text_positional positional]
  split
  · rename_i integral
    exact ⟨1, by simp [Numeral.text, Numeral.padded, numeral, integral.1, zeros]⟩
  · exact ⟨0, by simp [Numeral.text, Numeral.padded, numeral, zeros]⟩

theorem significantDigits_text (layout : Layout) :
    significantDigits (decimal.text layout) = Text.trimBy (· = '0') (digitsOf decimal.digits) := by
  cases form : layout.positional decimal.leadingExponent with
  | true =>
      obtain ⟨more, shape⟩ := decimal.text_padded form
      obtain ⟨front, behind, join⟩ := decimal.split_join
      have digits := (decimal.numeral.padded 0 more).significantDigits_text (ends_nil _)
      rw [List.append_nil] at digits
      have whole : (decimal.numeral.padded 0 more).whole ++ (decimal.numeral.padded 0 more).fraction =
          zeros front ++ (digitsOf decimal.digits ++ zeros behind) ++ zeros more := by
        rw [← join]
        simp [Numeral.padded, numeral, zeros]
      rw [shape, digits, whole, trimBy_behind (zeros_all more), trimBy_front (zeros_all front),
        trimBy_behind (zeros_all behind)]
  | false =>
      rw [text_scientific form, Numeral.significantDigits_text _ (mark_ends 'e' _)]
      simp only [leadingNumeral, List.take_append_drop]

def Trimmed (decimal : Decimal) : Prop := decimal.digits % 10 ≠ 0 ∨ decimal = ⟨0, 0⟩

-- A number below one has exactly one zero before the point; a larger one starts with its
-- first digit.
theorem whole_tidy {digits count : Nat} (positive : 0 < digits) :
    (split ⟨digits, .negSucc count⟩).1 = ['0'] ∨
      (split ⟨digits, .negSucc count⟩).1.head? ≠ some '0' := by
  by_cases short : (digitsOf digits).length ≤ count + 1
  · left
    obtain ⟨fewer, many⟩ : ∃ fewer, count + 2 - (digitsOf digits).length = fewer + 1 :=
      ⟨count + 1 - (digitsOf digits).length, by omega⟩
    have length : (zeros (fewer + 1) ++ digitsOf digits).length - (count + 1) = 1 := by
      rw [List.length_append, zeros, List.length_replicate]
      omega
    simp only [split, many, length]
    rfl
  · right
    have none : count + 2 - (digitsOf digits).length = 0 := by omega
    have some_ : (digitsOf digits).length - (count + 1) ≠ 0 := by omega
    simp only [split, none, zeros, List.replicate_zero, List.nil_append, List.head?_take,
      if_neg some_]
    exact digitsOf_head positive

theorem Trimmed.tidy {decimal : Decimal} (trimmed : decimal.Trimmed) : decimal.numeral.Tidy := by
  rcases trimmed with last | rfl
  · have positive : 0 < decimal.digits := Nat.pos_of_ne_zero fun zero => last (by rw [zero])
    obtain ⟨digits, exponent⟩ := decimal
    cases exponent with
    | ofNat count =>
        refine ⟨Or.inr ?_, by simp [numeral, split]⟩
        simp only [numeral, split]
        rw [List.head?_append_of_ne_nil _ (digitsOf_ne_nil _)]
        exact digitsOf_head positive
    | negSucc count =>
        refine ⟨whole_tidy positive, ?_⟩
        simp only [numeral, split_getLast, ne_eq, Option.some.injEq]
        exact digitChar_ne_zero (Nat.mod_lt _ (by decide)) last
  · refine ⟨Or.inl ?_, by simp [numeral, split]⟩
    simp [numeral, split, digitsOf_zero, zeros]

end Decimal

namespace Magnitude

variable {magnitude : Magnitude}

theorem shortest_digits_pos (nonzero : magnitude ≠ .zero) : 0 < magnitude.shortest.digits := by
  apply Nat.pos_of_ne_zero
  intro none
  have rounds := (isShortest_shortest nonzero).rounds
  rw [Decimal.value, none, Nat.cast_zero, zero_mul] at rounds
  exact nonzero (eq_zero_of_rounded rounds)

theorem shortest_trimmed (magnitude : Magnitude) : magnitude.shortest.Trimmed := by
  by_cases zero : magnitude = .zero
  · right
    rw [shortest, if_pos zero]
  · left
    have positive := shortest_digits_pos zero
    obtain ⟨step, decimal, _, _, shape, _⟩ := shortest_found zero
    rw [shape] at positive ⊢
    exact decimal.trim_last (lt_of_lt_of_le positive decimal.trim_digits_le)

/-- The number of significant digits in any text of a magnitude is the least that reads
back. -/
theorem isShortest_numeral (magnitude : Magnitude) :
    magnitude.IsShortest (Text.trimBy (· = '0') (digitsOf magnitude.shortest.digits)).length
      magnitude.shortest.numeral.value := by
  rw [Decimal.numeral_value]
  by_cases zero : magnitude = .zero
  · have shape : magnitude.shortest = ⟨0, 0⟩ := by rw [shortest, if_pos zero]
    have nothing : Text.trimBy (· = '0') (digitsOf 0) = [] := by
      rw [digitsOf_zero]
      decide
    rw [shape, nothing, Decimal.value, Nat.cast_zero, zero_mul, zero]
    exact isShortest_zero
  · have positive := shortest_digits_pos zero
    have last : magnitude.shortest.digits % 10 ≠ 0 := by
      rcases magnitude.shortest_trimmed with last | none
      · exact last
      · rw [none] at positive
        exact absurd positive (Nat.lt_irrefl 0)
    rw [trimBy_digitsOf last, length_digitsOf]
    exact isShortest_shortest zero

theorem tokenize_plain (magnitude : Magnitude) :
    tokenize (Double.plain (.finite false magnitude)) =
      .ok [.number (.finite false magnitude), .finish] := by
  have feed := magnitude.denotes_shortest.feed_eq (ends_nil _) 0 false
  rw [List.append_nil, Scanner.feed_nil] at feed
  rw [tokenize_eq_outcome]
  exact congrArg Feed.outcome feed

end Magnitude

theorem Double.significantDigits_text (negative : Bool) (magnitude : Magnitude) (layout : Layout) :
    significantDigits ((Double.finite negative magnitude).text layout) =
      Text.trimBy (· = '0') (digitsOf magnitude.shortest.digits) := by
  rw [← Decimal.significantDigits_text magnitude.shortest layout]
  cases negative with
  | false => rfl
  | true => rfl

section Shown

/-- Every number of a tree stands in its outline. -/
theorem Tree.leafText_infix {α : Type} {leafText : α → List Char} {value : α} {tree : Tree α}
    (member : value ∈ tree.leaves) (indent : List Char) (depth : Nat) :
    leafText value <:+: tree.outlineBody indent leafText depth := by
  induction tree generalizing depth with
  | leaf other =>
      rw [List.mem_singleton.mp member]
      exact List.infix_refl _
  | negative operand ih =>
      have shape : outlineBody indent leafText depth (.negative operand) =
          (negativeLine ++ '\n' :: margin indent (depth + 1) .operand) ++
            (outlineBody indent leafText (depth + 1) operand ++ []) := by
        simp [outlineBody]
      rw [shape]
      exact (ih member (depth + 1)).trans (List.infix_append' _ _ _)
  | binary op left right ihLeft ihRight =>
      rcases List.mem_append.mp member with inLeft | inRight
      · rw [outlineBody, ← List.cons_append, ← List.append_assoc op.line]
        exact (ihLeft inLeft (depth + 1)).trans (List.infix_append' _ _ _)
      · have shape : outlineBody indent leafText depth (.binary op left right) =
            (op.line ++ '\n' :: margin indent (depth + 1) .left ++
              outlineBody indent leafText (depth + 1) left ++
                '\n' :: margin indent (depth + 1) .right) ++
              (outlineBody indent leafText (depth + 1) right ++ []) := by
          simp [outlineBody]
        rw [shape]
        exact (ihRight inRight (depth + 1)).trans (List.infix_append' _ _ _)

/-- The value is printed last, behind the outline if that is asked for. -/
theorem runOne_out {limits : Limits} (showTree : Bool) {source : String} {value : Double}
    (settled : verdict limits source = .ok value) :
    ∃ outline, (runOne limits showTree source).out =
      outline ++ String.ofList value.display ++ "\n" := by
  cases parsed : parseText limits source with
  | error error =>
      rw [verdict_of_refusal parsed] at settled
      cases settled
  | ok tree =>
      rw [verdict_of_parse parsed, mapError_eq_ok] at settled
      have shallow : tree.shallow limits.levels = .ok tree := shallow_of_evaluateWithin settled
      rw [runOne, parsed]
      cases showTree with
      | false => exact ⟨"", by simp only [Bool.false_eq_true, ↓reduceIte, settled]⟩
      | true =>
          refine ⟨String.ofList (Expr.outline tree [' ', ' ']) ++ "\n", ?_⟩
          simp only [↓reduceIte, shallow, Except.map, settled]

structure ShownAs (x : Double) (text : List Char) : Prop where
  token : (Token.number x).describe = "Num(" ++ String.ofList text ++ ")"
  outline : ∀ (tree : Expr) (indent : List Char), x ∈ tree.leaves →
    ['N', 'u', 'm', 'b', 'e', 'r', '('] ++ text ++ [')'] <:+: tree.outline indent
  result : ∀ (limits : Limits) (showTree : Bool) (source : String),
    verdict limits source = .ok x →
      ∃ before, (runOne limits showTree source).out = before ++ String.ofList text ++ "\n"

theorem shownAs_display (x : Double) : ShownAs x x.display where
  token := rfl
  outline := by
    intro tree indent member
    rw [← numberLine_eq, Expr.outline, Tree.outlineBy_eq]
    exact Tree.leafText_infix member indent 0
  result := fun _ showTree _ settled => runOne_out showTree settled

end Shown

/-- Inside an expression a number is digits, or digits, a point and digits, without a zero
that could be left out, and the scanner reads it back as one token. Its significant digits
are the fewest that round to it, and no number with so few of them that does is nearer. A
negative number has a minus before the text of its opposite. Messages, outlines and results
show every number by a text with the same significant digits. -/
theorem plain_shortest (magnitude : Magnitude) :
    let x : Double := .finite false magnitude
    let opposite : Double := .finite true magnitude
    (∃ numeral : Numeral, numeral.text = x.plain ∧ numeral.Tidy ∧
      magnitude.IsShortest (significantDigits x.plain).length numeral.value) ∧
    tokenize x.plain = .ok [.number x, .finish] ∧
    opposite.plain = '-' :: opposite.negate.plain ∧
    ∀ negative, ∃ text, ShownAs (.finite negative magnitude) text ∧
      Double.read? text = some (.finite negative magnitude) ∧
      significantDigits text = significantDigits x.plain := by
  intro x opposite
  have digits : significantDigits x.plain =
      Text.trimBy (· = '0') (digitsOf magnitude.shortest.digits) :=
    Double.significantDigits_text false magnitude .plain
  refine ⟨⟨magnitude.shortest.numeral, ?_, magnitude.shortest_trimmed.tidy, ?_⟩,
    magnitude.tokenize_plain, rfl, ?_⟩
  · exact (magnitude.shortest.text_plain).symm
  · rw [digits]
    exact magnitude.isShortest_numeral
  · intro negative
    refine ⟨Double.display (.finite negative magnitude), shownAs_display _,
      Double.read?_text .display _, ?_⟩
    rw [digits]
    exact Double.significantDigits_text negative magnitude .display

-- Of the decimals with one digit, 3e-324 to 7e-324 round to the smallest double, and it is
-- written as the one in the middle. The sum of a tenth and two tenths needs seventeen digits.
theorem plain_shortest_tight :
    let least : Magnitude := ⟨1, 0, by decide⟩
    let sum : Magnitude := ⟨5404319552844596, 1020, by decide⟩
    let three : Decimal := ⟨3, -324⟩
    three.value ∈ decimals 1 ∧ least.RoundedFrom three.value ∧
    (∃ numeral : Numeral, numeral.text = Double.plain (.finite false least) ∧
      |numeral.value - least.value| ≤ |three.value - least.value|) ∧
    Decimal.value ⟨3, -1⟩ ∈ decimals 1 ∧ ¬ sum.RoundedFrom (Decimal.value ⟨3, -1⟩) := by
  intro least sum three
  have one : (significantDigits (Double.plain (.finite false least))).length = 1 := by
    decide +kernel
  have seventeen : (significantDigits (Double.plain (.finite false sum))).length = 17 := by
    decide +kernel
  have written : three.value ∈ decimals 1 := ⟨three, by decide, rfl⟩
  have rounds : least.RoundedFrom three.value :=
    (three.nearest?_iff_rounded least).mp (by decide +kernel)
  have tenths : Decimal.value ⟨3, -1⟩ ∈ decimals 1 := ⟨⟨3, -1⟩, by decide, rfl⟩
  refine ⟨written, rounds, ?_, tenths, ?_⟩
  · obtain ⟨numeral, text, _, shortest⟩ := (plain_shortest least).1
    rw [one] at shortest
    exact ⟨numeral, text, shortest.nearest _ written rounds⟩
  · obtain ⟨numeral, _, _, shortest⟩ := (plain_shortest sum).1
    rw [seventeen] at shortest
    exact shortest.fewest 1 (by decide) _ tenths

end Reckon
