import Mathlib
import Reckon.Proofs.Integers

/-!
Which doubles have a 64-bit integer, and which integer that is. The range is checked on
the integer that is left when the fraction has been dropped, so a number less than one
below -2^63 would pass as well. There is no such double: beyond 2^63 doubles are 2048
apart. So the check admits exactly the doubles from -2^63 up to, and without, 2^63.
-/

namespace Reckon

structure IsTruncation (whole : Int) (number : ℚ) : Prop where
  inside : |(whole : ℚ)| ≤ |number|
  beyond : |number| < |(whole : ℚ)| + 1
  side : 0 ≤ whole * number

namespace IsTruncation

variable {whole other : Int} {number : ℚ}

theorem floor_abs (truncation : IsTruncation whole number) : ⌊|number|⌋ = |whole| := by
  rw [Int.floor_eq_iff, Int.cast_abs]
  exact ⟨truncation.inside, truncation.beyond⟩

-- The size is fixed by the floor, and the sign by the side unless the size is zero.
theorem unique (first : IsTruncation whole number) (second : IsTruncation other number) :
    whole = other := by
  have size : |whole| = |other| := first.floor_abs.symm.trans second.floor_abs
  rcases abs_eq_abs.mp size with same | opposite
  · exact same
  · have side := second.side
    have least := first.inside
    have level : whole * number = 0 := by
      apply le_antisymm _ first.side
      rw [opposite]
      push_cast
      linarith
    have none : whole = 0 := by
      rcases mul_eq_zero.mp level with zero | zero
      · exact_mod_cast zero
      · rw [zero, abs_zero] at least
        exact_mod_cast abs_nonpos_iff.mp least
    omega

end IsTruncation

namespace Magnitude

variable {magnitude : Magnitude}

theorem value_ceiling : ceiling.value = 2 ^ 63 := by
  rw [value, units_ceiling, Nat.cast_mul, mul_div_cancel_right₀ _ unitsPerOne_ne_zero]
  norm_num

theorem value_summit : summit.value = 2 ^ 63 - 1024 := by
  rw [value, units_summit, Nat.cast_mul, mul_div_cancel_right₀ _ unitsPerOne_ne_zero]
  norm_num

theorem value_le_iff {other : Magnitude} :
    magnitude.value ≤ other.value ↔ magnitude.units ≤ other.units := by
  rw [← not_lt, value_lt_iff, not_lt]

theorem whole_lt_iff : magnitude.units / unitsPerOne < 2 ^ 63 ↔ magnitude.value < 2 ^ 63 := by
  rw [Nat.div_lt_iff_lt_mul unitsPerOne_pos, ← units_ceiling, ← value_ceiling, value_lt_iff]

-- The next magnitude above 2^63 has a larger integer already.
theorem whole_le_iff : magnitude.units / unitsPerOne ≤ 2 ^ 63 ↔ magnitude.value ≤ 2 ^ 63 := by
  rw [← value_ceiling, value_le_iff]
  constructor
  · intro small
    by_contra beyond
    have gap := spacing_above (Nat.lt_of_not_le beyond)
    have fraction := Nat.lt_mul_of_div_lt (Nat.lt_succ_of_le small) unitsPerOne_pos
    rw [units_ceiling, spacing_ceiling] at gap
    omega
  · intro within
    rw [units_ceiling] at within
    exact magnitude.whole_le within

/-- No magnitude lies between the summit and 2^63. -/
theorem value_le_summit (below : magnitude.value < 2 ^ 63) : magnitude.value ≤ summit.value := by
  rw [← value_ceiling, value_lt_iff] at below
  rw [value_le_iff]
  by_contra beyond
  have gap := spacing_above (Nat.lt_of_not_le beyond)
  rw [units_summit, spacing_summit] at gap
  rw [units_ceiling] at below
  omega

theorem abs_signed (negative : Bool) (magnitude : Magnitude) :
    |magnitude.signed negative| = magnitude.value := by
  have nonneg := magnitude.value_nonneg
  cases negative with
  | false => exact abs_of_nonneg nonneg
  | true => exact (abs_neg _).trans (abs_of_nonneg nonneg)

end Magnitude

namespace Double

def value? : Double → Option ℚ
  | .finite negative magnitude => some (magnitude.signed negative)
  | _ => none

theorem truncate_isTruncation (negative : Bool) (magnitude : Magnitude) :
    IsTruncation (truncate negative magnitude) (magnitude.signed negative) := by
  have size : |(truncate negative magnitude : ℚ)| = (magnitude.units / unitsPerOne : Nat) := by
    rw [← Int.cast_abs, Int.abs_eq_natAbs, truncate_natAbs, Int.cast_natCast]
  have floor : ⌊magnitude.value⌋₊ = magnitude.units / unitsPerOne :=
    Nat.floor_div_eq_div magnitude.units unitsPerOne
  have nonneg := magnitude.value_nonneg
  refine ⟨?_, ?_, ?_⟩
  · rw [size, Magnitude.abs_signed, ← floor]
    exact Nat.floor_le nonneg
  · rw [size, Magnitude.abs_signed, ← floor]
    exact Nat.lt_floor_add_one magnitude.value
  · have product : (0 : ℚ) ≤ (magnitude.units / unitsPerOne : Nat) * magnitude.value :=
      mul_nonneg (Nat.cast_nonneg _) nonneg
    cases negative with
    | false => exact product
    | true =>
        rw [truncate_true, Magnitude.signed, if_pos rfl]
        push_cast
        rw [neg_mul_neg]
        exact_mod_cast product

/-- The check on the integer is a check on the double. -/
theorem within_truncate_iff (negative : Bool) (magnitude : Magnitude) :
    Within 63 (truncate negative magnitude) ↔
      -2 ^ 63 ≤ magnitude.signed negative ∧ magnitude.signed negative < 2 ^ 63 := by
  have nonneg := magnitude.value_nonneg
  cases negative with
  | false =>
      change _ ↔ -2 ^ 63 ≤ magnitude.value ∧ magnitude.value < 2 ^ 63
      rw [truncate_false, ← Magnitude.whole_lt_iff]
      generalize magnitude.units / unitsPerOne = count
      unfold Within
      constructor
      · rintro ⟨_, upper⟩
        exact ⟨by linarith, by omega⟩
      · rintro ⟨_, upper⟩
        constructor <;> omega
  | true =>
      change _ ↔ -2 ^ 63 ≤ -magnitude.value ∧ -magnitude.value < 2 ^ 63
      rw [truncate_true, neg_le_neg_iff, ← Magnitude.whole_le_iff]
      generalize magnitude.units / unitsPerOne = count
      unfold Within
      constructor
      · rintro ⟨lower, _⟩
        exact ⟨by omega, by linarith⟩
      · rintro ⟨lower, _⟩
        constructor <;> omega

def admitted : Set ℚ := {value | ∃ x number, value? x = some value ∧ x.toInt64 = .ok number}

theorem mem_admitted {value : ℚ} :
    value ∈ admitted ↔ ∃ negative magnitude, Magnitude.signed negative magnitude = value ∧
      -2 ^ 63 ≤ value ∧ value < 2 ^ 63 := by
  constructor
  · rintro ⟨x, number, exact, converts⟩
    obtain ⟨negative, magnitude, rfl, rfl, range⟩ := toInt64_eq_ok.mp converts
    cases exact
    exact ⟨negative, magnitude, rfl, (within_truncate_iff negative magnitude).mp range⟩
  · rintro ⟨negative, magnitude, rfl, range⟩
    have within := (within_truncate_iff negative magnitude).mpr range
    exact ⟨.finite negative magnitude, _, rfl, toInt64_eq_ok.mpr ⟨_, _, rfl, rfl, within⟩⟩

theorem isGreatest_admitted : IsGreatest admitted (2 ^ 63 - 1024) := by
  constructor
  · exact mem_admitted.mpr ⟨false, .summit, Magnitude.value_summit, by norm_num, by norm_num⟩
  · intro value member
    obtain ⟨negative, magnitude, rfl, _, upper⟩ := mem_admitted.mp member
    cases negative with
    | false =>
        rw [← Magnitude.value_summit]
        exact Magnitude.value_le_summit upper
    | true =>
        have nonneg := magnitude.value_nonneg
        change -magnitude.value ≤ _
        linarith

theorem isLeast_admitted : IsLeast admitted (-2 ^ 63) := by
  constructor
  · refine mem_admitted.mpr ⟨true, .ceiling, ?_, le_refl _, by norm_num⟩
    exact congrArg Neg.neg Magnitude.value_ceiling
  · intro value member
    obtain ⟨_, _, _, lower, _⟩ := mem_admitted.mp member
    exact lower

end Double

/-- A double has a 64-bit integer exactly when it is finite and lies from -2^63 up to 2^63,
the upper end excluded, and then the integer is its only truncation. Any other double is
refused by name: nan and the infinities as not finite, the rest as outside the range. The
largest double that is accepted is 2^63 - 1024, the smallest -2^63. -/
theorem toInt64_exact :
    (∀ x : Double,
      ((∃ number, x.toInt64 = .ok number) ↔
        ∃ value, x.value? = some value ∧ -2 ^ 63 ≤ value ∧ value < 2 ^ 63) ∧
      (∀ number, x.toInt64 = .ok number →
        ∃ value, x.value? = some value ∧ ∀ whole, IsTruncation whole value ↔ whole = number) ∧
      (x.toInt64 = .error (.notFinite x) ↔ x.value? = none) ∧
      (x.toInt64 = .error (.outsideRange x) ↔
        ∃ value, x.value? = some value ∧ ¬ (-2 ^ 63 ≤ value ∧ value < 2 ^ 63)) ∧
      (EvalError.notFinite x).message =
        "bitwise operand " ++ String.ofList x.display ++ " is not finite" ∧
      (EvalError.outsideRange x).message =
        "bitwise operand " ++ String.ofList x.display ++ " is outside the 64-bit integer range") ∧
    IsGreatest Double.admitted (2 ^ 63 - 1024) ∧ IsLeast Double.admitted (-2 ^ 63) := by
  refine ⟨?_, Double.isGreatest_admitted, Double.isLeast_admitted⟩
  intro x
  cases x with
  | nan => refine ⟨?_, ?_, ?_, ?_, rfl, rfl⟩ <;> simp [Double.toInt64, Double.value?]
  | infinity negative => refine ⟨?_, ?_, ?_, ?_, rfl, rfl⟩ <;> simp [Double.toInt64, Double.value?]
  | finite negative magnitude =>
      have range := Double.within_truncate_iff negative magnitude
      refine ⟨?_, ?_, ?_, ?_, rfl, rfl⟩
      · simp [Double.toInt64_eq_ok, Double.value?, range]
      · intro number converts
        obtain ⟨_, _, same, rfl, _⟩ := Double.toInt64_eq_ok.mp converts
        cases same
        have truncation := Double.truncate_isTruncation negative magnitude
        refine ⟨_, rfl, fun whole => ⟨fun other => other.unique truncation, ?_⟩⟩
        rintro rfl
        exact truncation
      · rw [Double.toInt64_eq_error]
        constructor
        · rintro ⟨⟩
        · rintro ⟨⟩
      · rw [Double.toInt64_eq_error]
        constructor
        · rintro (_ | _ | ⟨_, _, outside⟩)
          exact ⟨_, rfl, range.not.mp outside⟩
        · rintro ⟨value, exact, outside⟩
          cases exact
          exact .outside negative magnitude (range.not.mpr outside)

/-- Minus three and a half goes up to minus three, and the smallest positive double down to
zero. -/
theorem toInt64_exact_fractions :
    let x : Double := .divide (.ofInt (-7)) (.ofInt 2)
    let least : Double := .finite false ⟨1, 0, by decide⟩
    x.toInt64 = .ok (-3) ∧ least.toInt64 = .ok 0 ∧
    (∃ value, x.value? = some value ∧ ∀ whole, IsTruncation whole value ↔ whole = -3) ∧
    ∃ value, least.value? = some value ∧ ∀ whole, IsTruncation whole value ↔ whole = 0 := by
  intro x least
  have first : x.toInt64 = .ok (-3) := by decide +kernel
  have second : least.toInt64 = .ok 0 := by decide +kernel
  exact ⟨first, second, (toInt64_exact.1 x).2.1 _ first, (toInt64_exact.1 least).2.1 _ second⟩

end Reckon
