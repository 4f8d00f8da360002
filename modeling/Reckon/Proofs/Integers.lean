import Mathlib
import Reckon.Expr.Evaluate
import Reckon.Proofs.Nearest

/-!
Doubles as 64-bit integers and back. A double that has an integer has one of at most 53
bits, with zeros behind them; every integer of that kind is a double again, and the way
there and back changes nothing. Any other integer is rounded. Rounding does not pass a
double, so an integer of 64 bits stays one, except close below 2^63, where it becomes
2^63 itself.
-/

namespace Reckon

def Within (bits : Nat) (number : Int) : Prop :=
  -2 ^ bits ≤ number ∧ number < 2 ^ bits

theorem Within.natAbs_le {number : Int} (range : Within 63 number) : number.natAbs ≤ 2 ^ 63 := by
  obtain ⟨lower, upper⟩ := range
  omega

section Units

theorem exists_unitPlaces : ∃ places, places = 1074 ∧ unitsPerOne = 2 ^ places := by
  unfold unitsPerOne
  generalize 1074 = places
  exact ⟨places, rfl, rfl⟩

theorem two_pow_units {shift places : Nat} (apart : shift = 1074 + places) :
    2 ^ shift = 2 ^ places * unitsPerOne := by
  obtain ⟨unit, value, one⟩ := exists_unitPlaces
  rw [apart, ← value, one, Nat.pow_add, Nat.mul_comm]

end Units

namespace Magnitude

section Bits

/-- A significand that lacks leading bits takes them from the shift. -/
theorem exists_units {significand shift : Nat} (narrow : significand < 2 ^ 53)
    (range : shift ≤ 2045) :
    ∃ magnitude : Magnitude, magnitude.units = significand * 2 ^ shift := by
  induction shift generalizing significand with
  | zero => exact ⟨⟨significand, 0, narrow, range, Or.inr rfl⟩, rfl⟩
  | succ shift ih =>
      by_cases leading : 2 ^ 52 ≤ significand
      · exact ⟨⟨significand, shift + 1, narrow, range, Or.inl leading⟩, rfl⟩
      · obtain ⟨magnitude, same⟩ := ih (by omega : 2 * significand < 2 ^ 53) (by omega)
        refine ⟨magnitude, ?_⟩
        rw [same]
        ring

theorem exists_units_carried {significand shift : Nat} (narrow : significand ≤ 2 ^ 53)
    (range : shift < 2045) :
    ∃ magnitude : Magnitude, magnitude.units = significand * 2 ^ shift := by
  rcases Nat.lt_or_eq_of_le narrow with less | rfl
  · exact exists_units less range.le
  · obtain ⟨magnitude, same⟩ := exists_units (by decide : 2 ^ 52 < 2 ^ 53) range
    refine ⟨magnitude, ?_⟩
    rw [same, Nat.pow_succ]
    omega

-- With a large shift the quotient is exact; with a small one at most 53 bits are left.
theorem quotient_coarse {significand : Nat} (narrow : significand < 2 ^ 53) (shift scale : Nat) :
    ∃ places, 2 ^ places ∣ significand * 2 ^ shift / 2 ^ scale ∧
      significand * 2 ^ shift / 2 ^ scale < 2 ^ 53 * 2 ^ places := by
  have unit := Nat.two_pow_pos scale
  by_cases large : scale ≤ shift
  · obtain ⟨places, rfl⟩ := Nat.exists_eq_add_of_le large
    refine ⟨places, ?_⟩
    rw [Nat.pow_add, Nat.mul_left_comm, Nat.mul_div_cancel_left _ unit]
    exact ⟨Nat.dvd_mul_left _ _, Nat.mul_lt_mul_of_pos_right narrow (Nat.two_pow_pos _)⟩
  · refine ⟨0, one_dvd _, ?_⟩
    rw [pow_zero, Nat.mul_one, Nat.div_lt_iff_lt_mul unit]
    exact Nat.mul_lt_mul_of_lt_of_le narrow
      (Nat.pow_le_pow_right Nat.two_pos (Nat.le_of_not_le large)) unit

theorem nearest?_units (magnitude : Magnitude) : nearest? magnitude.units 1 = some magnitude :=
  nearest?_of_attracts Nat.one_pos (attracts_of_close Nat.one_pos (by omega) (by omega))

end Bits

section Order

variable {numerator : Nat} {magnitude limit : Magnitude}

theorem nearest?_offset_le (nearest : nearest? numerator 1 = some magnitude)
    (other : Magnitude) : magnitude.offset numerator 1 ≤ other.offset numerator 1 := by
  by_cases same : other = magnitude
  · rw [same]
  · exact ((attracts_of_nearest? Nat.one_pos nearest).offset_le Nat.one_pos same).1

/-- Rounding up does not pass a magnitude. -/
theorem nearest?_le (nearest : nearest? numerator 1 = some magnitude)
    (below : numerator ≤ limit.units) : magnitude.units ≤ limit.units := by
  have nearer := nearest?_offset_le nearest limit
  unfold offset at nearer
  omega

/-- Less than half way to the next magnitude, rounding goes no further than this one. -/
theorem nearest?_le_of_lt_half (nearest : nearest? numerator 1 = some magnitude)
    (below : 2 * numerator < 2 * limit.units + 2 ^ limit.shift) :
    magnitude.units ≤ limit.units := by
  by_contra beyond
  have gap := spacing_above (Nat.lt_of_not_le beyond)
  have nearer := nearest?_offset_le nearest limit
  unfold offset at nearer
  omega

end Order

section Edge

theorem whole_le (magnitude : Magnitude) {bound : Nat}
    (within : magnitude.units ≤ bound * unitsPerOne) :
    magnitude.units / unitsPerOne ≤ bound := by
  rw [Nat.mul_comm] at within
  exact Nat.div_le_of_le_mul within

def ceiling : Magnitude := ⟨Nat.pow 2 52, 1085, by decide⟩

def summit : Magnitude := ⟨Nat.pow 2 53 - 1, 1084, by decide⟩

theorem spacing_ceiling : 2 ^ ceiling.shift = 2 ^ 11 * unitsPerOne :=
  two_pow_units (by decide)

theorem spacing_summit : 2 ^ summit.shift = 2 ^ 10 * unitsPerOne :=
  two_pow_units (by decide)

theorem units_ceiling : ceiling.units = 2 ^ 63 * unitsPerOne := by
  rw [units_eq, spacing_ceiling, ← Nat.mul_assoc]
  congr 1

theorem units_summit : summit.units = (2 ^ 63 - 1024) * unitsPerOne := by
  rw [units_eq, spacing_summit, ← Nat.mul_assoc]
  congr 1

-- Below 2^63 doubles are 1024 apart, so the interval of 2^63 reaches down by 512.
theorem attracts_ceiling {number : Nat} (large : 2 ^ 63 - 512 ≤ number)
    (range : number ≤ 2 ^ 63) : ceiling.Attracts (number * unitsPerOne) 1 := by
  have edge : ceiling.significand = 2 ^ 52 ∧ 0 < ceiling.shift := ⟨rfl, by decide⟩
  have lower := Nat.mul_le_mul_right unitsPerOne large
  have upper := Nat.mul_le_mul_right unitsPerOne range
  have positive := unitsPerOne_pos
  unfold Attracts
  simp only [Nat.one_mul, spacing_ceiling]
  rw [if_pos edge, edge.1]
  omega

theorem nearest?_le_summit {number : Nat} {magnitude : Magnitude}
    (nearest : nearest? (number * unitsPerOne) 1 = some magnitude)
    (small : number < 2 ^ 63 - 512) : magnitude.units ≤ summit.units := by
  apply nearest?_le_of_lt_half nearest
  have lower := Nat.mul_lt_mul_of_pos_right small unitsPerOne_pos
  rw [units_summit, spacing_summit]
  omega

end Edge

end Magnitude

namespace Double

def Holds (x : Double) (number : Int) : Prop :=
  ∃ negative magnitude, x = .finite negative magnitude ∧
    signedUnits negative magnitude = number * unitsPerOne

/-- What no integer of 64 bits stands for, and the failure that names it. -/
inductive Unfit : Double → EvalError → Prop
  | nan : Unfit .nan (.notFinite .nan)
  | infinity (negative : Bool) : Unfit (.infinity negative) (.notFinite (.infinity negative))
  | outside (negative : Bool) (magnitude : Magnitude)
      (range : ¬ Within 63 (truncate negative magnitude)) :
      Unfit (.finite negative magnitude) (.outsideRange (.finite negative magnitude))

section Truncation

variable {x : Double} {number : Int}

theorem toInt64_finite (negative : Bool) (magnitude : Magnitude) :
    (finite negative magnitude).toInt64 =
      if -2 ^ 63 ≤ truncate negative magnitude ∧ truncate negative magnitude < 2 ^ 63 then
        .ok (truncate negative magnitude)
      else .error (.outsideRange (.finite negative magnitude)) := rfl

theorem toInt64_eq_ok :
    x.toInt64 = .ok number ↔
      ∃ negative magnitude, x = .finite negative magnitude ∧
        truncate negative magnitude = number ∧ Within 63 number := by
  constructor
  · intro converts
    cases x with
    | nan => cases converts
    | infinity negative => cases converts
    | finite negative magnitude =>
        rw [toInt64_finite] at converts
        split at converts
        · rename_i range
          cases converts
          exact ⟨negative, magnitude, rfl, rfl, range⟩
        · cases converts
  · rintro ⟨negative, magnitude, rfl, rfl, range⟩
    rw [toInt64_finite]
    exact if_pos range

theorem toInt64_eq_error {error : EvalError} : x.toInt64 = .error error ↔ x.Unfit error := by
  constructor
  · intro fails
    cases x with
    | nan =>
        cases fails
        exact .nan
    | infinity negative =>
        cases fails
        exact .infinity negative
    | finite negative magnitude =>
        rw [toInt64_finite] at fails
        split at fails
        · cases fails
        · rename_i range
          cases fails
          exact .outside negative magnitude range
  · rintro (_ | negative | ⟨negative, magnitude, range⟩)
    · rfl
    · rfl
    · rw [toInt64_finite]
      exact if_neg range

theorem toInt64_within (converts : x.toInt64 = .ok number) : Within 63 number := by
  obtain ⟨_, _, _, _, range⟩ := toInt64_eq_ok.mp converts
  exact range

theorem truncate_false (magnitude : Magnitude) :
    truncate false magnitude = (magnitude.units / unitsPerOne : Nat) := rfl

theorem truncate_true (magnitude : Magnitude) :
    truncate true magnitude = -((magnitude.units / unitsPerOne : Nat) : Int) := rfl

theorem truncate_natAbs (negative : Bool) (magnitude : Magnitude) :
    (truncate negative magnitude).natAbs = magnitude.units / unitsPerOne := by
  cases negative with
  | false => rw [truncate_false, Int.natAbs_natCast]
  | true => rw [truncate_true, Int.natAbs_neg, Int.natAbs_natCast]

/-- The integer of an operand has at most 53 bits, and zeros behind them. -/
theorem toInt64_coarse (converts : x.toInt64 = .ok number) :
    ∃ places, (2 : Int) ^ places ∣ number ∧ number.natAbs < 2 ^ 53 * 2 ^ places := by
  obtain ⟨negative, magnitude, rfl, rfl, _⟩ := toInt64_eq_ok.mp converts
  obtain ⟨unit, _, one⟩ := exists_unitPlaces
  obtain ⟨places, divides, small⟩ :=
    Magnitude.quotient_coarse magnitude.significand_lt magnitude.shift unit
  rw [← magnitude.units_eq, ← one, ← truncate_natAbs negative] at divides small
  refine ⟨places, ?_, small⟩
  rw [← Int.natAbs_dvd_natAbs, Int.natAbs_pow]
  exact divides

theorem toInt64_of_holds (holds : x.Holds number) (range : Within 63 number) :
    x.toInt64 = .ok number := by
  obtain ⟨negative, magnitude, rfl, exact⟩ := holds
  refine toInt64_eq_ok.mpr ⟨negative, magnitude, rfl, ?_, range⟩
  have one : (unitsPerOne : Int) ≠ 0 := Int.natCast_ne_zero.mpr unitsPerOne_pos.ne'
  cases negative with
  | false =>
      have quotient : ((magnitude.units / unitsPerOne : Nat) : Int) = number := by
        rw [Int.natCast_ediv, show (magnitude.units : Int) = number * unitsPerOne from exact,
          Int.mul_ediv_cancel _ one]
      exact quotient
  | true =>
      have units : (magnitude.units : Int) = -number * unitsPerOne := by
        rw [Int.neg_mul, ← exact]
        exact (Int.neg_neg _).symm
      have quotient : -((magnitude.units / unitsPerOne : Nat) : Int) = number := by
        rw [Int.natCast_ediv, units, Int.mul_ediv_cancel _ one, Int.neg_neg]
      exact quotient

end Truncation

section Integer

variable {number : Int}

theorem ofQuotient_of_nearest (negative : Bool) {numerator denominator : Nat}
    {magnitude : Magnitude}
    (nearest : Magnitude.nearest? numerator denominator = some magnitude) :
    ofQuotient negative numerator denominator = .finite negative magnitude := by
  unfold ofQuotient
  rw [nearest]

theorem ofInt_of_nearest {magnitude : Magnitude}
    (nearest : Magnitude.nearest? (number.natAbs * unitsPerOne) 1 = some magnitude) :
    ofInt number = .finite (number < 0) magnitude :=
  ofQuotient_of_nearest _ nearest

/-- An integer of at most 53 bits with zeros behind them is a magnitude, but for its sign. -/
theorem exists_whole {places : Nat} (coarse : (2 : Int) ^ places ∣ number)
    (small : number.natAbs ≤ 2 ^ 53 * 2 ^ places) (range : Within 63 number) :
    ∃ magnitude : Magnitude, magnitude.units = number.natAbs * unitsPerOne := by
  obtain ⟨count, same⟩ := Int.natAbs_dvd_natAbs.mpr coarse
  rw [Int.natAbs_pow, Nat.mul_comm] at same
  change number.natAbs = count * 2 ^ places at same
  have bound := range.natAbs_le
  rw [same] at small bound ⊢
  rcases Nat.eq_zero_or_pos count with rfl | positive
  · exact ⟨.zero, by simp [Magnitude.units, Magnitude.zero]⟩
  · have narrow : count ≤ 2 ^ 53 := Nat.le_of_mul_le_mul_right small (Nat.two_pow_pos _)
    have few : places ≤ 63 := (Nat.pow_le_pow_iff_right Nat.one_lt_two).mp
      ((Nat.le_mul_of_pos_left _ positive).trans bound)
    obtain ⟨magnitude, units⟩ :=
      Magnitude.exists_units_carried narrow (by omega : 1074 + places < 2045)
    refine ⟨magnitude, ?_⟩
    rw [units, two_pow_units rfl, Nat.mul_assoc]

theorem signedUnits_whole {magnitude : Magnitude}
    (units : magnitude.units = number.natAbs * unitsPerOne) :
    signedUnits (number < 0) magnitude = number * unitsPerOne := by
  unfold signedUnits
  rw [units]
  by_cases negative : number < 0
  · rw [if_pos (decide_eq_true negative)]
    push_cast
    rw [abs_of_neg negative]
    ring
  · rw [if_neg (by simpa using negative)]
    push_cast
    rw [abs_of_nonneg (not_lt.mp negative)]

theorem ofInt_holds {places : Nat} (coarse : (2 : Int) ^ places ∣ number)
    (small : number.natAbs ≤ 2 ^ 53 * 2 ^ places) (range : Within 63 number) :
    (ofInt number).Holds number := by
  obtain ⟨magnitude, units⟩ := exists_whole coarse small range
  have nearest := magnitude.nearest?_units
  rw [units] at nearest
  exact ⟨_, magnitude, ofInt_of_nearest nearest, signedUnits_whole units⟩

def beyondInt64 : Double := .finite false .ceiling

theorem toInt64_beyond : beyondInt64.toInt64 = .error (.outsideRange beyondInt64) := by
  have whole : truncate false .ceiling = 2 ^ 63 := by
    unfold truncate
    rw [Magnitude.units_ceiling, Nat.mul_div_cancel _ unitsPerOne_pos]
    rfl
  apply toInt64_eq_error.mpr
  apply Unfit.outside
  rw [whole]
  exact fun range => absurd range.2 (lt_irrefl _)

/-- The last integers below 2^63 are rounded up to it. -/
theorem ofInt_beyond (large : 2 ^ 63 - 512 ≤ number) (range : Within 63 number) :
    ofInt number = beyondInt64 := by
  have attracts : Magnitude.ceiling.Attracts (number.natAbs * unitsPerOne) 1 :=
    Magnitude.attracts_ceiling (by omega) range.natAbs_le
  rw [ofInt_of_nearest (Magnitude.nearest?_of_attracts Nat.one_pos attracts),
    decide_eq_false (by omega)]
  rfl

/-- All other integers of 64 bits are rounded to doubles that have an integer again. -/
theorem toInt64_ofInt (small : number < 2 ^ 63 - 512) (range : Within 63 number) :
    ∃ whole, (ofInt number).toInt64 = .ok whole := by
  have bound : 2 ^ 63 * unitsPerOne < (2 ^ 54 - 1) * (1 * 2 ^ 2044) := by decide +kernel
  have most := Nat.mul_le_mul_right unitsPerOne range.natAbs_le
  obtain ⟨magnitude, nearest⟩ :=
    Magnitude.exists_nearest? Nat.one_pos (Nat.lt_of_le_of_lt most bound)
  refine ⟨_, toInt64_eq_ok.mpr ⟨_, magnitude, ofInt_of_nearest nearest, rfl, ?_⟩⟩
  by_cases negative : number < 0
  · rw [← Magnitude.units_ceiling] at most
    have within := Magnitude.nearest?_le nearest most
    rw [Magnitude.units_ceiling] at within
    have whole := magnitude.whole_le within
    rw [decide_eq_true negative, truncate_true]
    generalize magnitude.units / unitsPerOne = count at whole
    constructor <;> omega
  · have within := Magnitude.nearest?_le_summit nearest (by omega)
    rw [Magnitude.units_summit] at within
    have whole := magnitude.whole_le within
    rw [decide_eq_false negative, truncate_false]
    generalize magnitude.units / unitsPerOne = count at whole
    constructor <;> omega

end Integer

end Double

end Reckon
