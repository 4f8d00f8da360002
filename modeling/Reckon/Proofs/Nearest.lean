import Mathlib
import Reckon.Proofs.ReadBack

/-!
Rounding as the rationals see it. A magnitude is a rational number, and `nearest?`
finds the one that no other is nearer to; of two that are equally near it takes the one
with the even significand. Half way from the largest magnitude to the power of two
beyond it the range ends, and from there on nothing is found.
-/

namespace Reckon

/-- Half way from the largest double to the power of two beyond it. -/
def overflowBound : ℚ := 2 ^ 1024 - 2 ^ 970

namespace Magnitude

def value (magnitude : Magnitude) : ℚ := magnitude.units / unitsPerOne

def signed (negative : Bool) (magnitude : Magnitude) : ℚ :=
  if negative then -magnitude.value else magnitude.value

structure IsNearest (magnitude : Magnitude) (number : ℚ) : Prop where
  least : ∀ (negative : Bool) (other : Magnitude),
    |magnitude.value - number| ≤ |other.signed negative - number|
  even : ∀ (negative : Bool) (other : Magnitude), other.signed negative ≠ magnitude.value →
    |magnitude.value - number| = |other.signed negative - number| →
    magnitude.significand % 2 = 0

section Spacing

variable {magnitude other : Magnitude}

theorem units_eq (magnitude : Magnitude) :
    magnitude.units = magnitude.significand * 2 ^ magnitude.shift := rfl

/-- A magnitude of a finer spacing lies below all those with the leading bit. -/
theorem units_finer {shift : Nat} (finer : other.shift < shift) :
    2 * other.units + 2 ^ shift ≤ 2 ^ 53 * 2 ^ shift := by
  have wider : 2 ^ (other.shift + 1) ≤ 2 ^ shift := Nat.pow_le_pow_right Nat.two_pos finer
  calc 2 * other.units + 2 ^ shift
      = other.significand * 2 ^ (other.shift + 1) + 2 ^ shift := by rw [units_eq]; ring
    _ ≤ other.significand * 2 ^ shift + 2 ^ shift :=
        Nat.add_le_add_right (Nat.mul_le_mul_left _ wider) _
    _ = (other.significand + 1) * 2 ^ shift := (Nat.add_one_mul _ _).symm
    _ ≤ 2 ^ 53 * 2 ^ shift := Nat.mul_le_mul_right _ other.significand_lt

/-- A magnitude of a coarser spacing is a multiple of the finer one. -/
theorem units_coarser {shift : Nat} (coarser : shift ≤ other.shift) :
    ∃ count, other.units = count * 2 ^ shift := by
  obtain ⟨more, same⟩ := Nat.exists_eq_add_of_le coarser
  exact ⟨other.significand * 2 ^ more, by rw [units_eq, same]; ring⟩

theorem units_leading (magnitude : Magnitude) (shifted : magnitude.shift ≠ 0) :
    2 ^ 52 * 2 ^ magnitude.shift ≤ magnitude.units :=
  Nat.mul_le_mul_right _ (magnitude.leading.resolve_right shifted)

theorem multiple_step {small large spacing : Nat} (less : small * spacing < large * spacing) :
    small * spacing + spacing ≤ large * spacing := by
  rw [← Nat.add_one_mul]
  exact Nat.mul_le_mul_right _ (Nat.lt_of_mul_lt_mul_right less)

theorem spacing_above (larger : magnitude.units < other.units) :
    magnitude.units + 2 ^ magnitude.shift ≤ other.units := by
  by_cases coarser : magnitude.shift ≤ other.shift
  · obtain ⟨count, same⟩ := units_coarser coarser
    rw [same, units_eq] at larger ⊢
    exact multiple_step larger
  · have finer := units_finer (Nat.lt_of_not_le coarser)
    have leading := magnitude.units_leading (by omega)
    omega

-- Below a power of two the spacing is half of what it is above.
theorem spacing_below (smaller : other.units < magnitude.units) :
    if magnitude.significand = 2 ^ 52 ∧ 0 < magnitude.shift then
      2 * other.units + 2 ^ magnitude.shift ≤ 2 * magnitude.units
    else other.units + 2 ^ magnitude.shift ≤ magnitude.units := by
  by_cases coarser : magnitude.shift ≤ other.shift
  · have whole : other.units + 2 ^ magnitude.shift ≤ magnitude.units := by
      obtain ⟨count, same⟩ := units_coarser coarser
      rw [same, units_eq] at smaller ⊢
      exact multiple_step smaller
    split
    · omega
    · exact whole
  · have shifted : magnitude.shift ≠ 0 := by omega
    have finer := units_finer (Nat.lt_of_not_le coarser)
    split
    · have leading := magnitude.units_leading shifted
      omega
    · rename_i inner
      have leading := magnitude.leading.resolve_right shifted
      have larger : 2 ^ 52 + 1 ≤ magnitude.significand := by omega
      have above : (2 ^ 52 + 1) * 2 ^ magnitude.shift ≤ magnitude.units :=
        Nat.mul_le_mul_right _ larger
      omega

theorem units_injective : Function.Injective units := by
  have differ : ∀ {finer coarser : Magnitude}, finer.units = coarser.units →
      ¬ finer.shift < coarser.shift := by
    intro finer coarser same less
    have below := units_finer less
    have leading := coarser.units_leading (by omega)
    have positive := Nat.two_pow_pos coarser.shift
    omega
  intro first second same
  have shift : first.shift = second.shift :=
    Nat.le_antisymm (Nat.le_of_not_lt (differ same.symm)) (Nat.le_of_not_lt (differ same))
  have significand : first.significand = second.significand := by
    rw [units_eq, units_eq, shift] at same
    exact Nat.eq_of_mul_eq_mul_right (Nat.two_pow_pos _) same
  cases first
  cases second
  simp_all only

end Spacing

section Signs

variable {magnitude : Magnitude} {number : ℚ}

theorem value_nonneg (magnitude : Magnitude) : 0 ≤ magnitude.value :=
  div_nonneg (Nat.cast_nonneg _) (Nat.cast_nonneg _)

theorem value_zero : zero.value = 0 := by
  simp only [value, units, zero, Nat.zero_mul, Nat.cast_zero, zero_div]

theorem abs_value_le_opposite (nonneg : 0 ≤ number) (magnitude : Magnitude) :
    |magnitude.value - number| ≤ |-magnitude.value - number| := by
  have positive := magnitude.value_nonneg
  rw [abs_of_nonpos (by linarith : -magnitude.value - number ≤ 0), abs_le]
  constructor <;> linarith

-- The two zeros have one value; every other double is further away than its opposite.
theorem isNearest_of_magnitudes (nonneg : 0 ≤ number)
    (least : ∀ other : Magnitude, |magnitude.value - number| ≤ |other.value - number|)
    (even : ∀ other : Magnitude, other ≠ magnitude →
      |magnitude.value - number| = |other.value - number| → magnitude.significand % 2 = 0) :
    magnitude.IsNearest number := by
  constructor
  · intro negative other
    cases negative with
    | false => exact least other
    | true => exact (least other).trans (abs_value_le_opposite nonneg other)
  · intro negative other apart tie
    cases negative with
    | false =>
        apply even other _ tie
        rintro rfl
        exact apart rfl
    | true =>
        change -other.value ≠ magnitude.value at apart
        change |magnitude.value - number| = |-other.value - number| at tie
        by_cases same : other = magnitude
        · subst same
          have small := least zero
          have vanishes : other.value = 0 := by
            rcases abs_eq_abs.mp tie with same | opposite
            · linarith
            · have origin : number = 0 := by linarith
              rw [value_zero, origin, sub_zero, sub_zero, abs_zero] at small
              exact abs_eq_zero.mp (le_antisymm small (abs_nonneg _))
          rw [vanishes, neg_zero] at apart
          exact absurd rfl apart
        · apply even other same
          apply le_antisymm (least other)
          rw [tie]
          exact abs_value_le_opposite nonneg other

end Signs

section Distance

variable {magnitude other : Magnitude} {numerator denominator : Nat}

theorem unitsPerOne_ne_zero : (unitsPerOne : ℚ) ≠ 0 := Nat.cast_ne_zero.mpr unitsPerOne_pos.ne'

theorem scale_pos (positive : 0 < denominator) : (0 : ℚ) < denominator * unitsPerOne :=
  mul_pos (Nat.cast_pos.mpr positive) (Nat.cast_pos.mpr unitsPerOne_pos)

def offset (magnitude : Magnitude) (numerator denominator : Nat) : Nat :=
  (magnitude.units * denominator - numerator : Int).natAbs

theorem abs_value_sub (magnitude : Magnitude) (numerator : Nat) (positive : 0 < denominator) :
    |magnitude.value - numerator / (denominator * unitsPerOne)| =
      magnitude.offset numerator denominator / (denominator * unitsPerOne) := by
  have wide : (denominator : ℚ) ≠ 0 := Nat.cast_ne_zero.mpr positive.ne'
  have one := unitsPerOne_ne_zero
  have joined : magnitude.value - numerator / (denominator * unitsPerOne) =
      (magnitude.units * denominator - numerator) / (denominator * unitsPerOne) := by
    rw [value]
    field_simp
  rw [joined, abs_div, abs_of_pos (scale_pos positive), offset, Nat.cast_natAbs]
  push_cast
  rfl

-- Each half of the interval is at most half as wide as the gap to the neighbour on its side.
theorem Attracts.offset_le (positive : 0 < denominator)
    (attracts : magnitude.Attracts numerator denominator) (apart : other ≠ magnitude) :
    magnitude.offset numerator denominator ≤ other.offset numerator denominator ∧
      (magnitude.offset numerator denominator = other.offset numerator denominator →
        magnitude.significand % 2 = 0) := by
  have spaced : 0 < denominator * 2 ^ magnitude.shift :=
    Nat.mul_pos positive (Nat.two_pow_pos magnitude.shift)
  have shape : magnitude.units * denominator =
      magnitude.significand * (denominator * 2 ^ magnitude.shift) := by
    rw [units_eq]
    ring
  have spread : 2 ^ magnitude.shift * denominator = denominator * 2 ^ magnitude.shift :=
    Nat.mul_comm _ _
  obtain ⟨upper, lower⟩ := attracts
  unfold offset
  rw [← shape] at upper lower
  rcases Nat.lt_or_gt_of_ne (units_injective.ne apart) with smaller | larger
  · have gap := spacing_below smaller
    split at lower
    · rename_i edge
      rw [if_pos edge] at gap
      have scaled := Nat.mul_le_mul_right denominator gap
      rw [Nat.add_mul, Nat.mul_assoc, Nat.mul_assoc, spread] at scaled
      rw [edge.1]
      omega
    · rename_i inner
      rw [if_neg inner] at gap
      have scaled := Nat.mul_le_mul_right denominator gap
      rw [Nat.add_mul, spread] at scaled
      omega
  · have scaled := Nat.mul_le_mul_right denominator (spacing_above larger)
    rw [Nat.add_mul, spread] at scaled
    omega

theorem Attracts.isNearest (positive : 0 < denominator)
    (attracts : magnitude.Attracts numerator denominator) :
    magnitude.IsNearest (numerator / (denominator * unitsPerOne)) := by
  have scale := scale_pos positive
  apply isNearest_of_magnitudes (div_nonneg (Nat.cast_nonneg _) scale.le)
  · intro other
    rw [abs_value_sub _ _ positive, abs_value_sub _ _ positive]
    by_cases same : other = magnitude
    · rw [same]
    · apply div_le_div_of_nonneg_right _ scale.le
      exact Nat.cast_le.mpr (attracts.offset_le positive same).1
  · intro other apart tie
    rw [abs_value_sub _ _ positive, abs_value_sub _ _ positive, div_left_inj' scale.ne'] at tie
    exact (attracts.offset_le positive apart).2 (Nat.cast_injective tie)

end Distance

section Uniqueness

variable {magnitude other : Magnitude} {number : ℚ}

theorem value_lt_iff : magnitude.value < other.value ↔ magnitude.units < other.units := by
  rw [value, value, div_lt_div_iff_of_pos_right (Nat.cast_pos.mpr unitsPerOne_pos), Nat.cast_lt]

-- The successor of an even significand has as many bits and the same shift.
theorem exists_successor (even : magnitude.significand % 2 = 0) :
    ∃ next : Magnitude, next.significand % 2 = 1 ∧
      next.units = magnitude.units + 2 ^ magnitude.shift := by
  obtain ⟨narrow, range, leading⟩ := magnitude.canonical
  rw [Nat.pow_eq] at narrow leading
  have canonical : magnitude.significand + 1 < Nat.pow 2 53 ∧ magnitude.shift ≤ 2045 ∧
      (Nat.pow 2 52 ≤ magnitude.significand + 1 ∨ magnitude.shift = 0) := by
    rw [Nat.pow_eq, Nat.pow_eq]
    omega
  refine ⟨⟨magnitude.significand + 1, magnitude.shift, canonical⟩, ?_, ?_⟩
  · simp only
    omega
  · exact Nat.add_one_mul _ _

theorem abs_lt_of_between {low middle high : ℚ} (after : low < middle) (before : middle < high)
    (tie : |low - number| = |high - number|) : |middle - number| < |low - number| := by
  rcases abs_eq_abs.mp tie with same | opposite
  · linarith
  · rw [abs_of_nonpos (by linarith : low - number ≤ 0), abs_lt]
    constructor <;> linarith

/-- Two magnitudes are not both nearest: between two even ones lies an odd one. -/
theorem IsNearest.unique (first : magnitude.IsNearest number) (second : other.IsNearest number) :
    magnitude = other := by
  have ordered : ∀ {low high : Magnitude}, low.IsNearest number → high.IsNearest number →
      ¬ low.units < high.units := by
    intro low high lower upper less
    have apart := (value_lt_iff.mpr less).ne
    have tie := le_antisymm (lower.least false high) (upper.least false low)
    obtain ⟨next, odd, after⟩ := exists_successor (lower.even false high apart.symm tie)
    have even := upper.even false low apart tie.symm
    have step : next.units < high.units := by
      apply Nat.lt_of_le_of_ne (after ▸ spacing_above less)
      intro same
      rw [units_injective same] at odd
      omega
    have above : low.units < next.units := by
      rw [after]
      exact Nat.lt_add_of_pos_right (Nat.two_pow_pos _)
    have nearer := abs_lt_of_between (value_lt_iff.mpr above) (value_lt_iff.mpr step) tie
    exact absurd (lower.least false next) (not_le.mpr nearer)
  apply units_injective
  exact Nat.le_antisymm (Nat.le_of_not_lt (ordered second first))
    (Nat.le_of_not_lt (ordered first second))

end Uniqueness

section Range

variable {numerator denominator shift top : Nat}

theorem spacing_double (top : Nat) (denominator : Nat) (beyond : top < shift) :
    2 * (denominator * 2 ^ top) ≤ denominator * 2 ^ shift := by
  calc 2 * (denominator * 2 ^ top) = denominator * 2 ^ (top + 1) := by ring
    _ ≤ denominator * 2 ^ shift :=
        Nat.mul_le_mul_left _ (Nat.pow_le_pow_right Nat.two_pos beyond)

-- The bound is half a spacing beyond the significands of the top shift. A tie belongs to an
-- even significand, and the largest one is odd.
theorem Attracts.lt_range {magnitude : Magnitude} (positive : 0 < denominator)
    (attracts : magnitude.Attracts numerator denominator) (within : magnitude.shift ≤ top + 1) :
    numerator < (2 ^ 54 - 1) * (denominator * 2 ^ top) := by
  have narrow := magnitude.significand_lt
  have spaced : 0 < denominator * 2 ^ magnitude.shift :=
    Nat.mul_pos positive (Nat.two_pow_pos _)
  have wide : denominator * 2 ^ magnitude.shift ≤ 2 * (denominator * 2 ^ top) := by
    calc denominator * 2 ^ magnitude.shift ≤ denominator * 2 ^ (top + 1) :=
          Nat.mul_le_mul_left _ (Nat.pow_le_pow_right Nat.two_pos within)
      _ = 2 * (denominator * 2 ^ top) := by ring
  obtain ⟨upper, _⟩ := attracts
  rcases upper with inside | ⟨tie, even⟩
  · have most : magnitude.significand * (denominator * 2 ^ magnitude.shift) ≤
        (2 ^ 53 - 1) * (denominator * 2 ^ magnitude.shift) :=
      Nat.mul_le_mul_right _ (by omega)
    omega
  · have most : magnitude.significand * (denominator * 2 ^ magnitude.shift) ≤
        (2 ^ 53 - 2) * (denominator * 2 ^ magnitude.shift) :=
      Nat.mul_le_mul_right _ (by omega)
    omega

/-- A quotient below the bound does not need a shift beyond the top one. -/
theorem Fits.shift_le (positive : 0 < denominator) (fits : Fits numerator denominator shift)
    (range : numerator < (2 ^ 54 - 1) * (denominator * 2 ^ top)) : shift ≤ top + 1 := by
  by_contra beyond
  have spaced : 0 < denominator * 2 ^ top := Nat.mul_pos positive (Nat.two_pow_pos _)
  have once := spacing_double top denominator (Nat.lt_add_one top)
  have twice := spacing_double (top + 1) denominator (Nat.lt_of_not_le beyond)
  rcases fits.2 with zero | leading <;> omega

/-- A significand that rounds up to a further bit leaves room for it. -/
theorem shift_le_of_carry {value : Nat} (carried : 2 ^ 53 ≤ value)
    (rounds : RoundsTo numerator (denominator * 2 ^ shift) value)
    (range : numerator < (2 ^ 54 - 1) * (denominator * 2 ^ top)) : shift ≤ top := by
  by_contra beyond
  have once := spacing_double top denominator (Nat.lt_of_not_le beyond)
  have carry := Nat.mul_le_mul_right (denominator * 2 ^ shift) carried
  obtain ⟨lower, _⟩ := rounds
  omega

theorem leading_of_rounds {value : Nat} (positive : 0 < denominator)
    (fits : Fits numerator denominator shift)
    (rounds : RoundsTo numerator (denominator * 2 ^ shift) value) :
    2 ^ 52 ≤ value ∨ shift = 0 := by
  rcases fits.2 with zero | leading
  · exact Or.inr zero
  · left
    have spaced : 0 < denominator * 2 ^ shift := Nat.mul_pos positive (Nat.two_pow_pos _)
    obtain ⟨_, upper⟩ := rounds
    by_contra small
    have below : (value + 1) * (denominator * 2 ^ shift) ≤ 2 ^ 52 * (denominator * 2 ^ shift) :=
      Nat.mul_le_mul_right _ (by omega)
    rw [Nat.add_one_mul] at below
    omega

theorem exists_nearest? (positive : 0 < denominator)
    (range : numerator < (2 ^ 54 - 1) * (denominator * 2 ^ 2044)) :
    ∃ magnitude, nearest? numerator denominator = some magnitude := by
  have fits := fits_log2 numerator positive
  generalize (numerator / denominator).log2 - 52 = shift at fits
  have spaced : 0 < denominator * 2 ^ shift := Nat.mul_pos positive (Nat.two_pow_pos shift)
  have rounds := roundsTo_roundHalfEven numerator spaced
  generalize roundHalfEven numerator (denominator * 2 ^ shift) = significand at rounds
  rw [nearest?_eq_of_fits positive fits rounds]
  split
  · rename_i narrow
    have canonical := leading_of_rounds positive fits rounds
    exact ⟨_, dif_pos ⟨narrow, fits.shift_le positive range, canonical⟩⟩
  · rename_i carried
    have within := shift_le_of_carry (Nat.le_of_not_lt carried) rounds range
    exact ⟨_, dif_pos ⟨by decide, Nat.succ_le_succ within, Or.inl (Nat.le_refl _)⟩⟩

theorem overflowBound_units : overflowBound * unitsPerOne = (2 ^ 54 - 1) * 2 ^ 2044 := by
  have one : (unitsPerOne : ℚ) = 2 ^ 1074 := by
    unfold unitsPerOne
    simp only [Nat.pow_eq, Nat.cast_pow, Nat.cast_ofNat]
  have power : (2 : ℚ) ^ 1024 = 2 ^ 54 * 2 ^ 970 := by rw [← pow_add]
  have total : (2 : ℚ) ^ 2044 = 2 ^ 970 * 2 ^ 1074 := by rw [← pow_add]
  rw [overflowBound, one, power, total, ← mul_assoc, sub_one_mul]

theorem lt_overflowBound_iff (numerator : Nat) (positive : 0 < denominator) :
    (numerator : ℚ) / (denominator * unitsPerOne) < overflowBound ↔
      numerator < (2 ^ 54 - 1) * (denominator * 2 ^ 2044) := by
  have most : ((2 ^ 54 - 1 : Nat) : ℚ) = 2 ^ 54 - 1 := by norm_num
  have bound : overflowBound * (denominator * unitsPerOne) =
      ((2 ^ 54 - 1) * (denominator * 2 ^ 2044) : Nat) := by
    rw [mul_left_comm, overflowBound_units, Nat.cast_mul, Nat.cast_mul, Nat.cast_pow, most,
      Nat.cast_ofNat, mul_left_comm]
  rw [div_lt_iff₀ (scale_pos positive), bound, Nat.cast_lt]

/-- Rounding succeeds below the bound only, with the nearest magnitude. -/
theorem nearest?_eq_some_iff (numerator : Nat) (positive : 0 < denominator)
    (magnitude : Magnitude) :
    nearest? numerator denominator = some magnitude ↔
      (numerator : ℚ) / (denominator * unitsPerOne) < overflowBound ∧
        magnitude.IsNearest (numerator / (denominator * unitsPerOne)) := by
  rw [lt_overflowBound_iff numerator positive]
  constructor
  · intro found
    have attracts := attracts_of_nearest? positive found
    exact ⟨attracts.lt_range positive magnitude.canonical.2.1, attracts.isNearest positive⟩
  · rintro ⟨range, nearest⟩
    obtain ⟨found, same⟩ := exists_nearest? positive range
    rw [same, ((attracts_of_nearest? positive same).isNearest positive).unique nearest]

theorem nearest?_eq_none_iff (numerator : Nat) (positive : 0 < denominator) :
    nearest? numerator denominator = none ↔
      overflowBound ≤ (numerator : ℚ) / (denominator * unitsPerOne) := by
  constructor
  · intro missing
    by_contra small
    have range := (lt_overflowBound_iff numerator positive).mp (not_le.mp small)
    obtain ⟨found, same⟩ := exists_nearest? positive range
    rw [missing] at same
    cases same
  · intro large
    rw [Option.eq_none_iff_forall_ne_some]
    intro found same
    have small := ((nearest?_eq_some_iff numerator positive found).mp same).1
    exact absurd small (not_lt.mpr large)

end Range

end Magnitude

end Reckon
