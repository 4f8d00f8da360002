import Mathlib
import Reckon.Proofs.Nearest

/-!
The shortest decimal of a magnitude is the shortest. The numbers that round to a
magnitude lie side by side, and the magnitude is one of them. On a grid it has two
neighbours, and no number with as many digits as the grid leaves lies between them. So
when such a number rounds to the magnitude, the neighbour on its side does too and is no
further away. The search goes from few digits to many and stops at the first neighbour
that reads back: nothing shorter does, and nothing as short is nearer.
-/

namespace Reckon

namespace Magnitude

def RoundedFrom (magnitude : Magnitude) (number : ℚ) : Prop :=
  number < overflowBound ∧ magnitude.IsNearest number

section Side

variable {magnitude : Magnitude} {low middle high : ℚ}

-- Squares turn the comparison of two distances into one that is linear in the place.
theorem abs_sub_le_iff_mul (first second place : ℚ) :
    |first - place| ≤ |second - place| ↔
      (second - first) * (2 * place) ≤ (second - first) * (first + second) := by
  rw [← sq_le_sq]
  constructor
  · intro squares
    linarith
  · intro products
    linarith

theorem abs_sub_le_of_between {first second : ℚ} (after : low ≤ middle) (before : middle ≤ high)
    (atLow : |first - low| ≤ |second - low|) (atHigh : |first - high| ≤ |second - high|) :
    |first - middle| ≤ |second - middle| := by
  rw [abs_sub_le_iff_mul] at atLow atHigh ⊢
  rcases le_total first second with less | more
  · refine le_trans (mul_le_mul_of_nonneg_left ?_ (sub_nonneg.mpr less)) atHigh
    linarith
  · refine le_trans (mul_le_mul_of_nonpos_left ?_ (sub_nonpos.mpr more)) atLow
    linarith

/-- A tie at a place between two others is a tie at one of them. -/
theorem tie_at_end {first second : ℚ} (apart : second ≠ first) (after : low ≤ middle)
    (before : middle ≤ high) (atLow : |first - low| ≤ |second - low|)
    (atHigh : |first - high| ≤ |second - high|) (tie : |first - middle| = |second - middle|) :
    middle = low ∨ middle = high := by
  have centre : first + second = 2 * middle := by
    rcases abs_eq_abs.mp tie with same | opposite
    · exact absurd (by linarith) apart
    · linarith
  rw [abs_sub_le_iff_mul, centre] at atLow atHigh
  rcases lt_or_gt_of_ne apart with less | more
  · left
    have reached := (mul_le_mul_left_of_neg (sub_neg.mpr less)).mp atLow
    linarith
  · right
    have reached := le_of_mul_le_mul_left atHigh (sub_pos.mpr more)
    linarith

theorem IsNearest.between (first : magnitude.IsNearest low) (last : magnitude.IsNearest high)
    (after : low ≤ middle) (before : middle ≤ high) : magnitude.IsNearest middle where
  least := fun negative other =>
    abs_sub_le_of_between after before (first.least negative other) (last.least negative other)
  even := by
    intro negative other apart tie
    rcases tie_at_end apart after before (first.least negative other) (last.least negative other)
      tie with rfl | rfl
    · exact first.even negative other apart tie
    · exact last.even negative other apart tie

theorem RoundedFrom.between (first : magnitude.RoundedFrom low)
    (last : magnitude.RoundedFrom high) (after : low ≤ middle) (before : middle ≤ high) :
    magnitude.RoundedFrom middle :=
  ⟨lt_of_le_of_lt before last.1, first.2.between last.2 after before⟩

/-- A magnitude rounds to itself. -/
theorem roundedFrom_value (magnitude : Magnitude) : magnitude.RoundedFrom magnitude.value := by
  have attracts : magnitude.Attracts magnitude.units 1 :=
    attracts_of_close Nat.one_pos (by omega) (by omega)
  have found := (nearest?_eq_some_iff _ Nat.one_pos magnitude).mp
    (nearest?_of_attracts Nat.one_pos attracts)
  rwa [Nat.cast_one, one_mul] at found

end Side

end Magnitude

namespace Decimal

def value (decimal : Decimal) : ℚ := decimal.digits * 10 ^ decimal.exponent

/-- Rounding a decimal, as the rationals see it. -/
theorem nearest?_iff_rounded (decimal : Decimal) (magnitude : Magnitude) :
    decimal.nearest? = some magnitude ↔ magnitude.RoundedFrom decimal.value := by
  obtain ⟨digits, exponent⟩ := decimal
  obtain ⟨zeros, cleared⟩ : ∃ zeros : Nat, exponent + exponent.natAbs = zeros :=
    ⟨(exponent + exponent.natAbs).toNat, by omega⟩
  generalize exponent.natAbs = places at cleared
  have scale : 0 < 10 ^ places := Nat.pow_pos (by decide)
  have same : ((digits * 10 ^ zeros * unitsPerOne : Nat) : ℚ) /
      ((10 ^ places : Nat) * unitsPerOne) = value ⟨digits, exponent⟩ := by
    have place : exponent = zeros - places := by omega
    rw [value, place, zpow_sub₀ (by norm_num), zpow_natCast, zpow_natCast]
    push_cast
    rw [mul_div_mul_right _ _ Magnitude.unitsPerOne_ne_zero, mul_div_assoc]
  rw [nearest?_over _ _ _ _ cleared, Magnitude.nearest?_eq_some_iff _ scale, same]
  rfl

section Trim

theorem trim_step {decimal : Decimal} (ends : 0 < decimal.digits ∧ decimal.digits % 10 = 0) :
    decimal.trim = trim ⟨decimal.digits / 10, decimal.exponent + 1⟩ := by
  rw [trim, if_pos ends]

theorem value_trim (decimal : Decimal) : decimal.trim.value = decimal.value := by
  fun_induction trim decimal with
  | case1 decimal ends ih =>
      have tens : (decimal.digits : ℚ) = (decimal.digits / 10 : Nat) * 10 := by
        exact_mod_cast (Nat.div_mul_cancel (Nat.dvd_of_mod_eq_zero ends.2)).symm
      rw [ih, value, value, zpow_add_one₀ (by norm_num), tens]
      ring
  | case2 decimal rest => rfl

theorem trim_digits_le (decimal : Decimal) : decimal.trim.digits ≤ decimal.digits := by
  fun_induction trim decimal with
  | case1 decimal ends ih => exact ih.trans (Nat.div_le_self _ _)
  | case2 decimal rest => exact Nat.le_refl _

theorem trim_last (decimal : Decimal) (positive : 0 < decimal.digits) :
    decimal.trim.digits % 10 ≠ 0 := by
  fun_induction trim decimal with
  | case1 decimal ends ih => exact ih (by simp only; omega)
  | case2 decimal rest => exact fun last => rest ⟨positive, last⟩

/-- A power of ten is left with a single digit. -/
theorem trim_digits_lt {decimal : Decimal} {count : Nat} (positive : 0 < count)
    (most : decimal.digits ≤ 10 ^ count) : decimal.trim.digits < 10 ^ count := by
  rcases Nat.lt_or_eq_of_le most with less | full
  · exact lt_of_le_of_lt decimal.trim_digits_le less
  · obtain ⟨fewer, rfl⟩ := Nat.exists_eq_succ_of_ne_zero positive.ne'
    have tenfold : 10 ^ fewer.succ = 10 * 10 ^ fewer := Nat.pow_succ'
    have some_ : 0 < 10 ^ fewer := Nat.pow_pos (by decide)
    rw [trim_step (by omega)]
    have shorter := trim_digits_le ⟨decimal.digits / 10, decimal.exponent + 1⟩
    simp only at shorter
    omega

end Trim

end Decimal

/-- The numbers that so many decimal digits can write, with zeros or a point anywhere. -/
def decimals (count : Nat) : Set ℚ :=
  {number | ∃ decimal : Decimal, decimal.digits < 10 ^ count ∧ decimal.value = number}

namespace Magnitude

structure IsShortest (magnitude : Magnitude) (count : Nat) (number : ℚ) : Prop where
  written : number ∈ decimals count
  rounds : magnitude.RoundedFrom number
  fewest : ∀ fewer < count, ∀ other ∈ decimals fewer, ¬ magnitude.RoundedFrom other
  nearest : ∀ other ∈ decimals count, magnitude.RoundedFrom other →
    |number - magnitude.value| ≤ |other - magnitude.value|

section Neighbours

variable {magnitude : Magnitude} {step lower count : Nat}

theorem gridPoint_value (step digits : Nat) :
    (gridPoint step digits).value = ((digits * 10 ^ step : Nat) : ℚ) / 10 ^ scalePlaces := by
  rw [Decimal.value, gridPoint, zpow_sub₀ (by norm_num), zpow_natCast, zpow_natCast, Nat.cast_mul,
    Nat.cast_pow, Nat.cast_ofNat, mul_div_assoc]

theorem gridPoint_value_le_iff {few many : Nat} :
    (gridPoint step few).value ≤ (gridPoint step many).value ↔ few ≤ many := by
  rw [gridPoint_value, gridPoint_value, div_le_div_iff_of_pos_right (by positivity), Nat.cast_le]
  exact Nat.mul_le_mul_right_iff (Nat.pow_pos (by decide))

theorem value_scaled (magnitude : Magnitude) :
    magnitude.value =
      ((magnitude.units * 10 ^ scalePlaces : Nat) : ℚ) / unitsPerOne / 10 ^ scalePlaces := by
  have ten : (10 : ℚ) ^ scalePlaces ≠ 0 := pow_ne_zero _ (by norm_num)
  rw [value, div_right_comm, Nat.cast_mul, Nat.cast_pow, Nat.cast_ofNat,
    mul_div_cancel_right₀ _ ten]

theorem value_between (magnitude : Magnitude) (step : Nat) :
    (gridPoint step (magnitude.scaled / 10 ^ step)).value ≤ magnitude.value ∧
      magnitude.value ≤ (gridPoint step (magnitude.scaled / 10 ^ step + 1)).value := by
  have one : (0 : ℚ) < unitsPerOne := Nat.cast_pos.mpr unitsPerOne_pos
  obtain ⟨below, above⟩ := magnitude.units_between step
  rw [value_scaled, gridPoint_value, gridPoint_value, div_le_div_iff_of_pos_right (by positivity),
    div_le_div_iff_of_pos_right (by positivity), le_div_iff₀ one, div_le_iff₀ one, ← Nat.cast_mul,
    ← Nat.cast_mul, Nat.cast_le, Nat.cast_le]
  exact ⟨below, above.le⟩

-- A number on a coarser grid is on this one too; one on a finer grid has so few digits that
-- it lies below the magnitude's leading place.
theorem decimal_apart (positive : 0 < count) (grid : count + step = digitCount magnitude.scaled)
    (large : 0 < magnitude.scaled) {number : ℚ} (written : number ∈ decimals count) :
    number ≤ (gridPoint step (magnitude.scaled / 10 ^ step)).value ∨
      (gridPoint step (magnitude.scaled / 10 ^ step + 1)).value ≤ number := by
  obtain ⟨⟨digits, exponent⟩, narrow, rfl⟩ := written
  by_cases coarse : (step : Int) ≤ exponent + scalePlaces
  · obtain ⟨more, further⟩ := Int.le.dest coarse
    have same : Decimal.value ⟨digits, exponent⟩ = (gridPoint step (digits * 10 ^ more)).value := by
      have place : exponent = more + (step - scalePlaces : Int) := by omega
      rw [Decimal.value, Decimal.value, gridPoint, place, zpow_add₀ (by norm_num), zpow_natCast,
        Nat.cast_mul, Nat.cast_pow, Nat.cast_ofNat, mul_assoc]
    rw [same, gridPoint_value_le_iff, gridPoint_value_le_iff]
    exact le_or_gt _ _
  · left
    have leading : 10 ^ (count - 1 + step) ≤ magnitude.scaled / 10 ^ step * 10 ^ step := by
      have first := pow_digitCount_le large
      rw [← grid, Nat.sub_add_comm positive, Nat.pow_add] at first
      rw [Nat.pow_add]
      exact Nat.mul_le_mul_right _ ((Nat.le_div_iff_mul_le (Nat.pow_pos (by decide))).mpr first)
    have place : (count : Int) + exponent ≤ (count - 1 + step : Nat) - scalePlaces := by
      push_cast [Nat.cast_sub positive]
      omega
    calc (digits : ℚ) * 10 ^ exponent
        ≤ 10 ^ count * 10 ^ exponent := by
          refine mul_le_mul_of_nonneg_right ?_ (by positivity)
          exact_mod_cast narrow.le
      _ = 10 ^ ((count : Int) + exponent) := by rw [zpow_add₀ (by norm_num), zpow_natCast]
      _ ≤ 10 ^ (((count - 1 + step : Nat) : Int) - scalePlaces) :=
          zpow_le_zpow_right₀ (by norm_num) place
      _ = ((10 ^ (count - 1 + step) : Nat) : ℚ) / 10 ^ scalePlaces := by
          rw [zpow_sub₀ (by norm_num), zpow_natCast, zpow_natCast, Nat.cast_pow, Nat.cast_ofNat]
      _ ≤ (gridPoint step (magnitude.scaled / 10 ^ step)).value := by
          rw [gridPoint_value]
          exact div_le_div_of_nonneg_right (Nat.cast_le.mpr leading) (by positivity)

/-- If a number of so many digits rounds to the magnitude, then so does a neighbour that is
no further away. -/
theorem neighbour_rounds (positive : 0 < count)
    (grid : count + step = digitCount magnitude.scaled) (large : 0 < magnitude.scaled)
    {number : ℚ} (written : number ∈ decimals count) (rounds : magnitude.RoundedFrom number) :
    ∃ digits, (digits = magnitude.scaled / 10 ^ step ∨
        digits = magnitude.scaled / 10 ^ step + 1) ∧
      magnitude.RoundedFrom (gridPoint step digits).value ∧
      |(gridPoint step digits).value - magnitude.value| ≤ |number - magnitude.value| := by
  obtain ⟨below, above⟩ := magnitude.value_between step
  rcases decimal_apart positive grid large written with low | high
  · refine ⟨_, Or.inl rfl, rounds.between magnitude.roundedFrom_value low below, ?_⟩
    rw [abs_of_nonpos (by linarith), abs_of_nonpos (by linarith)]
    linarith
  · refine ⟨_, Or.inr rfl, magnitude.roundedFrom_value.between rounds above high, ?_⟩
    rw [abs_of_nonneg (by linarith), abs_of_nonneg (by linarith)]
    linarith

/-- The middle of two neighbours and the magnitude, both in the unit of the search. -/
theorem middle_eq (magnitude : Magnitude) (step lower : Nat) :
    (gridPoint step lower).value + (gridPoint step (lower + 1)).value =
        (((2 * lower + 1) * 10 ^ step * unitsPerOne : Nat) : ℚ) /
          ((10 ^ scalePlaces : Nat) * unitsPerOne) ∧
      2 * magnitude.value =
        ((2 * (magnitude.units * 10 ^ scalePlaces) : Nat) : ℚ) /
          ((10 ^ scalePlaces : Nat) * unitsPerOne) := by
  have ten : ((10 ^ scalePlaces : Nat) : ℚ) = 10 ^ scalePlaces := by
    rw [Nat.cast_pow, Nat.cast_ofNat]
  have sum : lower * 10 ^ step + (lower + 1) * 10 ^ step = (2 * lower + 1) * 10 ^ step := by ring
  constructor
  · rw [gridPoint_value, gridPoint_value, ← add_div, ← Nat.cast_add, sum, Nat.cast_mul _ unitsPerOne,
      mul_div_mul_right _ _ unitsPerOne_ne_zero, ten]
  · rw [value_scaled, div_right_comm, div_div, Nat.cast_mul 2, Nat.cast_ofNat, mul_div_assoc, ten]

theorem nearerAbove_eq_true (preferred : magnitude.nearerAbove step lower = true) :
    (gridPoint step lower).value + (gridPoint step (lower + 1)).value ≤ 2 * magnitude.value := by
  obtain ⟨middle, twice⟩ := middle_eq magnitude step lower
  rw [middle, twice]
  refine div_le_div_of_nonneg_right (Nat.cast_le.mpr ?_) (scale_pos (Nat.pow_pos (by decide))).le
  simp only [nearerAbove, Nat.pow_eq, Bool.or_eq_true, Bool.and_eq_true, decide_eq_true_eq,
    beq_iff_eq] at preferred
  omega

theorem nearerAbove_eq_false (preferred : magnitude.nearerAbove step lower = false) :
    2 * magnitude.value ≤ (gridPoint step lower).value + (gridPoint step (lower + 1)).value := by
  obtain ⟨middle, twice⟩ := middle_eq magnitude step lower
  rw [middle, twice]
  refine div_le_div_of_nonneg_right (Nat.cast_le.mpr ?_) (scale_pos (Nat.pow_pos (by decide))).le
  simp only [nearerAbove, Nat.pow_eq, Bool.or_eq_false_iff, decide_eq_false_iff_not] at preferred
  omega

theorem onGrid?_nearer {chosen : Decimal} {digits : Nat}
    (found : magnitude.onGrid? step (magnitude.scaled / 10 ^ step) = some chosen)
    (neighbour : digits = magnitude.scaled / 10 ^ step ∨
      digits = magnitude.scaled / 10 ^ step + 1)
    (rounds : magnitude.RoundedFrom (gridPoint step digits).value) :
    |chosen.value - magnitude.value| ≤ |(gridPoint step digits).value - magnitude.value| := by
  rw [← Decimal.nearest?_iff_rounded, ← readsBack_iff] at rounds
  obtain ⟨below, above⟩ := magnitude.value_between step
  rcases onGrid?_eq_some found with ⟨rfl, _, kept⟩ | ⟨rfl, _, kept⟩ <;> rcases neighbour with rfl | rfl
  · exact le_refl _
  · have middle := nearerAbove_eq_false (kept rounds)
    rw [abs_of_nonpos (by linarith), abs_of_nonneg (by linarith)]
    linarith
  · have middle := nearerAbove_eq_true (kept rounds)
    rw [abs_of_nonneg (by linarith), abs_of_nonpos (by linarith)]
    linarith
  · exact le_refl _

/-- A grid that offers nothing has nothing: no number of so many digits rounds to the
magnitude. -/
theorem not_rounded_of_missed (positive : 0 < count)
    (grid : count + step = digitCount magnitude.scaled) (large : 0 < magnitude.scaled)
    (missed : magnitude.onGrid? step (magnitude.scaled / 10 ^ step) = none)
    {number : ℚ} (written : number ∈ decimals count) : ¬ magnitude.RoundedFrom number := by
  intro rounds
  obtain ⟨digits, neighbour, reads, _⟩ := neighbour_rounds positive grid large written rounds
  rw [← Decimal.nearest?_iff_rounded] at reads
  have hit : ∃ decimal,
      magnitude.onGrid? step (magnitude.scaled / 10 ^ step) = some decimal := by
    apply onGrid?_isSome
    rcases neighbour with rfl | rfl
    · exact Or.inl reads
    · exact Or.inr reads
  obtain ⟨decimal, found⟩ := hit
  rw [missed] at found
  cases found

theorem onGrid?_digits_le (grid : count + step = digitCount magnitude.scaled) {chosen : Decimal}
    (found : magnitude.onGrid? step (magnitude.scaled / 10 ^ step) = some chosen) :
    chosen.digits ≤ 10 ^ count := by
  have lower : magnitude.scaled / 10 ^ step < 10 ^ count := by
    rw [Nat.div_lt_iff_lt_mul (Nat.pow_pos (by decide)), ← Nat.pow_add, grid]
    exact lt_pow_digitCount _
  rcases onGrid?_eq_some found with ⟨rfl, _, _⟩ | ⟨rfl, _, _⟩
  · exact lower.le
  · exact lower

end Neighbours

section Shortest

variable {magnitude : Magnitude}

theorem decimals_zero : decimals 0 = {0} := by
  ext number
  rw [Set.mem_singleton_iff]
  constructor
  · rintro ⟨decimal, narrow, rfl⟩
    rw [Decimal.value, Nat.lt_one_iff.mp narrow, Nat.cast_zero, zero_mul]
  · rintro rfl
    exact ⟨⟨0, 0⟩, Nat.one_pos, by rw [Decimal.value, Nat.cast_zero, zero_mul]⟩

theorem eq_zero_of_rounded (rounds : magnitude.RoundedFrom 0) : magnitude = .zero := by
  have origin := zero.roundedFrom_value
  rw [value_zero] at origin
  exact rounds.2.unique origin.2

theorem isShortest_zero : zero.IsShortest 0 0 where
  written := by rw [decimals_zero, Set.mem_singleton_iff]
  rounds := by
    have origin := zero.roundedFrom_value
    rwa [value_zero] at origin
  fewest := fun fewer less => absurd less (Nat.not_lt_zero fewer)
  nearest := by
    intro other written _
    rw [decimals_zero, Set.mem_singleton_iff] at written
    rw [written]

theorem digitCount_le {n count : Nat} (positive : 0 < count) (narrow : n < 10 ^ count) :
    digitCount n ≤ count := by
  by_cases zero : n = 0
  · rw [zero, digitCount, if_pos (by decide)]
    exact positive
  · have leading := pow_digitCount_le (Nat.pos_of_ne_zero zero)
    have fewer := (Nat.pow_lt_pow_iff_right (by decide)).mp (lt_of_le_of_lt leading narrow)
    omega

theorem isShortest_onGrid (nonzero : magnitude ≠ .zero) :
    ∃ count, 0 < count ∧ magnitude.shortest.digits < 10 ^ count ∧
      magnitude.IsShortest count magnitude.shortest.value := by
  obtain ⟨step, chosen, within, found, shape, missed⟩ := shortest_found nonzero
  have large : 0 < magnitude.scaled := Nat.lt_of_lt_of_le (by decide) (scaled_large nonzero)
  obtain ⟨count, grid⟩ : ∃ count, count + step = digitCount magnitude.scaled :=
    ⟨_, Nat.sub_add_cancel within.le⟩
  have positive : 0 < count := by omega
  have narrow : magnitude.shortest.digits < 10 ^ count := by
    rw [shape]
    exact Decimal.trim_digits_lt positive (onGrid?_digits_le grid found)
  refine ⟨count, positive, narrow, ⟨_, narrow, rfl⟩, ?_, ?_, ?_⟩
  · exact (Decimal.nearest?_iff_rounded _ _).mp magnitude.nearest?_shortest
  · intro fewer less other written rounds
    by_cases nothing : fewer = 0
    · rw [nothing, decimals_zero, Set.mem_singleton_iff] at written
      rw [written] at rounds
      exact nonzero (eq_zero_of_rounded rounds)
    · have coarser : fewer + (digitCount magnitude.scaled - fewer) =
          digitCount magnitude.scaled := by omega
      exact not_rounded_of_missed (Nat.pos_of_ne_zero nothing) coarser large
        (missed _ (by omega) (by omega)) written rounds
  · intro other written rounds
    obtain ⟨digits, neighbour, reads, closer⟩ :=
      neighbour_rounds positive grid large written rounds
    rw [shape, Decimal.value_trim]
    exact (onGrid?_nearer found neighbour reads).trans closer

/-- The digits of the shortest decimal are as few as they can be, and no other decimal with
so few of them is nearer. -/
theorem isShortest_shortest (nonzero : magnitude ≠ .zero) :
    magnitude.IsShortest (digitCount magnitude.shortest.digits) magnitude.shortest.value := by
  obtain ⟨count, positive, narrow, shortest⟩ := isShortest_onGrid nonzero
  have same : digitCount magnitude.shortest.digits = count := by
    apply Nat.le_antisymm (digitCount_le positive narrow)
    by_contra fewer
    exact shortest.fewest _ (Nat.lt_of_not_le fewer) _ ⟨_, lt_pow_digitCount _, rfl⟩
      shortest.rounds
  rwa [same]

end Shortest

end Magnitude

end Reckon
