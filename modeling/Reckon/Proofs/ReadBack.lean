import Mathlib
import Reckon.Decimal.Basic
import Reckon.Proofs.Rounding

/-!
The shortest decimal of a magnitude reads back as it. Seventeen digits always
suffice: the interval of a magnitude reaches at least one part in 2^54 to either
side, and on a grid that leaves seventeen digits one of the two neighbours is nearer
than that.
-/

namespace Reckon

theorem unitsPerOne_pos : 0 < unitsPerOne := by decide +kernel

namespace Decimal

/-- The value of a decimal over any power of ten that clears its exponent. -/
theorem nearest?_over (digits places zeros : Nat) (exponent : Int)
    (cleared : exponent + places = zeros) :
    nearest? ⟨digits, exponent⟩ =
      Magnitude.nearest? (digits * 10 ^ zeros * unitsPerOne) (10 ^ places) := by
  cases exponent with
  | ofNat count =>
      obtain rfl : zeros = places + count := by
        simp only [Int.ofNat_eq_natCast] at cleared
        omega
      have widened := Magnitude.nearest?_mul (10 ^ places) (digits * 10 ^ count * unitsPerOne) 1
        (Nat.pow_pos (by decide))
      calc nearest? ⟨digits, .ofNat count⟩
          = Magnitude.nearest? (digits * 10 ^ count * unitsPerOne) 1 := rfl
        _ = Magnitude.nearest? (10 ^ places * (digits * 10 ^ count * unitsPerOne))
              (10 ^ places * 1) := widened.symm
        _ = _ := by ring_nf
  | negSucc count =>
      obtain rfl : places = zeros + (count + 1) := by omega
      have widened := Magnitude.nearest?_mul (10 ^ zeros) (digits * unitsPerOne) (10 ^ (count + 1))
        (Nat.pow_pos (by decide))
      calc nearest? ⟨digits, .negSucc count⟩
          = Magnitude.nearest? (digits * unitsPerOne) (10 ^ (count + 1)) := rfl
        _ = Magnitude.nearest? (10 ^ zeros * (digits * unitsPerOne))
              (10 ^ zeros * 10 ^ (count + 1)) := widened.symm
        _ = _ := by ring_nf

theorem nearest?_trim (decimal : Decimal) : decimal.trim.nearest? = decimal.nearest? := by
  fun_induction trim decimal with
  | case1 decimal ends ih =>
      obtain ⟨digits, exponent⟩ := decimal
      simp only at ends ih ⊢
      obtain ⟨fewer, rfl⟩ : 10 ∣ digits := Nat.dvd_of_mod_eq_zero ends.2
      obtain ⟨zeros, cleared⟩ : ∃ zeros : Nat, exponent + exponent.natAbs = zeros :=
        ⟨(exponent + exponent.natAbs).toNat, by omega⟩
      have moved : exponent + 1 + exponent.natAbs = (zeros + 1 : Nat) := by omega
      rw [ih, nearest?_over _ _ _ _ cleared, nearest?_over _ _ _ _ moved,
        Nat.mul_div_cancel_left fewer (by decide)]
      ring_nf
  | case2 decimal rest => rfl

end Decimal

namespace Magnitude

variable {magnitude : Magnitude}

/-- A quotient within one part in 2^54 of a magnitude rounds to it. -/
theorem attracts_of_close {numerator denominator : Nat} (positive : 0 < denominator)
    (above : 2 ^ 54 * (magnitude.units * denominator) ≤
      2 ^ 54 * numerator + magnitude.units * denominator)
    (below : 2 ^ 54 * numerator ≤
      2 ^ 54 * (magnitude.units * denominator) + magnitude.units * denominator) :
    magnitude.Attracts numerator denominator := by
  have spaced : 0 < denominator * 2 ^ magnitude.shift :=
    Nat.mul_pos positive (Nat.two_pow_pos magnitude.shift)
  have value : magnitude.units * denominator =
      magnitude.significand * (denominator * 2 ^ magnitude.shift) := by
    simp only [units, Nat.pow_eq]
    ring
  have wide : magnitude.significand * (denominator * 2 ^ magnitude.shift) <
      2 ^ 53 * (denominator * 2 ^ magnitude.shift) :=
    Nat.mul_lt_mul_of_pos_right magnitude.significand_lt spaced
  rw [value] at above below
  unfold Attracts
  refine ⟨Or.inl (by omega), ?_⟩
  split
  · rename_i least
    rw [least.1] at above ⊢
    omega
  · exact Or.inl (by omega)

section Grid

variable {step lower : Nat}

theorem nearest?_gridPoint (step digits : Nat) :
    (gridPoint step digits).nearest? =
      Magnitude.nearest? (digits * 10 ^ step * unitsPerOne) (10 ^ scalePlaces) :=
  Decimal.nearest?_over digits scalePlaces step _ (by omega)

theorem readsBack_iff (decimal : Decimal) :
    magnitude.readsBack decimal = true ↔ decimal.nearest? = some magnitude := by
  simp only [readsBack, decide_eq_true_eq]

/-- A neighbour is taken when it reads back and the other one does not or is not preferred. -/
theorem onGrid?_eq_some {chosen : Decimal} (found : magnitude.onGrid? step lower = some chosen) :
    (chosen = gridPoint step lower ∧ magnitude.readsBack chosen = true ∧
      (magnitude.readsBack (gridPoint step (lower + 1)) = true →
        magnitude.nearerAbove step lower = false)) ∨
    (chosen = gridPoint step (lower + 1) ∧ magnitude.readsBack chosen = true ∧
      (magnitude.readsBack (gridPoint step lower) = true →
        magnitude.nearerAbove step lower = true)) := by
  unfold onGrid? at found
  cases below : magnitude.readsBack (gridPoint step lower) <;>
    cases above : magnitude.readsBack (gridPoint step (lower + 1)) <;>
    cases nearer : magnitude.nearerAbove step lower <;>
    simp_all

theorem onGrid?_readsBack {chosen : Decimal} (found : magnitude.onGrid? step lower = some chosen) :
    chosen.nearest? = some magnitude := by
  rw [← readsBack_iff]
  rcases onGrid?_eq_some found with ⟨_, reads, _⟩ | ⟨_, reads, _⟩
  · exact reads
  · exact reads

theorem onGrid?_isSome (hit : (gridPoint step lower).nearest? = some magnitude ∨
      (gridPoint step (lower + 1)).nearest? = some magnitude) :
    ∃ decimal, magnitude.onGrid? step lower = some decimal := by
  rw [← readsBack_iff, ← readsBack_iff] at hit
  unfold onGrid?
  rcases hit with below | above
  · cases above : magnitude.readsBack (gridPoint step (lower + 1)) <;>
      simp only [below, above, Option.some.injEq, exists_eq']
  · cases below : magnitude.readsBack (gridPoint step lower) <;>
      simp only [below, above, Option.some.injEq, exists_eq']

/-- The search takes what the coarsest grid has that has anything. -/
theorem shortestFrom_found {scaled finest : Nat} {decimal : Decimal}
    (found : magnitude.onGrid? finest (scaled / 10 ^ finest) = some decimal) (remaining : Nat) :
    ∃ step, finest ≤ step ∧ step ≤ finest + remaining ∧
      magnitude.onGrid? step (scaled / 10 ^ step) =
        some (magnitude.shortestFrom scaled finest (remaining + 1)) ∧
      ∀ coarser, step < coarser → coarser ≤ finest + remaining →
        magnitude.onGrid? coarser (scaled / 10 ^ coarser) = none := by
  induction remaining with
  | zero =>
      refine ⟨finest, Nat.le_refl _, Nat.le_refl _, ?_, by omega⟩
      simp only [shortestFrom, Nat.pow_eq, Nat.add_zero, found]
  | succ remaining ih =>
      rw [shortestFrom]
      simp only [Nat.pow_eq]
      cases here : magnitude.onGrid? (finest + (remaining + 1))
          (scaled / 10 ^ (finest + (remaining + 1))) with
      | some coarsest =>
          exact ⟨finest + (remaining + 1), Nat.le_add_right _ _, Nat.le_refl _, here, by omega⟩
      | none =>
          obtain ⟨step, above, below, hit, missed⟩ := ih
          refine ⟨step, above, by omega, hit, ?_⟩
          intro coarser beyond within
          by_cases last : coarser = finest + (remaining + 1)
          · rw [last, here]
          · exact missed coarser beyond (by omega)

theorem scaled_eq (magnitude : Magnitude) :
    magnitude.scaled = magnitude.units * 10 ^ scalePlaces / unitsPerOne := by
  simp only [scaled, Nat.pow_eq]

/-- The magnitude lies between the two neighbours. -/
theorem units_between (magnitude : Magnitude) (step : Nat) :
    magnitude.scaled / 10 ^ step * 10 ^ step * unitsPerOne ≤
        magnitude.units * 10 ^ scalePlaces ∧
      magnitude.units * 10 ^ scalePlaces <
        (magnitude.scaled / 10 ^ step + 1) * 10 ^ step * unitsPerOne := by
  have unit : 0 < unitsPerOne * 10 ^ step :=
    Nat.mul_pos unitsPerOne_pos (Nat.pow_pos (by decide))
  rw [scaled_eq, Nat.div_div_eq_div_mul, Nat.mul_assoc, Nat.mul_assoc,
    Nat.mul_comm (10 ^ step)]
  exact ⟨Nat.div_mul_le_self _ _, Nat.lt_mul_of_div_lt (Nat.lt_succ_self _) unit⟩

/-- On a grid of steps no longer than one part in 2^53, a neighbour reads back. -/
theorem onGrid?_fine (fine : 2 ^ 53 * 10 ^ step ≤ magnitude.scaled) :
    ∃ decimal, magnitude.onGrid? step (magnitude.scaled / 10 ^ step) = some decimal := by
  have places : 0 < 10 ^ scalePlaces := Nat.pow_pos (by decide)
  have floor : magnitude.scaled * unitsPerOne ≤ magnitude.units * 10 ^ scalePlaces := by
    rw [scaled_eq]
    exact Nat.div_mul_le_self _ _
  obtain ⟨below, above⟩ := magnitude.units_between step
  apply onGrid?_isSome
  rw [nearest?_gridPoint, nearest?_gridPoint, nearest?_eq_some places, nearest?_eq_some places]
  have coarse := Nat.mul_le_mul_right unitsPerOne fine
  have apart : (magnitude.scaled / 10 ^ step + 1) * 10 ^ step * unitsPerOne =
      magnitude.scaled / 10 ^ step * 10 ^ step * unitsPerOne + 10 ^ step * unitsPerOne := by ring
  have length : 2 ^ 53 * 10 ^ step * unitsPerOne = 2 ^ 53 * (10 ^ step * unitsPerOne) := by ring
  by_cases nearer : 2 * (magnitude.units * 10 ^ scalePlaces) ≤
      2 * (magnitude.scaled / 10 ^ step * 10 ^ step * unitsPerOne) + 10 ^ step * unitsPerOne
  · left
    apply attracts_of_close places <;> omega
  · right
    apply attracts_of_close places <;> omega

end Grid

theorem units_pos (nonzero : magnitude ≠ .zero) : 0 < magnitude.units := by
  apply Nat.pos_of_ne_zero
  intro none
  apply nonzero
  rcases Nat.mul_eq_zero.mp none with empty | empty
  · obtain ⟨significand, shift, canonical⟩ := magnitude
    obtain rfl : significand = 0 := empty
    obtain rfl : shift = 0 := canonical.2.2.resolve_left (by decide)
    rfl
  · exact absurd empty (Nat.two_pow_pos _).ne'

theorem scaled_large (nonzero : magnitude ≠ .zero) : 10 ^ 16 ≤ magnitude.scaled := by
  have enough : 10 ^ 16 * unitsPerOne ≤ 10 ^ scalePlaces := by decide +kernel
  rw [scaled_eq, Nat.le_div_iff_mul_le unitsPerOne_pos]
  calc 10 ^ 16 * unitsPerOne ≤ 10 ^ scalePlaces := enough
    _ ≤ magnitude.units * 10 ^ scalePlaces := Nat.le_mul_of_pos_left _ (units_pos nonzero)

end Magnitude

theorem lt_pow_digitCount (n : Nat) : n < 10 ^ digitCount n := by
  fun_induction digitCount n with
  | case1 n small => omega
  | case2 n large ih =>
      rw [Nat.pow_succ]
      omega

theorem digitCount_pos (n : Nat) : 0 < digitCount n := by
  unfold digitCount
  split <;> omega

theorem pow_digitCount_le {n : Nat} (positive : 0 < n) : 10 ^ (digitCount n - 1) ≤ n := by
  fun_induction digitCount n with
  | case1 n small => exact positive
  | case2 n large ih =>
      have rest := ih (by omega)
      have count := digitCount_pos (n / 10)
      have split : 10 ^ digitCount (n / 10) = 10 * 10 ^ (digitCount (n / 10) - 1) := by
        rw [← Nat.pow_succ', Nat.succ_eq_add_one, Nat.sub_add_cancel count]
      rw [Nat.add_sub_cancel, split]
      omega

/-- Seventeen digits always suffice, and no grid with fewer of them was passed over that
has a neighbour to offer. -/
theorem Magnitude.shortest_found {magnitude : Magnitude} (nonzero : magnitude ≠ .zero) :
    ∃ step decimal, step < digitCount magnitude.scaled ∧
      magnitude.onGrid? step (magnitude.scaled / 10 ^ step) = some decimal ∧
      magnitude.shortest = decimal.trim ∧
      ∀ coarser, step < coarser → coarser < digitCount magnitude.scaled →
        magnitude.onGrid? coarser (magnitude.scaled / 10 ^ coarser) = none := by
  have large := scaled_large nonzero
  have lower := pow_digitCount_le (Nat.lt_of_lt_of_le (by decide) large)
  have upper := Nat.lt_of_le_of_lt large (lt_pow_digitCount magnitude.scaled)
  have digits : 16 < digitCount magnitude.scaled :=
    (Nat.pow_lt_pow_iff_right (by decide)).mp upper
  have fine : 2 ^ 53 * 10 ^ (digitCount magnitude.scaled - maximalDigits) ≤ magnitude.scaled := by
    calc 2 ^ 53 * 10 ^ (digitCount magnitude.scaled - maximalDigits)
        ≤ 10 ^ 16 * 10 ^ (digitCount magnitude.scaled - maximalDigits) :=
          Nat.mul_le_mul_right _ (by norm_num)
      _ = 10 ^ (digitCount magnitude.scaled - 1) := by
          rw [← Nat.pow_add]
          congr 1
          unfold maximalDigits
          omega
      _ ≤ magnitude.scaled := lower
  obtain ⟨decimal, found⟩ := onGrid?_fine fine
  obtain ⟨step, _, within, hit, missed⟩ := shortestFrom_found found 16
  have last : digitCount magnitude.scaled - maximalDigits + 16 + 1 =
      digitCount magnitude.scaled := by
    unfold maximalDigits
    omega
  refine ⟨step, _, by omega, hit, ?_, fun coarser beyond below => missed coarser beyond (by omega)⟩
  rw [shortest, if_neg nonzero]
  rfl

/-- The written form of a magnitude means that magnitude. -/
theorem Magnitude.nearest?_shortest (magnitude : Magnitude) :
    magnitude.shortest.nearest? = some magnitude := by
  by_cases zero : magnitude = .zero
  · rw [zero]
    decide +kernel
  · obtain ⟨step, decimal, _, found, shape, _⟩ := shortest_found zero
    rw [shape, Decimal.nearest?_trim]
    exact onGrid?_readsBack found

end Reckon
