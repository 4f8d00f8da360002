import Mathlib
import Reckon.Double

/-!
The quotients that round to a magnitude. They fill an interval around it, half way
to each neighbour; the ends belong to it when its significand is even. Below a power
of two the neighbour is nearer, so the lower half is only half as wide there.
`nearest?` returns a magnitude exactly for the quotients of its interval.
-/

namespace Reckon

/-- No whole number is nearer to the quotient, and an odd one is not met by a tie. -/
def RoundsTo (numerator denominator value : Nat) : Prop :=
  (2 * (value * denominator) < 2 * numerator + denominator ∨
    2 * (value * denominator) = 2 * numerator + denominator ∧ value % 2 = 0) ∧
  (2 * numerator < 2 * (value * denominator) + denominator ∨
    2 * numerator = 2 * (value * denominator) + denominator ∧ value % 2 = 0)

theorem roundsTo_roundHalfEven (numerator : Nat) {denominator : Nat} (positive : 0 < denominator) :
    RoundsTo numerator denominator (roundHalfEven numerator denominator) := by
  have whole := Nat.div_add_mod' numerator denominator
  have part := Nat.mod_lt numerator positive
  have above := Nat.add_one_mul (numerator / denominator) denominator
  unfold RoundsTo roundHalfEven
  simp only
  split_ifs <;> constructor <;> omega

-- Two candidates one apart can both be half way off, but then one of them is odd.
theorem RoundsTo.unique {numerator denominator value value' : Nat} (positive : 0 < denominator)
    (first : RoundsTo numerator denominator value)
    (second : RoundsTo numerator denominator value') : value = value' := by
  have apart : ∀ small large, RoundsTo numerator denominator small →
      RoundsTo numerator denominator large → ¬ small < large := by
    intro small large lower upper less
    have gap : (small + 1) * denominator ≤ large * denominator :=
      Nat.mul_le_mul_right denominator less
    have next := Nat.add_one_mul small denominator
    obtain ⟨_, above⟩ := lower
    obtain ⟨below, _⟩ := upper
    have tie : (small + 1) * denominator = large * denominator := by omega
    have adjacent := Nat.eq_of_mul_eq_mul_right positive tie
    omega
  have up := apart value value' first second
  have down := apart value' value second first
  omega

theorem roundHalfEven_eq {numerator denominator value : Nat} (positive : 0 < denominator) :
    roundHalfEven numerator denominator = value ↔ RoundsTo numerator denominator value := by
  constructor
  · rintro rfl
    exact roundsTo_roundHalfEven numerator positive
  · exact (roundsTo_roundHalfEven numerator positive).unique positive

theorem roundHalfEven_mul (factor numerator denominator : Nat) (positive : 0 < factor) :
    roundHalfEven (factor * numerator) (factor * denominator) =
      roundHalfEven numerator denominator := by
  have scaled : 2 * (factor * (numerator % denominator)) =
      factor * (2 * (numerator % denominator)) := by ring
  simp only [roundHalfEven, Nat.mul_div_mul_left _ _ positive, Nat.mul_mod_mul_left, scaled,
    Nat.mul_lt_mul_left positive]

namespace Magnitude

section Parts

variable (magnitude : Magnitude)

theorem significand_lt : magnitude.significand < 2 ^ 53 := magnitude.canonical.1

theorem leading : 2 ^ 52 ≤ magnitude.significand ∨ magnitude.shift = 0 := magnitude.canonical.2.2

theorem ofParts?_self : ofParts? magnitude.significand magnitude.shift = some magnitude := by
  simp only [ofParts?, dif_pos magnitude.canonical]

theorem ofParts?_eq_some {significand shift : Nat}
    (made : ofParts? significand shift = some magnitude) :
    magnitude.significand = significand ∧ magnitude.shift = shift := by
  unfold ofParts? at made
  split at made
  · cases made
    exact ⟨rfl, rfl⟩
  · cases made

end Parts

def Attracts (magnitude : Magnitude) (numerator denominator : Nat) : Prop :=
  let spacing := denominator * 2 ^ magnitude.shift
  (2 * numerator < 2 * (magnitude.significand * spacing) + spacing ∨
    2 * numerator = 2 * (magnitude.significand * spacing) + spacing ∧
      magnitude.significand % 2 = 0) ∧
  if magnitude.significand = 2 ^ 52 ∧ 0 < magnitude.shift then
    4 * (magnitude.significand * spacing) ≤ 4 * numerator + spacing
  else
    2 * (magnitude.significand * spacing) < 2 * numerator + spacing ∨
      2 * (magnitude.significand * spacing) = 2 * numerator + spacing ∧
        magnitude.significand % 2 = 0

section Shift

variable {numerator denominator shift : Nat}

def Fits (numerator denominator shift : Nat) : Prop :=
  numerator < 2 ^ 53 * (denominator * 2 ^ shift) ∧
    (shift = 0 ∨ 2 ^ 52 * (denominator * 2 ^ shift) ≤ numerator)

theorem fits_log2 (numerator : Nat) (positive : 0 < denominator) :
    Fits numerator denominator ((numerator / denominator).log2 - 52) := by
  have scale (places : Nat) (shift : Nat) :
      2 ^ places * (denominator * 2 ^ shift) = 2 ^ (places + shift) * denominator := by ring
  unfold Fits
  rw [scale, scale, ← Nat.div_lt_iff_lt_mul positive, ← Nat.le_div_iff_mul_le positive]
  by_cases short : (numerator / denominator).log2 ≤ 52
  · have none : (numerator / denominator).log2 - 52 = 0 := by omega
    rw [none]
    refine ⟨?_, Or.inl rfl⟩
    calc numerator / denominator < 2 ^ ((numerator / denominator).log2 + 1) := Nat.lt_log2_self
      _ ≤ 2 ^ (53 + 0) := Nat.pow_le_pow_right Nat.two_pos (by omega)
  · have nonzero : numerator / denominator ≠ 0 := by
      intro zero
      rw [zero] at short
      exact short (by decide)
    have all : 52 + ((numerator / denominator).log2 - 52) = (numerator / denominator).log2 := by
      omega
    have more : 53 + ((numerator / denominator).log2 - 52) =
        (numerator / denominator).log2 + 1 := by omega
    rw [all, more]
    exact ⟨Nat.lt_log2_self, Or.inr (Nat.log2_self_le nonzero)⟩

theorem Fits.eq_log2 (positive : 0 < denominator) (fits : Fits numerator denominator shift) :
    (numerator / denominator).log2 - 52 = shift := by
  have scale (places : Nat) :
      2 ^ places * (denominator * 2 ^ shift) = 2 ^ (places + shift) * denominator := by ring
  obtain ⟨above, below⟩ := fits
  rw [scale, ← Nat.div_lt_iff_lt_mul positive] at above
  by_cases zero : numerator / denominator = 0
  · rcases below with rfl | below
    · rw [zero]
      rfl
    · rw [scale, ← Nat.le_div_iff_mul_le positive, zero] at below
      exact absurd below (Nat.not_le_of_gt (Nat.two_pow_pos _))
  · have upper := (Nat.log2_lt zero).mpr above
    rcases below with rfl | below
    · omega
    · rw [scale, ← Nat.le_div_iff_mul_le positive] at below
      have lower := (Nat.le_log2 zero).mpr below
      omega

end Shift

section Interval

variable {magnitude : Magnitude} {numerator denominator : Nat}

theorem nearest?_eq_of_fits {shift value : Nat} (positive : 0 < denominator)
    (fits : Fits numerator denominator shift)
    (rounds : RoundsTo numerator (denominator * 2 ^ shift) value) :
    nearest? numerator denominator =
      if value < 2 ^ 53 then ofParts? value shift else ofParts? (2 ^ 52) (shift + 1) := by
  have spaced : 0 < denominator * 2 ^ shift := Nat.mul_pos positive (Nat.two_pow_pos shift)
  simp only [nearest?, fits.eq_log2 positive, Nat.pow_eq, (roundHalfEven_eq spaced).mpr rounds]

-- The rounded significand either keeps its 53 bits or has just become a power of two,
-- whose interval reaches down into the finer spacing below it.
theorem attracts_of_nearest? (positive : 0 < denominator)
    (nearest : nearest? numerator denominator = some magnitude) :
    magnitude.Attracts numerator denominator := by
  have fits := fits_log2 numerator positive
  generalize (numerator / denominator).log2 - 52 = shift at fits
  have spaced : 0 < denominator * 2 ^ shift := Nat.mul_pos positive (Nat.two_pow_pos shift)
  have rounds := roundsTo_roundHalfEven numerator spaced
  generalize roundHalfEven numerator (denominator * 2 ^ shift) = significand at rounds
  rw [nearest?_eq_of_fits positive fits rounds] at nearest
  obtain ⟨above, below⟩ := fits
  unfold Attracts
  split at nearest
  · obtain ⟨same, rfl⟩ := ofParts?_eq_some magnitude nearest
    rw [same]
    refine ⟨rounds.2, ?_⟩
    split
    · rename_i least
      rw [least.1]
      rcases below with none | below <;> omega
    · exact rounds.1
  · rename_i carried
    obtain ⟨same, up⟩ := ofParts?_eq_some magnitude nearest
    have wider : denominator * 2 ^ (shift + 1) = 2 * (denominator * 2 ^ shift) := by ring
    have carry := Nat.mul_le_mul_right (denominator * 2 ^ shift) (Nat.le_of_not_lt carried)
    rw [same, up, wider]
    simp only [true_and, Nat.zero_lt_succ, ↓reduceIte]
    obtain ⟨lower, _⟩ := rounds
    omega

/-- Of the intervals that reach below the magnitude's own leading bit, each belongs to a
power of two. -/
theorem Attracts.least (attracts : magnitude.Attracts numerator denominator)
    (shifted : magnitude.shift ≠ 0)
    (below : numerator < 2 ^ 52 * (denominator * 2 ^ magnitude.shift)) :
    magnitude.significand = 2 ^ 52 := by
  have leading := magnitude.leading.resolve_right shifted
  obtain ⟨_, lower⟩ := attracts
  by_contra larger
  have gap : (2 ^ 52 + 1) * (denominator * 2 ^ magnitude.shift) ≤
      magnitude.significand * (denominator * 2 ^ magnitude.shift) :=
    Nat.mul_le_mul_right _ (by omega)
  rw [if_neg fun edge => larger edge.1] at lower
  omega

-- The quotient has the magnitude's own shift, or it lies just below a power of two.
theorem nearest?_of_attracts (positive : 0 < denominator)
    (attracts : magnitude.Attracts numerator denominator) :
    nearest? numerator denominator = some magnitude := by
  have narrow := magnitude.significand_lt
  have top : (magnitude.significand + 1) * (denominator * 2 ^ magnitude.shift) ≤
      2 ^ 53 * (denominator * 2 ^ magnitude.shift) := Nat.mul_le_mul_right _ narrow
  rw [Nat.add_one_mul] at top
  have least := attracts.least
  obtain ⟨upper, lower⟩ := attracts
  by_cases inside :
      magnitude.shift = 0 ∨ 2 ^ 52 * (denominator * 2 ^ magnitude.shift) ≤ numerator
  · have spaced : 0 < denominator * 2 ^ magnitude.shift :=
      Nat.mul_pos positive (Nat.two_pow_pos magnitude.shift)
    have fits : Fits numerator denominator magnitude.shift := ⟨by omega, inside⟩
    have rounds : RoundsTo numerator (denominator * 2 ^ magnitude.shift)
        magnitude.significand := by
      refine ⟨?_, upper⟩
      split at lower
      · rename_i edge
        rw [edge.1]
        omega
      · exact lower
    rw [nearest?_eq_of_fits positive fits rounds, if_pos narrow]
    exact magnitude.ofParts?_self
  · obtain ⟨shifted, below⟩ := not_or.mp inside
    replace least := least shifted (Nat.lt_of_not_le below)
    obtain ⟨shift, up⟩ := Nat.exists_eq_succ_of_ne_zero shifted
    have wider : denominator * 2 ^ shift.succ = 2 * (denominator * 2 ^ shift) := by
      rw [Nat.pow_succ]
      ring
    rw [if_pos ⟨least, Nat.pos_of_ne_zero shifted⟩, least, up, wider] at lower
    rw [up, wider] at below
    have spaced : 0 < denominator * 2 ^ shift := Nat.mul_pos positive (Nat.two_pow_pos shift)
    have reached : 2 * (2 ^ 53 * (denominator * 2 ^ shift)) ≤
        2 * numerator + denominator * 2 ^ shift := by omega
    have fits : Fits numerator denominator shift := ⟨by omega, Or.inr (by omega)⟩
    have rounds : RoundsTo numerator (denominator * 2 ^ shift) (2 ^ 53) :=
      ⟨(Nat.lt_or_eq_of_le reached).imp_right fun tie => ⟨tie, by norm_num⟩, Or.inl (by omega)⟩
    rw [nearest?_eq_of_fits positive fits rounds, if_neg (Nat.lt_irrefl _), ← least,
      ← Nat.succ_eq_add_one, ← up]
    exact magnitude.ofParts?_self

theorem nearest?_eq_some (positive : 0 < denominator) :
    nearest? numerator denominator = some magnitude ↔ magnitude.Attracts numerator denominator :=
  ⟨attracts_of_nearest? positive, nearest?_of_attracts positive⟩

end Interval

theorem nearest?_mul (factor numerator denominator : Nat) (positive : 0 < factor) :
    nearest? (factor * numerator) (factor * denominator) = nearest? numerator denominator := by
  simp only [nearest?, Nat.mul_div_mul_left _ _ positive, Nat.mul_assoc,
    roundHalfEven_mul _ _ _ positive]

end Magnitude

end Reckon
