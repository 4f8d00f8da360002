import Mathlib
import Reckon.Expr.Parser
import Reckon.Proofs.Integers

/-!
The bitwise operators on doubles, against the two's complement operations of the
integers. Zeros at the end of one operand are zeros at the end of the conjunction, and
it is no wider than its wider operand, so it is a double again and nothing is rounded.
A disjunction can need all 64 bits. It is rounded, and one that is rounded up to 2^63 is
no operand any more.
-/

namespace Reckon

section TwosComplement

variable {bits : Nat} {left right number : Int}

theorem within_ofNat {n : Nat} : Within bits (.ofNat n) ↔ n < 2 ^ bits := by
  unfold Within
  rw [Int.ofNat_eq_natCast]
  constructor
  · rintro ⟨_, upper⟩
    exact_mod_cast upper
  · intro small
    have upper : (n : Int) < 2 ^ bits := by exact_mod_cast small
    exact ⟨by omega, upper⟩

theorem within_negSucc {n : Nat} : Within bits (.negSucc n) ↔ n < 2 ^ bits := by
  unfold Within
  rw [Int.negSucc_eq]
  constructor
  · rintro ⟨lower, _⟩
    have upper : (n : Int) < 2 ^ bits := by omega
    exact_mod_cast upper
  · intro small
    have upper : (n : Int) < 2 ^ bits := by exact_mod_cast small
    exact ⟨by omega, by omega⟩

theorem Within.land (first : Within bits left) (second : Within bits right) :
    Within bits (Int.land left right) := by
  cases left <;> cases right <;> simp only [within_ofNat, within_negSucc] at first second
  · exact within_ofNat.mpr (Nat.and_lt_two_pow _ second)
  · exact within_ofNat.mpr (Nat.bitwise_lt_two_pow first second)
  · exact within_ofNat.mpr (Nat.bitwise_lt_two_pow second first)
  · exact within_negSucc.mpr (Nat.or_lt_two_pow first second)

theorem Within.lor (first : Within bits left) (second : Within bits right) :
    Within bits (Int.lor left right) := by
  cases left <;> cases right <;> simp only [within_ofNat, within_negSucc] at first second
  · exact within_ofNat.mpr (Nat.or_lt_two_pow first second)
  · exact within_negSucc.mpr (Nat.bitwise_lt_two_pow second first)
  · exact within_negSucc.mpr (Nat.bitwise_lt_two_pow first second)
  · exact within_negSucc.mpr (Nat.and_lt_two_pow _ second)

theorem ofNat_ldiff (m n : Nat) :
    BitVec.ofNat bits (m.ldiff n) = BitVec.ofNat bits m &&& ~~~BitVec.ofNat bits n := by
  apply BitVec.eq_of_getLsbD_eq
  intro place inside
  simp only [BitVec.getLsbD_and, BitVec.getLsbD_not, BitVec.getLsbD_ofNat, Nat.testBit_ldiff,
    inside, decide_true, Bool.true_and]

-- Two's complement writes `-n - 1` with the opposite of the bits of `n`.
theorem ofInt_land : BitVec.ofInt bits (Int.land left right) =
    BitVec.ofInt bits left &&& BitVec.ofInt bits right := by
  cases left with
  | ofNat m =>
      cases right with
      | ofNat n => exact BitVec.ofNat_and
      | negSucc n =>
          rw [BitVec.ofInt_negSucc_eq_not_ofNat]
          exact ofNat_ldiff m n
  | negSucc m =>
      cases right with
      | ofNat n =>
          rw [BitVec.ofInt_negSucc_eq_not_ofNat, BitVec.and_comm]
          exact ofNat_ldiff n m
      | negSucc n =>
          simp only [Int.land, BitVec.ofInt_negSucc_eq_not_ofNat, BitVec.ofNat_or, BitVec.not_or]

theorem ofInt_lor : BitVec.ofInt bits (Int.lor left right) =
    BitVec.ofInt bits left ||| BitVec.ofInt bits right := by
  cases left with
  | ofNat m =>
      cases right with
      | ofNat n => exact BitVec.ofNat_or
      | negSucc n =>
          rw [BitVec.or_comm]
          simp only [Int.lor, BitVec.ofInt_negSucc_eq_not_ofNat, ofNat_ldiff, BitVec.not_and,
            BitVec.not_not]
          rfl
  | negSucc m =>
      cases right with
      | ofNat n =>
          simp only [Int.lor, BitVec.ofInt_negSucc_eq_not_ofNat, ofNat_ldiff, BitVec.not_and,
            BitVec.not_not]
          rfl
      | negSucc n =>
          simp only [Int.lor, BitVec.ofInt_negSucc_eq_not_ofNat, BitVec.ofNat_and, BitVec.not_and]

theorem ofInt_eq_zero : BitVec.ofInt bits number = BitVec.ofNat bits 0 ↔ (2 : Int) ^ bits ∣ number := by
  rw [← BitVec.toInt_inj, BitVec.toInt_ofInt, BitVec.toInt_zero, ← Int.dvd_iff_bmod_eq_zero,
    Nat.cast_pow, Nat.cast_ofNat]

theorem two_pow_dvd_land (divides : (2 : Int) ^ bits ∣ left) :
    (2 : Int) ^ bits ∣ Int.land left right := by
  rw [← ofInt_eq_zero] at divides ⊢
  rw [ofInt_land, divides, BitVec.zero_and]

theorem land_comm : Int.land left right = Int.land right left := by
  cases left <;> cases right <;> simp only [Int.land, Nat.and_comm, Nat.or_comm]

theorem land_self : Int.land number number = number := by
  cases number <;> simp [Int.land]

theorem toInt_ofInt_word (range : Within 63 number) : (BitVec.ofInt 64 number).toInt = number :=
  BitVec.toInt_ofInt_eq_self (by decide) range.1 range.2

-- The word of an integer determines it, so associativity carries over from words.
theorem land_assoc {last : Int} (first : Within 63 left) (second : Within 63 right)
    (third : Within 63 last) :
    Int.land (Int.land left right) last = Int.land left (Int.land right last) := by
  rw [← toInt_ofInt_word ((first.land second).land third),
    ← toInt_ofInt_word (first.land (second.land third))]
  simp only [ofInt_land, BitVec.and_assoc]

end TwosComplement

section Conjunction

variable {left right : Int} {places more : Nat}

theorem within_of_natAbs_lt (small : left.natAbs < 2 ^ 53 * 2 ^ places) (wider : places ≤ more) :
    Within (53 + more) left := by
  have room : 2 ^ 53 * 2 ^ places ≤ 2 ^ (53 + more) := by
    rw [← Nat.pow_add]
    exact Nat.pow_le_pow_right Nat.two_pos (by omega)
  have bound : (left.natAbs : Int) < 2 ^ (53 + more) := by exact_mod_cast small.trans_le room
  constructor <;> omega

-- Two negative operands can give the power of two above both, which has fewer bits again.
theorem land_holds (first : left.natAbs < 2 ^ 53 * 2 ^ more)
    (second : right.natAbs < 2 ^ 53 * 2 ^ places) (wider : places ≤ more)
    (divides : (2 : Int) ^ more ∣ left) (range : Within 63 (Int.land left right)) :
    (Double.ofInt (Int.land left right)).Holds (Int.land left right) := by
  obtain ⟨lower, upper⟩ :=
    (within_of_natAbs_lt first (Nat.le_refl more)).land (within_of_natAbs_lt second wider)
  have bound : ((Int.land left right).natAbs : Int) ≤ 2 ^ (53 + more) := by omega
  rw [pow_add] at bound
  exact Double.ofInt_holds (two_pow_dvd_land divides) (by exact_mod_cast bound) range

end Conjunction

namespace Double

variable {a b : Double} {left right : Int}

theorem bitwise_eq (combine : BitVec 64 → BitVec 64 → BitVec 64) (first : a.toInt64 = .ok left)
    (second : b.toInt64 = .ok right) :
    bitwise combine a b =
      .ok (.ofInt (combine (.ofInt 64 left) (.ofInt 64 right)).toInt) := by
  unfold bitwise
  rw [first, second]
  rfl

theorem apply_and (first : a.toInt64 = .ok left) (second : b.toInt64 = .ok right) :
    Operator.and.apply a b = .ok (.ofInt (Int.land left right)) := by
  have range := (toInt64_within first).land (toInt64_within second)
  rw [Operator.apply, bitwise_eq _ first second, ← ofInt_land, toInt_ofInt_word range]

theorem apply_or (first : a.toInt64 = .ok left) (second : b.toInt64 = .ok right) :
    Operator.or.apply a b = .ok (.ofInt (Int.lor left right)) := by
  have range := (toInt64_within first).lor (toInt64_within second)
  rw [Operator.apply, bitwise_eq _ first second, ← ofInt_lor, toInt_ofInt_word range]

theorem conjunction_holds (first : a.toInt64 = .ok left) (second : b.toInt64 = .ok right) :
    (ofInt (Int.land left right)).Holds (Int.land left right) := by
  have range := (toInt64_within first).land (toInt64_within second)
  obtain ⟨places, divides, small⟩ := toInt64_coarse first
  obtain ⟨places', divides', small'⟩ := toInt64_coarse second
  rcases Nat.le_total places' places with wider | wider
  · exact land_holds small small' wider divides range
  · rw [land_comm] at range ⊢
    exact land_holds small' small wider divides' range

theorem conjunction_toInt64 (first : a.toInt64 = .ok left) (second : b.toInt64 = .ok right) :
    (ofInt (Int.land left right)).toInt64 = .ok (Int.land left right) :=
  toInt64_of_holds (conjunction_holds first second)
    ((toInt64_within first).land (toInt64_within second))

/-- A disjunction is an operand again exactly when it is not rounded up to 2^63. -/
theorem disjunction_toInt64 (first : a.toInt64 = .ok left) (second : b.toInt64 = .ok right) :
    (∃ number, (ofInt (Int.lor left right)).toInt64 = .ok number) ↔
      Int.lor left right < 2 ^ 63 - 512 := by
  have range := (toInt64_within first).lor (toInt64_within second)
  constructor
  · rintro ⟨number, converts⟩
    by_contra large
    rw [ofInt_beyond (not_lt.mp large) range, toInt64_beyond] at converts
    cases converts
  · intro small
    exact toInt64_ofInt small range

end Double

namespace Expr

theorem evaluate_leaf (value : Double) : evaluate (.leaf value) = .ok value := rfl

theorem evaluate_join {op : Operator} {left right : Expr} {a b : Double}
    (first : left.evaluate = .ok a) (second : right.evaluate = .ok b) :
    evaluate (.binary op left right) = op.apply a b := by
  unfold evaluate at first second ⊢
  rw [Tree.evaluateBy, first, second]
  rfl

end Expr

/-- The conjunction of two operands is the conjunction of their integers, exactly, and is
an operand again with that integer. So conjunction does not depend on order or grouping,
and with itself an operand gives its integer. -/
theorem conjunction_exact (a b c : Double) (i j k : Int) (first : a.toInt64 = .ok i)
    (second : b.toInt64 = .ok j) (third : c.toInt64 = .ok k) :
    let both (left right : Expr) : Expr := .binary .and left right
    let x : Expr := .leaf a
    let y : Expr := .leaf b
    let z : Expr := .leaf c
    ((both x y).evaluate = .ok (.ofInt (Int.land i j)) ∧
      (Double.ofInt (Int.land i j)).Holds (Int.land i j) ∧
      (Double.ofInt (Int.land i j)).toInt64 = .ok (Int.land i j)) ∧
    (both y x).evaluate = (both x y).evaluate ∧
    (∃ value, (both (both x y) z).evaluate = .ok value ∧ (both x (both y z)).evaluate = .ok value) ∧
    (both x x).evaluate = .ok (.ofInt i) ∧ (Double.ofInt i).Holds i := by
  intro both x y z
  have value {left right : Expr} {u v : Double} {m n : Int} (read : left.evaluate = .ok u)
      (read' : right.evaluate = .ok v) (whole : u.toInt64 = .ok m) (whole' : v.toInt64 = .ok n) :
      (both left right).evaluate = .ok (.ofInt (Int.land m n)) := by
    rw [Expr.evaluate_join read read', Double.apply_and whole whole']
  have pair := value (Expr.evaluate_leaf a) (Expr.evaluate_leaf b) first second
  have closed := Double.conjunction_toInt64 first second
  refine ⟨⟨pair, Double.conjunction_holds first second, closed⟩, ?_, ?_, ?_, ?_⟩
  · rw [pair, land_comm]
    exact value (Expr.evaluate_leaf b) (Expr.evaluate_leaf a) second first
  · have other := value (Expr.evaluate_leaf b) (Expr.evaluate_leaf c) second third
    have closed' := Double.conjunction_toInt64 second third
    refine ⟨_, value pair (Expr.evaluate_leaf c) closed third, ?_⟩
    rw [land_assoc (Double.toInt64_within first) (Double.toInt64_within second)
      (Double.toInt64_within third)]
    exact value (Expr.evaluate_leaf a) other first closed'
  · have same := value (Expr.evaluate_leaf a) (Expr.evaluate_leaf a) first first
    rwa [land_self] at same
  · have exact := Double.conjunction_holds first first
    rwa [land_self] at exact

/-- Both operands have 53 bits or fewer, and their conjunction is the power of two above
them; a third one leaves it as it is. -/
theorem conjunction_exact_carried :
    let a : Double := .finite true .summit
    let b : Double := .ofInt (-1025)
    let c : Double := .divide (.ofInt (-7)) (.ofInt 2)
    (a.toInt64 = .ok (-2 ^ 63 + 1024) ∧ b.toInt64 = .ok (-1025) ∧ c.toInt64 = .ok (-3)) ∧
    Expr.evaluate (.binary .and (.leaf a) (.leaf b)) = .ok (.finite true .ceiling) ∧
    ∃ value, Expr.evaluate (.binary .and (.binary .and (.leaf a) (.leaf b)) (.leaf c)) = .ok value ∧
      Expr.evaluate (.binary .and (.leaf a) (.binary .and (.leaf b) (.leaf c))) = .ok value := by
  intro a b c
  have first : a.toInt64 = .ok (-2 ^ 63 + 1024) := by decide +kernel
  have second : b.toInt64 = .ok (-1025) := by decide +kernel
  have third : c.toInt64 = .ok (-3) := by decide +kernel
  obtain ⟨⟨conjoined, _⟩, _, grouped, _⟩ := conjunction_exact a b c _ _ _ first second third
  have grown : Double.ofInt (Int.land (-2 ^ 63 + 1024) (-1025)) = .finite true .ceiling := by
    decide +kernel
  refine ⟨⟨first, second, third⟩, ?_, grouped⟩
  rw [← grown]
  exact conjoined

section Chain

def orChain (first : Double) (rest : List Double) : Expr :=
  rest.foldl (fun tree operand => .binary .or tree (.leaf operand)) (.leaf first)

def Overflows (first : Double) (rest : List Double) : Prop :=
  ∃ before after, rest = before ++ after ∧ after ≠ [] ∧
    (orChain first before).evaluate = .ok .beyondInt64

variable {first operand value : Double} {rest : List Double}

theorem orChain_snoc (first operand : Double) (rest : List Double) :
    orChain first (rest ++ [operand]) = .binary .or (orChain first rest) (.leaf operand) := by
  rw [orChain, List.foldl_append]
  rfl

theorem not_overflows_nil (first : Double) : ¬ Overflows first [] := by
  rintro ⟨before, after, parts, more, _⟩
  exact more (List.append_eq_nil_iff.mp parts.symm).2

theorem overflows_snoc :
    Overflows first (rest ++ [operand]) ↔
      (orChain first rest).evaluate = .ok .beyondInt64 ∨ Overflows first rest := by
  constructor
  · rintro ⟨before, after, parts, more, reached⟩
    obtain ⟨middle, last, rfl⟩ := (List.eq_nil_or_concat after).resolve_left more
    rw [List.concat_eq_append, ← List.append_assoc] at parts
    obtain ⟨rfl, _⟩ := List.append_inj' parts rfl
    by_cases none : middle = []
    · left
      rwa [none, List.append_nil]
    · exact Or.inr ⟨before, middle, rfl, none, reached⟩
  · rintro (reached | ⟨before, after, rfl, _, reached⟩)
    · exact ⟨rest, [operand], rfl, List.cons_ne_nil _ _, reached⟩
    · exact ⟨before, after ++ [operand], List.append_assoc _ _ _, by simp, reached⟩

theorem evaluate_snoc (operand : Double) (held : (orChain first rest).evaluate = .ok value) :
    (orChain first (rest ++ [operand])).evaluate = Operator.or.apply value operand := by
  rw [orChain_snoc]
  exact Expr.evaluate_join held (Expr.evaluate_leaf operand)

theorem evaluate_snoc_failed {error : EvalError}
    (failed : (orChain first rest).evaluate = .error error) :
    (orChain first (rest ++ [operand])).evaluate = .error error := by
  rw [orChain_snoc]
  unfold Expr.evaluate at failed ⊢
  rw [Tree.evaluateBy, failed]
  rfl

theorem apply_or_beyond (operand : Double) :
    Operator.or.apply .beyondInt64 operand = .error (.outsideRange .beyondInt64) := by
  rw [Operator.apply, Double.bitwise, Double.toInt64_beyond]
  rfl

/-- What is known of a chain: it has a value that is an operand again, or the value 2^63,
or it failed because a shorter chain had that value. -/
inductive OrState (first : Double) (rest : List Double) : Prop
  | operand (value : Double) (number : Int) (held : (orChain first rest).evaluate = .ok value)
      (converts : value.toInt64 = .ok number) (kept : ¬ Overflows first rest)
  | beyond (held : (orChain first rest).evaluate = .ok .beyondInt64)
      (kept : ¬ Overflows first rest)
  | failed (fails : (orChain first rest).evaluate = .error (.outsideRange .beyondInt64))
      (overflows : Overflows first rest)

theorem beyond_not_operand {number : Int} : Double.beyondInt64.toInt64 ≠ .ok number := by
  rw [Double.toInt64_beyond]
  exact fun same => by cases same

theorem OrState.snoc (state : OrState first rest) {number : Int}
    (converts : operand.toInt64 = .ok number) : OrState first (rest ++ [operand]) := by
  cases state with
  | operand value whole held accepted kept =>
      have next := evaluate_snoc operand held
      rw [Double.apply_or accepted converts] at next
      have kept' : ¬ Overflows first (rest ++ [operand]) := by
        rw [overflows_snoc]
        rintro (reached | earlier)
        · rw [held] at reached
          cases reached
          exact beyond_not_operand accepted
        · exact kept earlier
      have range := (Double.toInt64_within accepted).lor (Double.toInt64_within converts)
      by_cases small : Int.lor whole number < 2 ^ 63 - 512
      · obtain ⟨result, accepted'⟩ := Double.toInt64_ofInt small range
        exact .operand _ result next accepted' kept'
      · rw [Double.ofInt_beyond (not_lt.mp small) range] at next
        exact .beyond next kept'
  | beyond held kept =>
      have next := evaluate_snoc operand held
      rw [apply_or_beyond] at next
      exact .failed next (overflows_snoc.mpr (Or.inl held))
  | failed fails overflows =>
      exact .failed (evaluate_snoc_failed fails) (overflows_snoc.mpr (Or.inr overflows))

theorem orState (accepted : ∀ x ∈ first :: rest, ∃ number, x.toInt64 = .ok number) :
    OrState first rest := by
  induction rest using List.reverseRecOn with
  | nil =>
      obtain ⟨number, converts⟩ := accepted first List.mem_cons_self
      exact .operand first number rfl converts (not_overflows_nil first)
  | append_singleton rest operand ih =>
      obtain ⟨number, converts⟩ := accepted operand (by simp)
      refine (ih ?_).snoc converts
      intro x member
      apply accepted
      rcases List.mem_cons.mp member with rfl | inside
      · exact List.mem_cons_self
      · exact List.mem_cons_of_mem _ (List.mem_append_left _ inside)

/-- A chain of operands has a value unless a shorter chain has the value 2^63, and then the
failure reports that value. The disjunction of two operands is rounded to 2^63 when it is
one of the last 512 integers below it; otherwise it is an operand again. -/
theorem orChain_value_or_overflow (first : Double) (rest : List Double)
    (accepted : ∀ x ∈ first :: rest, ∃ number, x.toInt64 = .ok number) :
    ((∃ value, (orChain first rest).evaluate = .ok value) ↔ ¬ Overflows first rest) ∧
    ((orChain first rest).evaluate = .error (.outsideRange .beyondInt64) ↔
      Overflows first rest) ∧
    ∀ a b i j, a.toInt64 = .ok i → b.toInt64 = .ok j →
      Expr.evaluate (.binary .or (.leaf a) (.leaf b)) = .ok (.ofInt (Int.lor i j)) ∧
      ((∃ number, (Double.ofInt (Int.lor i j)).toInt64 = .ok number) ↔
        Int.lor i j < 2 ^ 63 - 512) ∧
      (Double.ofInt (Int.lor i j) = .beyondInt64 ↔ 2 ^ 63 - 512 ≤ Int.lor i j) := by
  refine and_assoc.mp ⟨?_, ?_⟩
  · cases orState accepted with
    | operand value number held converts kept => simp [held, kept]
    | beyond held kept => simp [held, kept]
    | failed fails overflows => simp [fails, overflows]
  · intro a b i j left right
    have again := Double.disjunction_toInt64 left right
    have range := (Double.toInt64_within left).lor (Double.toInt64_within right)
    refine ⟨Double.apply_or left right, again, ?_, fun large => Double.ofInt_beyond large range⟩
    intro reached
    rw [reached] at again
    by_contra small
    obtain ⟨number, converts⟩ := again.mpr (not_le.mp small)
    exact beyond_not_operand converts

/-- The disjunction of `2^63 - 1024` and `1023` is an integer of 64 bits and is rounded to
2^63, which the next `|` refuses. -/
theorem orChain_leaves_range :
    let large : Double := .finite false .summit
    let ones : Double := .ofInt 1023
    parse "9223372036854774784|1023|0".toList = .ok (orChain large [ones, .zero]) ∧
    (∀ x ∈ [large, ones, .zero], ∃ number, x.toInt64 = .ok number) ∧
    (orChain large [ones, .zero]).evaluate = .error (.outsideRange .beyondInt64) ∧
    ¬ ∃ value, (orChain large [ones, .zero]).evaluate = .ok value := by
  intro large ones
  have fails : (orChain large [ones, .zero]).evaluate = .error (.outsideRange .beyondInt64) := by
    decide +kernel
  have first : large.toInt64 = .ok (2 ^ 63 - 1024) := by decide +kernel
  have second : ones.toInt64 = .ok 1023 := by decide +kernel
  have third : Double.zero.toInt64 = .ok 0 := by decide +kernel
  refine ⟨by decide +kernel, ?_, fails, ?_⟩
  · simp only [List.forall_mem_cons, first, second, third]
    simp
  · rintro ⟨value, held⟩
    rw [fails] at held
    cases held

/-- A negative operand in front keeps the same bits in range; without it the third operand
meets 2^63. -/
theorem orChain_value_or_overflow_kept :
    let large : Double := .finite false .summit
    let ones : Double := .ofInt 1023
    (∀ x ∈ [.ofInt (-2 ^ 63), large, ones], ∃ number, x.toInt64 = .ok number) ∧
    (∃ value, (orChain (.ofInt (-2 ^ 63)) [large, ones]).evaluate = .ok value) ∧
    Overflows large [ones, ones] := by
  intro large ones
  have least : (Double.ofInt (-2 ^ 63)).toInt64 = .ok (-2 ^ 63) := by decide +kernel
  have first : large.toInt64 = .ok (2 ^ 63 - 1024) := by decide +kernel
  have second : ones.toInt64 = .ok 1023 := by decide +kernel
  have accepted : ∀ x ∈ [.ofInt (-2 ^ 63), large, ones], ∃ number, x.toInt64 = .ok number := by
    simp only [List.forall_mem_cons, least, first, second]
    simp
  have negative : (orChain (.ofInt (-2 ^ 63)) [large, ones]).evaluate ≠
      .error (.outsideRange .beyondInt64) := by decide +kernel
  have kept := orChain_value_or_overflow (.ofInt (-2 ^ 63)) [large, ones] accepted
  refine ⟨accepted, kept.1.mpr (mt kept.2.1.mpr negative), ?_⟩
  apply (orChain_value_or_overflow large [ones, ones] ?_).2.1.mp
  · decide +kernel
  · simp only [List.forall_mem_cons, first, second]
    simp

end Chain

end Reckon
