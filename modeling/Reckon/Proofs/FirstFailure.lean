import Mathlib
import Reckon.Proofs.Integers

/-!
When evaluation fails, and what it reports. Nothing fails but a bitwise operator with an
operand that has no 64-bit integer, and nothing is left out on the way to it: the walk
meets the joins of a tree in post-order, and the first one with such an operand decides.
The arithmetic is a parameter, so none of this depends on what sums or powers are.
-/

namespace Reckon

structure Arithmetic where
  negate : Double → Double
  add : Double → Double → Double
  subtract : Double → Double → Double
  multiply : Double → Double → Double
  divide : Double → Double → Double
  power : Double → Double → Double

def Arithmetic.standard : Arithmetic where
  negate := Double.negate
  add := Double.add
  subtract := Double.subtract
  multiply := Double.multiply
  divide := Double.divide
  power := Double.power

def Operator.applyUnder (arithmetic : Arithmetic) :
    Operator → Double → Double → Except EvalError Double
  | .and, left, right => Double.bitwise (· &&& ·) left right
  | .or, left, right => Double.bitwise (· ||| ·) left right
  | .add, left, right => .ok (arithmetic.add left right)
  | .subtract, left, right => .ok (arithmetic.subtract left right)
  | .multiply, left, right => .ok (arithmetic.multiply left right)
  | .divide, left, right => .ok (arithmetic.divide left right)
  | .power, left, right => .ok (arithmetic.power left right)

def Operator.IsBitwise (op : Operator) : Prop := op = .and ∨ op = .or

structure Join where
  op : Operator
  left : Expr
  right : Expr

namespace Expr

def evaluateUnder (arithmetic : Arithmetic) : Expr → Except EvalError Double
  | .leaf value => .ok value
  | .negative operand => do
      let x ← evaluateUnder arithmetic operand
      return arithmetic.negate x
  | .binary op left right => do
      let a ← evaluateUnder arithmetic left
      let b ← evaluateUnder arithmetic right
      op.applyUnder arithmetic a b

/-- The joins of a tree in post-order, the left operand's first. -/
def joins : Expr → List Join
  | .leaf _ => []
  | .negative operand => joins operand
  | .binary op left right => joins left ++ joins right ++ [⟨op, left, right⟩]

theorem applyUnder_standard (op : Operator) : op.applyUnder .standard = op.apply := by
  cases op <;> rfl

theorem evaluateUnder_standard (tree : Expr) : tree.evaluateUnder .standard = tree.evaluate := by
  unfold evaluate
  induction tree with
  | leaf value => rfl
  | negative operand ih => rw [evaluateUnder, ih]; rfl
  | binary op left right ihLeft ihRight =>
      rw [evaluateUnder, ihLeft, ihRight, applyUnder_standard]
      rfl

end Expr

namespace Join

variable (arithmetic : Arithmetic) (join : Join)

def Bad : Prop :=
  join.op.IsBitwise ∧ ∃ a b, join.left.evaluateUnder arithmetic = .ok a ∧
    join.right.evaluateUnder arithmetic = .ok b ∧
    ((∃ error, a.Unfit error) ∨ ∃ error, b.Unfit error)

def Reports (error : EvalError) : Prop :=
  join.op.IsBitwise ∧ ∃ a b, join.left.evaluateUnder arithmetic = .ok a ∧
    join.right.evaluateUnder arithmetic = .ok b ∧
    (a.Unfit error ∨ (∀ other, ¬ a.Unfit other) ∧ b.Unfit error)

end Join

section Operation

variable {arithmetic : Arithmetic} {op : Operator} {a b : Double} {error : EvalError}

/-- The left operand is looked at first, and the right one only if that one passes. -/
theorem bitwise_eq_error (combine : BitVec 64 → BitVec 64 → BitVec 64) :
    Double.bitwise combine a b = .error error ↔
      a.Unfit error ∨ (∀ other, ¬ a.Unfit other) ∧ b.Unfit error := by
  simp only [← Double.toInt64_eq_error]
  unfold Double.bitwise
  cases a.toInt64 with
  | error found => simp [bind, Except.bind]
  | ok i =>
      cases b.toInt64 with
      | error found => simp [bind, Except.bind]
      | ok j => simp [bind, Except.bind, pure, Except.pure]

theorem applyUnder_eq_error :
    op.applyUnder arithmetic a b = .error error ↔
      op.IsBitwise ∧ (a.Unfit error ∨ (∀ other, ¬ a.Unfit other) ∧ b.Unfit error) := by
  cases op with
  | and => simp [Operator.applyUnder, Operator.IsBitwise, bitwise_eq_error]
  | or => simp [Operator.applyUnder, Operator.IsBitwise, bitwise_eq_error]
  | _ => simp [Operator.applyUnder, Operator.IsBitwise]

end Operation

def failureOf {α : Type} : Except EvalError α → Option EvalError
  | .ok _ => none
  | .error error => some error

theorem failureOf_eq_some {α : Type} {outcome : Except EvalError α} {error : EvalError} :
    failureOf outcome = some error ↔ outcome = .error error := by
  cases outcome <;> simp [failureOf]

namespace Join

variable {arithmetic : Arithmetic} {join : Join} {error : EvalError}

def failure? (arithmetic : Arithmetic) (join : Join) : Option EvalError :=
  match join.left.evaluateUnder arithmetic, join.right.evaluateUnder arithmetic with
  | .ok a, .ok b => failureOf (join.op.applyUnder arithmetic a b)
  | _, _ => none

theorem failure?_eq_some : join.failure? arithmetic = some error ↔ join.Reports arithmetic error := by
  unfold failure? Reports
  cases join.left.evaluateUnder arithmetic with
  | error found => simp
  | ok a =>
      cases join.right.evaluateUnder arithmetic with
      | error found => simp
      | ok b => simp [failureOf_eq_some, applyUnder_eq_error]

theorem bad_iff : join.Bad arithmetic ↔ ∃ error, join.Reports arithmetic error := by
  constructor
  · rintro ⟨bitwise, a, b, left, right, unfit⟩
    by_cases passes : ∀ other, ¬ a.Unfit other
    · obtain ⟨error, reported⟩ := unfit.resolve_left (not_exists.mpr passes)
      exact ⟨error, bitwise, a, b, left, right, Or.inr ⟨passes, reported⟩⟩
    · obtain ⟨error, reported⟩ := not_forall_not.mp passes
      exact ⟨error, bitwise, a, b, left, right, Or.inl reported⟩
  · rintro ⟨error, bitwise, a, b, left, right, reported⟩
    refine ⟨bitwise, a, b, left, right, ?_⟩
    exact reported.imp (Exists.intro error) fun second => ⟨error, second.2⟩

theorem failure?_eq_none : join.failure? arithmetic = none ↔ ¬ join.Bad arithmetic := by
  simp only [bad_iff, ← failure?_eq_some, Option.eq_none_iff_forall_ne_some, not_exists, ne_eq]

end Join

/-- Evaluation reports what the first of the joins reports. -/
theorem Expr.failureOf_evaluateUnder (arithmetic : Arithmetic) (tree : Expr) :
    failureOf (tree.evaluateUnder arithmetic) = tree.joins.findSome? (Join.failure? arithmetic) := by
  induction tree with
  | leaf value => rfl
  | negative operand ih =>
      rw [joins, ← ih, evaluateUnder]
      cases Expr.evaluateUnder arithmetic operand <;> rfl
  | binary op left right ihLeft ihRight =>
      rw [joins, List.findSome?_append, List.findSome?_append, ← ihLeft, ← ihRight, evaluateUnder,
        List.findSome?_singleton, Join.failure?]
      cases Expr.evaluateUnder arithmetic left with
      | error error => rfl
      | ok a =>
          cases Expr.evaluateUnder arithmetic right with
          | error error => rfl
          | ok b => rfl

section Evaluation

variable {arithmetic : Arithmetic} {tree : Expr}

theorem Expr.evaluateUnder_eq_error {error : EvalError} :
    tree.evaluateUnder arithmetic = .error error ↔
      ∃ before join after, tree.joins = before ++ join :: after ∧
        (∀ earlier ∈ before, ¬ earlier.Bad arithmetic) ∧ join.Reports arithmetic error := by
  rw [← failureOf_eq_some, failureOf_evaluateUnder, List.findSome?_eq_some_iff]
  simp only [Join.failure?_eq_some, Join.failure?_eq_none, and_comm]

theorem Expr.evaluateUnder_fails_iff :
    (∃ error, tree.evaluateUnder arithmetic = .error error) ↔
      ∃ join ∈ tree.joins, join.Bad arithmetic := by
  simp only [← failureOf_eq_some, failureOf_evaluateUnder, ← Option.isSome_iff_exists,
    List.findSome?_isSome_iff, Join.bad_iff, ← Join.failure?_eq_some]

theorem Expr.evaluateUnder_binary_right {op : Operator} {left right : Expr} {value : Double}
    {error : EvalError} (held : left.evaluateUnder arithmetic = .ok value)
    (fails : right.evaluateUnder arithmetic = .error error) :
    Expr.evaluateUnder arithmetic (.binary op left right) = .error error := by
  rw [Expr.evaluateUnder, held, fails]
  rfl

/-- Evaluation fails exactly when some bitwise join has two values for operands and no
integer for one of them. The first such join in post-order is the one reported, by its
left operand if that one is at fault. So a tree without bitwise joins always has a value,
and a right operand that fails is met whatever stands on its left. -/
theorem evaluate_first_failure (arithmetic : Arithmetic) (tree : Expr) :
    ((∃ error, tree.evaluateUnder arithmetic = .error error) ↔
      ∃ join ∈ tree.joins, join.Bad arithmetic) ∧
    (∀ error, tree.evaluateUnder arithmetic = .error error ↔
      ∃ before join after, tree.joins = before ++ join :: after ∧
        (∀ earlier ∈ before, ¬ earlier.Bad arithmetic) ∧ join.Reports arithmetic error) ∧
    ((∀ join ∈ tree.joins, ¬ join.op.IsBitwise) →
      ∃ value, tree.evaluateUnder arithmetic = .ok value) ∧
    (∀ op (left : Expr) value error, left.evaluateUnder arithmetic = .ok value →
      tree.evaluateUnder arithmetic = .error error →
      Expr.evaluateUnder arithmetic (.binary op left tree) = .error error) ∧
    tree.evaluateUnder .standard = tree.evaluate := by
  refine ⟨Expr.evaluateUnder_fails_iff, fun error => Expr.evaluateUnder_eq_error, ?_, ?_,
    tree.evaluateUnder_standard⟩
  · intro plain
    cases outcome : tree.evaluateUnder arithmetic with
    | ok value => exact ⟨value, rfl⟩
    | error error =>
        obtain ⟨join, member, bitwise, _⟩ := Expr.evaluateUnder_fails_iff.mp ⟨error, outcome⟩
        exact absurd bitwise (plain join member)
  · intro op left value error held fails
    exact Expr.evaluateUnder_binary_right held fails

-- In `(0 & (0 | nan)) | (inf & 1)` two joins are bad, and the inner one comes first.
theorem evaluate_first_failure_inner :
    let inner : Expr := .binary .or (.leaf .zero) (.leaf .nan)
    let other : Expr := .binary .and (.leaf (.infinity false)) (.leaf .one)
    let tree : Expr := .binary .or (.binary .and (.leaf .zero) inner) other
    inner.evaluate = .error (.notFinite .nan) ∧
    Expr.evaluate (.binary .and (.leaf .zero) inner) = .error (.notFinite .nan) ∧
    tree.evaluate = .error (.notFinite .nan) ∧
    ∃ value, Expr.evaluate (.binary .divide (.leaf .one) (.leaf .zero)) = .ok value := by
  intro inner other tree
  have holds : Double.zero.Holds 0 := ⟨false, .zero, rfl, by rw [zero_mul]; rfl⟩
  have passes : ∀ other, ¬ Double.zero.Unfit other := by
    intro other unfit
    have kept := Double.toInt64_of_holds holds (by simp [Within])
    simp [Double.toInt64_eq_error.mpr unfit] at kept
  have reported : Join.Reports .standard ⟨.or, .leaf .zero, .leaf .nan⟩ (.notFinite .nan) :=
    ⟨Or.inr rfl, .zero, .nan, rfl, rfl, Or.inr ⟨passes, .nan⟩⟩
  obtain ⟨_, innerFirst, _, masked, _⟩ := evaluate_first_failure .standard inner
  obtain ⟨_, treeFirst, _⟩ := evaluate_first_failure .standard tree
  obtain ⟨_, _, plain, _⟩ :=
    evaluate_first_failure .standard (.binary .divide (.leaf .one) (.leaf .zero))
  have innerFails : inner.evaluateUnder .standard = .error (.notFinite .nan) :=
    (innerFirst _).mpr ⟨[], _, [], rfl, by simp, reported⟩
  have treeFails : tree.evaluateUnder .standard = .error (.notFinite .nan) :=
    (treeFirst _).mpr ⟨[], _, _, rfl, by simp, reported⟩
  have maskedFails := masked .and (.leaf .zero) .zero _ rfl innerFails
  have quotient := plain (by simp [Expr.joins, Operator.IsBitwise])
  simp only [Expr.evaluateUnder_standard] at innerFails treeFails maskedFails quotient
  exact ⟨innerFails, maskedFails, treeFails, quotient⟩

end Evaluation

end Reckon
