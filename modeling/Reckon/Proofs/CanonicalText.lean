import Reckon.Expr.Description
import Reckon.Proofs.RoundTrip

/-!
When two texts have the same tree. Trees are compared with their leaves as numbers, and
in general that is not equality: nan differs from itself, and the two zeros are the same
although they are written differently and divide differently. No text puts such a leaf
into a tree. So the comparison of the trees of texts is equality, the parenthesized text
tells the trees apart, and whatever is computed from one is computed from the other.
-/

namespace Reckon

def Double.mergeZeros : Double → Double
  | .finite negative magnitude => .finite (negative && magnitude != .zero) magnitude
  | x => x

theorem Double.sameNumber_iff (x y : Double) :
    x.sameNumber y = true ↔ x ≠ .nan ∧ x.mergeZeros = y.mergeZeros := by
  cases x with
  | nan => simp [sameNumber]
  | infinity negative => cases y <;> simp [sameNumber, mergeZeros]
  | finite negative magnitude =>
      cases y with
      | nan => simp [sameNumber, mergeZeros]
      | infinity negative' => simp [sameNumber, mergeZeros]
      | finite negative' magnitude' =>
          simp only [sameNumber, mergeZeros, Bool.and_eq_true, Bool.or_eq_true, beq_iff_eq,
            ne_eq, reduceCtorEq, not_false_eq_true, true_and, Double.finite.injEq]
          constructor
          · rintro ⟨rfl, rfl | rfl⟩
            · exact ⟨rfl, rfl⟩
            · simp
          · rintro ⟨signs, rfl⟩
            refine ⟨rfl, ?_⟩
            by_cases zero : magnitude = .zero
            · exact Or.inr zero
            · rw [bne_iff_ne.mpr zero, Bool.and_true, Bool.and_true] at signs
              exact Or.inl signs

namespace Tree

variable {α β : Type}

/-- A map that changes no leaf changes nothing. -/
theorem map_eq_self {f : α → α} {tree : Tree α} (kept : ∀ value ∈ tree.leaves, f value = value) :
    tree.map f = tree := by
  induction tree with
  | leaf value => rw [map, kept value (List.mem_singleton.mpr rfl)]
  | negative operand ih => rw [map, ih kept]
  | binary op left right ihLeft ihRight =>
      rw [map, ihLeft fun value member => kept value (List.mem_append_left _ member),
        ihRight fun value member => kept value (List.mem_append_right _ member)]

/-- A limit that the first tree keeps does not show in a comparison. -/
theorem sameWithin?_eq (same : α → β → Bool) (first : Tree α) (second : Tree β) {levels : Nat}
    (enough : first.height ≤ levels) :
    first.sameWithin? same levels second = some (first.sameBy same second) := by
  induction first generalizing second levels with
  | leaf value =>
      obtain ⟨levels, rfl⟩ := Nat.exists_eq_add_of_le' enough
      cases second <;> rfl
  | negative operand ih =>
      obtain ⟨levels, rfl⟩ := Nat.exists_eq_add_of_le' (Nat.le_trans (Nat.le_add_left 1 _) enough)
      cases second with
      | leaf value => rfl
      | negative operand' => exact ih operand' (Nat.le_of_succ_le_succ enough)
      | binary op left right => rfl
  | binary op left right ihLeft ihRight =>
      obtain ⟨levels, rfl⟩ := Nat.exists_eq_add_of_le' (Nat.le_trans (Nat.le_add_left 1 _) enough)
      have shallow := Nat.max_le.mp (Nat.le_of_succ_le_succ enough)
      cases second with
      | leaf value => rfl
      | negative operand => rfl
      | binary op' left' right' =>
          rw [sameWithin?, sameBy, ihLeft left' shallow.1, ihRight right' shallow.2]
          by_cases joint : op = op'
          · cases left.sameBy same left' <;> simp [joint]
          · simp [joint]

end Tree

/-- Trees are the same when they differ at most in the signs of zeros and hold no nan. -/
theorem Expr.same_iff (first second : Expr) :
    first.same second = true ↔
      (∀ value ∈ first.leaves, value ≠ .nan) ∧
        first.map Double.mergeZeros = second.map Double.mergeZeros := by
  unfold Expr.same
  induction first generalizing second with
  | leaf value =>
      cases second <;>
        simp [Tree.sameBy, Tree.map, Tree.leaves, Double.sameNumber_iff]
  | negative operand ih =>
      cases second <;> simp [Tree.sameBy, Tree.map, Tree.leaves, ih]
  | binary op left right ihLeft ihRight =>
      cases second with
      | leaf value => simp [Tree.sameBy, Tree.map]
      | negative operand => simp [Tree.sameBy, Tree.map]
      | binary op' left' right' =>
          simp only [Tree.sameBy, Tree.map, Tree.leaves, Bool.and_eq_true, decide_eq_true_eq,
            ihLeft, ihRight, List.forall_mem_append, Tree.binary.injEq]
          constructor
          · rintro ⟨⟨joint, plain, same⟩, plain', same'⟩
            exact ⟨⟨plain, plain'⟩, joint, same, same'⟩
          · rintro ⟨⟨plain, plain'⟩, joint, same, same'⟩
            exact ⟨⟨joint, plain, same⟩, plain', same'⟩

-- Two zeros are the same number, and are written differently.
example :
    let negativeZero : Expr := .leaf (.finite true .zero)
    let zero : Expr := .leaf .zero
    negativeZero.same zero = true ∧ negativeZero.parenthesized ≠ zero.parenthesized := by
  decide +kernel

structure Accepted where
  text : List Char
  tree : Expr
  parsed : parse text = .ok tree

namespace Accepted

variable (a b : Accepted)

theorem same_iff_eq : a.tree.same b.tree = true ↔ a.tree = b.tree := by
  have plain : ∀ value ∈ a.tree.leaves, value ≠ .nan := by
    intro value member
    obtain ⟨size, rfl⟩ := parse_leaves a.parsed value member
    exact Double.noConfusion
  have merged (c : Accepted) : c.tree.map Double.mergeZeros = c.tree := by
    apply Tree.map_eq_self
    intro value member
    obtain ⟨size, rfl⟩ := parse_leaves c.parsed value member
    rfl
  rw [Expr.same_iff, merged a, merged b]
  exact and_iff_right plain

theorem parse_canonical : parse a.tree.parenthesized = .ok a.tree := parse_of_parsed a.parsed

theorem parenthesized_eq_iff : a.tree.parenthesized = b.tree.parenthesized ↔ a.tree = b.tree := by
  constructor
  · intro written
    have back := a.parse_canonical
    rw [written, b.parse_canonical] at back
    exact (Except.ok.inj back).symm
  · intro same
    rw [same]

theorem same_equivalence : Equivalence fun a b : Accepted => a.tree.same b.tree = true where
  refl a := (same_iff_eq a a).mpr rfl
  symm same := (same_iff_eq _ _).mpr ((same_iff_eq _ _).mp same).symm
  trans first second :=
    (same_iff_eq _ _).mpr (((same_iff_eq _ _).mp first).trans ((same_iff_eq _ _).mp second))

end Accepted

structure TextTellsTree : Prop where
  same_iff : ∀ a b : Accepted,
    a.tree.same b.tree = true ↔ a.tree.parenthesized = b.tree.parenthesized
  within : ∀ a b : Accepted, ∀ levels, a.tree.height ≤ levels →
    a.tree.sameWithin? Double.sameNumber levels b.tree = some (a.tree.same b.tree)
  canonical : ∀ a : Accepted, parse a.tree.parenthesized = .ok a.tree
  equivalence : Equivalence fun a b : Accepted => a.tree.same b.tree = true
  evaluates : ∀ a b : Accepted, a.tree.same b.tree = true → a.tree.evaluate = b.tree.evaluate
  census : ∀ a b : Accepted, a.tree.same b.tree = true → a.tree.census = b.tree.census
  toData : ∀ a b : Accepted, a.tree.same b.tree = true → a.tree.toData = b.tree.toData
  outline : ∀ a b : Accepted, a.tree.same b.tree = true →
    ∀ indent, a.tree.outline indent = b.tree.outline indent

/-- Texts that parse have the same tree exactly when their trees have the same parenthesized
text, which parses as that tree again; a comparison under a limit on depth agrees where the
tree keeps the limit. Having the same tree is an equivalence of these texts, and texts with
the same tree have the same value or failure, census, description and outline. -/
theorem same_tree_iff_same_text : TextTellsTree where
  same_iff a b := by rw [a.same_iff_eq, a.parenthesized_eq_iff]
  within _ _ _ := Tree.sameWithin?_eq _ _ _
  canonical := Accepted.parse_canonical
  equivalence := Accepted.same_equivalence
  evaluates a b same := by rw [(a.same_iff_eq b).mp same]
  census a b same := by rw [(a.same_iff_eq b).mp same]
  toData a b same := by rw [(a.same_iff_eq b).mp same]
  outline a b same indent := by rw [(a.same_iff_eq b).mp same]

/-- Zero as one digit and as three in parentheses is one tree, so one over it is the same
infinity; `0-0` has another tree. -/
theorem same_tree_iff_same_text_zeros :
    ∃ a b c : Accepted, a.text = ['1', '/', '0'] ∧ b.text = ['1', '/', '(', '0', '0', '.', '0', ')'] ∧
      c.text = ['1', '/', '(', '0', '-', '0', ')'] ∧
      a.tree.same b.tree = true ∧ a.tree.evaluate = b.tree.evaluate ∧
      a.tree.parenthesized ≠ c.tree.parenthesized := by
  let quotient (divisor : Expr) : Expr := .binary .divide (.leaf .one) divisor
  let a : Accepted := ⟨['1', '/', '0'], quotient (.leaf .zero), by decide +kernel⟩
  let b : Accepted :=
    ⟨['1', '/', '(', '0', '0', '.', '0', ')'], quotient (.leaf .zero), by decide +kernel⟩
  let c : Accepted := ⟨['1', '/', '(', '0', '-', '0', ')'],
    quotient (.binary .subtract (.leaf .zero) (.leaf .zero)), by decide +kernel⟩
  have same : a.tree.same b.tree = true := by decide
  refine ⟨a, b, c, rfl, rfl, rfl, same, same_tree_iff_same_text.evaluates a b same, ?_⟩
  rw [ne_eq, ← same_tree_iff_same_text.same_iff a c]
  decide

end Reckon
