import Reckon.Expr.Basic

/-!
Derivations of the layered grammar, as trees that carry their own layer. A
derivation has the tokens it derives and the expression it stands for; both are
read off it, so a word, an expression and a layer are related when some derivation
joins them.

The grammar is unambiguous in a strong form. Where a derivation is followed by
tokens that cannot extend it, the tokens alone determine the derivation and the
place where it ends.
-/

namespace Reckon.Grammar

inductive Folding where
  | bits | sum | product
  deriving DecidableEq

inductive Nonterminal where
  | folding (layer : Folding)
  | power
  | unary
  | atom
  deriving DecidableEq

namespace Folding

def operators : Folding → List Operator
  | .bits => [.and, .or]
  | .sum => [.add, .subtract]
  | .product => [.multiply, .divide]

def operand : Folding → Nonterminal
  | .bits => .folding .sum
  | .sum => .folding .product
  | .product => .power

end Folding

/-- The layer of a level of binding strength. Beyond the last binary operator only
negation is left. -/
def Nonterminal.ofLevel : Nat → Nonterminal
  | 0 => .folding .bits
  | 1 => .folding .sum
  | 2 => .folding .product
  | 3 => .power
  | _ => .unary

def Nonterminal.level : Nonterminal → Nat
  | .folding .bits => 0
  | .folding .sum => 1
  | .folding .product => 2
  | .power => 3
  | .unary | .atom => 5

mutual

inductive Derivation : Nonterminal → Type where
  | folded {layer : Folding} (first : Derivation layer.operand) (rest : Steps layer) :
      Derivation (.folding layer)
  | base (operand : Derivation .unary) : Derivation .power
  | raised (base : Derivation .unary) (exponent : Derivation .power) : Derivation .power
  | negated (operand : Derivation .unary) : Derivation .unary
  | plain (operand : Derivation .atom) : Derivation .unary
  | number (value : Double) : Derivation .atom
  | group (inner : Derivation (.folding .bits)) : Derivation .atom

/-- The operators of a layer that follow its first operand, each with an operand. -/
inductive Steps : Folding → Type where
  | done {layer : Folding} : Steps layer
  | next {layer : Folding} (op : Operator) (member : op ∈ layer.operators)
      (operand : Derivation layer.operand) (more : Steps layer) : Steps layer

end

mutual

def Derivation.tokens {goal : Nonterminal} : Derivation goal → List Token
  | .folded first rest => first.tokens ++ rest.tokens
  | .base operand => operand.tokens
  | .raised base exponent => base.tokens ++ .operator .power :: exponent.tokens
  | .negated operand => .operator .subtract :: operand.tokens
  | .plain operand => operand.tokens
  | .number value => [.number value]
  | .group inner => .leftParen :: (inner.tokens ++ [.rightParen])

def Steps.tokens {layer : Folding} : Steps layer → List Token
  | .done => []
  | .next op _ operand more => .operator op :: (operand.tokens ++ more.tokens)

end

mutual

def Derivation.tree {goal : Nonterminal} : Derivation goal → Expr
  | .folded first rest => rest.fold first.tree
  | .base operand => operand.tree
  | .raised base exponent => .binary .power base.tree exponent.tree
  | .negated operand => .negative operand.tree
  | .plain operand => operand.tree
  | .number value => .leaf value
  | .group inner => inner.tree

def Steps.fold {layer : Folding} : Steps layer → Expr → Expr
  | .done, left => left
  | .next op _ operand more, left => more.fold (.binary op left operand.tree)

end

def Derives (goal : Nonterminal) (word : List Token) (tree : Expr) : Prop :=
  ∃ derivation : Derivation goal, derivation.tokens = word ∧ derivation.tree = tree

def headPrecedence : List Token → Nat
  | [] => 0
  | token :: _ => token.precedence

theorem mem_operators (layer : Folding) (op : Operator) :
    op ∈ layer.operators ↔ op.precedence = (Nonterminal.folding layer).level + 1 := by
  cases layer <;> cases op <;> decide

theorem operand_level (layer : Folding) :
    layer.operand.level = (Nonterminal.folding layer).level + 1 := by
  cases layer <;> rfl

theorem headPrecedence_le (tokens : List Token) : headPrecedence tokens ≤ 4 := by
  rcases tokens with _ | ⟨op | _ | _ | value | _, rest⟩
  · exact Nat.zero_le 4
  · cases op <;> simp [headPrecedence, Token.precedence, Operator.precedence]
  all_goals exact Nat.zero_le 4

/-- Nothing extends a unary expression. -/
theorem unary_settled (tokens : List Token) : headPrecedence tokens ≤ Nonterminal.unary.level :=
  Nat.le_succ_of_le (headPrecedence_le tokens)

theorem power_unsettled {rest : List Token} :
    ¬ headPrecedence (.operator .power :: rest) ≤ Nonterminal.power.level :=
  Nat.not_succ_le_self 3

/-- Behind an operand of a layer stands an operator of that layer or what follows the
whole. -/
theorem Steps.headPrecedence_append {layer : Folding} (steps : Steps layer) (rest : List Token)
    (settled : headPrecedence rest ≤ (Nonterminal.folding layer).level) :
    headPrecedence (steps.tokens ++ rest) ≤ layer.operand.level := by
  rw [operand_level]
  cases steps with
  | done => exact Nat.le_succ_of_le settled
  | next op member operand more => exact Nat.le_of_eq ((mem_operators layer op).mp member)

theorem Steps.settled_ne {layer : Folding} {op : Operator} (member : op ∈ layer.operators)
    {rest more : List Token} (settled : headPrecedence rest ≤ (Nonterminal.folding layer).level) :
    rest ≠ .operator op :: more := by
  rintro rfl
  have strength := (mem_operators layer op).mp member
  simp only [headPrecedence, Token.precedence] at settled
  omega

mutual

theorem Derivation.prefix_unique {goal : Nonterminal} {rest rest' : List Token}
    (settled : headPrecedence rest ≤ goal.level) (settled' : headPrecedence rest' ≤ goal.level) :
    (first second : Derivation goal) → first.tokens ++ rest = second.tokens ++ rest' →
      first = second ∧ rest = rest'
  | .folded operand steps, .folded operand' steps', same => by
      simp only [Derivation.tokens, List.append_assoc] at same
      obtain ⟨rfl, behind⟩ := operand.prefix_unique (steps.headPrecedence_append rest settled)
        (steps'.headPrecedence_append rest' settled') operand' same
      obtain ⟨rfl, ending⟩ := steps.prefix_unique settled settled' steps' behind
      exact ⟨rfl, ending⟩
  | .base operand, .base operand', same => by
      simp only [Derivation.tokens] at same
      obtain ⟨rfl, ending⟩ := operand.prefix_unique (unary_settled rest)
        (unary_settled rest') operand' same
      exact ⟨rfl, ending⟩
  | .base operand, .raised base' exponent', same => by
      simp only [Derivation.tokens, List.append_assoc] at same
      obtain ⟨_, rfl⟩ := operand.prefix_unique (unary_settled rest)
        (unary_settled _) base' same
      exact absurd settled power_unsettled
  | .raised base exponent, .base operand', same => by
      simp only [Derivation.tokens, List.append_assoc] at same
      obtain ⟨_, rfl⟩ := base.prefix_unique (unary_settled _)
        (unary_settled rest') operand' same
      exact absurd settled' power_unsettled
  | .raised base exponent, .raised base' exponent', same => by
      simp only [Derivation.tokens, List.append_assoc] at same
      obtain ⟨rfl, behind⟩ := base.prefix_unique (unary_settled _)
        (unary_settled _) base' same
      obtain ⟨rfl, ending⟩ := exponent.prefix_unique settled settled' exponent'
        (List.tail_eq_of_cons_eq behind)
      exact ⟨rfl, ending⟩
  | .negated operand, .negated operand', same => by
      obtain ⟨rfl, ending⟩ := operand.prefix_unique settled settled' operand'
        (List.tail_eq_of_cons_eq same)
      exact ⟨rfl, ending⟩
  | .negated operand, .plain operand', same => by
      cases operand' <;> simp [Derivation.tokens] at same
  | .plain operand, .negated operand', same => by
      cases operand <;> simp [Derivation.tokens] at same
  | .plain operand, .plain operand', same => by
      have settled : headPrecedence rest ≤ Nonterminal.atom.level := settled
      obtain ⟨rfl, ending⟩ := operand.prefix_unique settled settled' operand' same
      exact ⟨rfl, ending⟩
  | .number value, .number value', same => by
      simp only [Derivation.tokens, List.cons_append, List.nil_append, List.cons.injEq,
        Token.number.injEq] at same
      obtain ⟨rfl, rfl⟩ := same
      exact ⟨rfl, rfl⟩
  | .number value, .group inner', same => by simp [Derivation.tokens] at same
  | .group inner, .number value', same => by simp [Derivation.tokens] at same
  | .group inner, .group inner', same => by
      simp only [Derivation.tokens, List.cons_append, List.append_assoc, List.cons.injEq,
        true_and, List.nil_append] at same
      obtain ⟨rfl, ending⟩ := inner.prefix_unique (Nat.zero_le _) (Nat.zero_le _) inner' same
      exact ⟨rfl, List.tail_eq_of_cons_eq ending⟩

theorem Steps.prefix_unique {layer : Folding} {rest rest' : List Token}
    (settled : headPrecedence rest ≤ (Nonterminal.folding layer).level)
    (settled' : headPrecedence rest' ≤ (Nonterminal.folding layer).level) :
    (first second : Steps layer) → first.tokens ++ rest = second.tokens ++ rest' →
      first = second ∧ rest = rest'
  | .done, .done, same => ⟨rfl, same⟩
  | .done, .next op' member' operand' more', same =>
      absurd same (Steps.settled_ne member' settled)
  | .next op member operand more, .done, same =>
      absurd same.symm (Steps.settled_ne member settled')
  | .next op member operand more, .next op' member' operand' more', same => by
      simp only [Steps.tokens, List.cons_append, List.append_assoc, List.cons.injEq,
        Token.operator.injEq] at same
      obtain ⟨rfl, same⟩ := same
      obtain ⟨rfl, behind⟩ := operand.prefix_unique (more.headPrecedence_append rest settled)
        (more'.headPrecedence_append rest' settled') operand' same
      obtain ⟨rfl, ending⟩ := more.prefix_unique settled settled' more' behind
      exact ⟨rfl, ending⟩

end

/-- Each word has at most one derivation at each layer. -/
theorem Derivation.tokens_injective {goal : Nonterminal} (first second : Derivation goal)
    (same : first.tokens = second.tokens) : first = second :=
  (first.prefix_unique (Nat.zero_le _) (Nat.zero_le _) second
    (congrArg (· ++ []) same)).1

def Steps.snoc {layer : Folding} (op : Operator) (member : op ∈ layer.operators)
    (last : Derivation layer.operand) : Steps layer → Steps layer
  | .done => .next op member last .done
  | .next op' member' operand more => .next op' member' operand (more.snoc op member last)

theorem Steps.snoc_tokens {layer : Folding} (op : Operator) (member : op ∈ layer.operators)
    (last : Derivation layer.operand) : (steps : Steps layer) →
    (steps.snoc op member last).tokens = steps.tokens ++ .operator op :: last.tokens
  | .done => by simp [snoc, tokens]
  | .next op' member' operand more => by
      simp [snoc, tokens, more.snoc_tokens op member last]

theorem Steps.snoc_fold {layer : Folding} (op : Operator) (member : op ∈ layer.operators)
    (last : Derivation layer.operand) : (steps : Steps layer) → (left : Expr) →
    (steps.snoc op member last).fold left = .binary op (steps.fold left) last.tree
  | .done, _ => rfl
  | .next _ _ _ more, _ => more.snoc_fold op member last _

namespace Derives

variable {word more : List Token} {tree operand : Expr}

theorem append (layer : Folding) {op : Operator} (member : op ∈ layer.operators)
    (left : Derives (.folding layer) word tree) (right : Derives layer.operand more operand) :
    Derives (.folding layer) (word ++ .operator op :: more) (.binary op tree operand) := by
  obtain ⟨⟨first, steps⟩, rfl, rfl⟩ := left
  obtain ⟨last, rfl, rfl⟩ := right
  refine ⟨.folded first (steps.snoc op member last), ?_, ?_⟩
  · simp [Derivation.tokens, steps.snoc_tokens]
  · simp [Derivation.tree, steps.snoc_fold]

theorem raise (base : Derives .unary word tree) (exponent : Derives .power more operand) :
    Derives .power (word ++ .operator .power :: more) (.binary .power tree operand) := by
  obtain ⟨base, rfl, rfl⟩ := base
  obtain ⟨exponent, rfl, rfl⟩ := exponent
  exact ⟨.raised base exponent, rfl, rfl⟩

theorem negate (derived : Derives .unary word tree) :
    Derives .unary (.operator .subtract :: word) (.negative tree) := by
  obtain ⟨derivation, rfl, rfl⟩ := derived
  exact ⟨.negated derivation, rfl, rfl⟩

theorem leaf (value : Double) : Derives .unary [.number value] (.leaf value) :=
  ⟨.plain (.number value), rfl, rfl⟩

theorem enclose (derived : Derives (.folding .bits) word tree) :
    Derives .unary (.leftParen :: (word ++ [.rightParen])) tree := by
  obtain ⟨derivation, rfl, rfl⟩ := derived
  exact ⟨.plain (.group derivation), rfl, rfl⟩

/-- An operand of a layer is the layer's expression without operators. -/
theorem single (layer : Folding) (derived : Derives layer.operand word tree) :
    Derives (.folding layer) word tree := by
  obtain ⟨derivation, rfl, rfl⟩ := derived
  exact ⟨.folded derivation .done, by simp [Derivation.tokens, Steps.tokens], rfl⟩

/-- A word stands for one tree only. -/
theorem unique {goal : Nonterminal} (first : Derives goal word tree)
    (second : Derives goal word operand) : tree = operand := by
  obtain ⟨derivation, tokens, rfl⟩ := first
  obtain ⟨derivation', tokens', rfl⟩ := second
  rw [derivation.tokens_injective derivation' (tokens.trans tokens'.symm)]

/-- Where one tree is derived, it is the only one. -/
theorem iff_eq {goal : Nonterminal} (derived : Derives goal word tree) (other : Expr) :
    Derives goal word other ↔ other = tree := by
  constructor
  · intro second
    exact second.unique derived
  · rintro rfl
    exact derived

theorem loosen_one (level : Nat) (derived : Derives (.ofLevel (level + 1)) word tree) :
    Derives (.ofLevel level) word tree := by
  match level, derived with
  | 0, derived => exact single .bits derived
  | 1, derived => exact single .sum derived
  | 2, derived => exact single .product derived
  | 3, ⟨derivation, tokens, tree⟩ => exact ⟨.base derivation, tokens, tree⟩
  | _ + 4, derived => exact derived

/-- What binds tightly may stand where something looser is asked for. -/
theorem loosen {tight loose : Nat} (le : loose ≤ tight)
    (derived : Derives (.ofLevel tight) word tree) : Derives (.ofLevel loose) word tree := by
  induction le with
  | refl => exact derived
  | step _ ih => exact ih (loosen_one _ derived)

end Derives

end Reckon.Grammar
