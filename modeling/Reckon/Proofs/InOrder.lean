import Mathlib
import Reckon.Expr.Description
import Reckon.Proofs.Composition

/-!
Nothing is lost and nothing is invented on the way from a text to its tree. Read in
order, a tree gives back the tokens of its text without the parentheses, and so the
counts of a census are counts of tokens. A minus stands for a subtraction or for a
negation; only the two together can be counted in the text.
-/

namespace Reckon

/-- The operands and operators of a tree as they are written, without parentheses. -/
def Expr.inOrder : Expr → List Token
  | .leaf value => [.number value]
  | .negative operand => .operator .subtract :: inOrder operand
  | .binary op left right => inOrder left ++ .operator op :: inOrder right

def Tree.levels {α : Type} : Tree α → List Nat
  | .leaf _ => [1]
  | .negative operand => operand.levels.map (· + 1)
  | .binary _ left right => (left.levels ++ right.levels).map (· + 1)

namespace Token

def isParenthesis : Token → Bool
  | .leftParen | .rightParen => true
  | _ => false

def isNumber : Token → Bool
  | .number _ => true
  | _ => false

def isKept (token : Token) : Bool := !token.isParenthesis && token != .finish

end Token

open Grammar

mutual

theorem Grammar.Derivation.tree_inOrder {goal : Nonterminal} : (derivation : Derivation goal) →
    derivation.tree.inOrder = derivation.tokens.filter Token.isKept
  | .folded first rest => by
      rw [Derivation.tree, rest.fold_inOrder, first.tree_inOrder, Derivation.tokens,
        List.filter_append]
  | .base operand => operand.tree_inOrder
  | .raised base exponent => by
      have kept : Token.isKept (.operator .power) = true := rfl
      rw [Derivation.tree, Expr.inOrder, base.tree_inOrder, exponent.tree_inOrder,
        Derivation.tokens, List.filter_append, List.filter_cons_of_pos kept]
  | .negated operand => by
      have kept : Token.isKept (.operator .subtract) = true := rfl
      rw [Derivation.tree, Expr.inOrder, operand.tree_inOrder, Derivation.tokens,
        List.filter_cons_of_pos kept]
  | .plain operand => operand.tree_inOrder
  | .number value => rfl
  | .group inner => by
      rw [Derivation.tree, inner.tree_inOrder, Derivation.tokens,
        List.filter_cons_of_neg (by decide), List.filter_append,
        List.filter_cons_of_neg (by decide), List.filter_nil, List.append_nil]

theorem Grammar.Steps.fold_inOrder {layer : Folding} : (steps : Steps layer) → (left : Expr) →
    (steps.fold left).inOrder = left.inOrder ++ steps.tokens.filter Token.isKept
  | .done, left => (List.append_nil left.inOrder).symm
  | .next op _ operand more, left => by
      have kept : Token.isKept (.operator op) = true := rfl
      rw [Steps.fold, more.fold_inOrder, Expr.inOrder, operand.tree_inOrder, Steps.tokens,
        List.filter_cons_of_pos kept, List.filter_append, List.append_assoc, List.cons_append]

end

section Counts

variable (tree : Expr)

theorem Expr.nodes_inOrder : tree.nodes = tree.inOrder.length := by
  induction tree with
  | leaf value => rfl
  | negative operand ih => simp only [Tree.nodes, Expr.inOrder, List.length_cons, ih]
  | binary op left right ihLeft ihRight =>
      simp only [Tree.nodes, Expr.inOrder, List.length_append, List.length_cons, ihLeft, ihRight]
      omega

theorem Expr.literals_inOrder :
    tree.literals (fun _ => true) = tree.inOrder.countP Token.isNumber := by
  induction tree with
  | leaf value => rfl
  | negative operand ih =>
      simp only [Tree.literals, Expr.inOrder, ih]
      rw [List.countP_cons_of_neg (by decide)]
  | binary op left right ihLeft ihRight =>
      simp only [Tree.literals, Expr.inOrder, List.countP_append, ihLeft, ihRight]
      rw [List.countP_cons_of_neg (by simp [Token.isNumber])]

theorem Expr.count_inOrder (op : Operator) :
    tree.inOrder.count (.operator op) =
      tree.count op + if op = .subtract then tree.negations else 0 := by
  induction tree with
  | leaf value => cases op <;> rfl
  | negative operand ih =>
      simp only [Expr.inOrder, List.count_cons, ih, Tree.count, Tree.negations, beq_iff_eq,
        Token.operator.injEq]
      by_cases minus : op = .subtract
      · simp only [minus, ↓reduceIte]
        omega
      · simp only [minus, Ne.symm minus, ↓reduceIte]
  | binary found left right ihLeft ihRight =>
      simp only [Expr.inOrder, List.count_append, List.count_cons, ihLeft, ihRight, Tree.count,
        Tree.negations, beq_iff_eq, Token.operator.injEq]
      by_cases minus : op = .subtract
      · simp only [minus, ↓reduceIte]
        omega
      · simp only [minus, ↓reduceIte]
        omega

-- Each binary operator joins two trees into one, and so takes one literal away.
theorem Expr.literals_operators :
    tree.literals (fun _ => true) = 1 + (Operator.bySymbol.map tree.count).sum := by
  induction tree with
  | leaf value => rfl
  | negative operand ih => exact ih
  | binary op left right ihLeft ihRight =>
      simp only [Operator.bySymbol, List.map_cons, List.map_nil, List.sum_cons, List.sum_nil]
        at ihLeft ihRight ⊢
      cases op <;> simp only [Tree.literals, Tree.count, reduceCtorEq, ↓reduceIte] <;> omega

/-- The height of a tree is the level of its deepest leaf. -/
theorem Tree.height_levels {α : Type} (tree : Tree α) :
    tree.height ∈ tree.levels ∧ ∀ level ∈ tree.levels, level ≤ tree.height := by
  induction tree with
  | leaf value => simp [Tree.height, Tree.levels]
  | negative operand ih =>
      constructor
      · exact List.mem_map_of_mem ih.1
      · simp only [Tree.levels, Tree.height, List.forall_mem_map]
        intro level member
        exact Nat.succ_le_succ (ih.2 level member)
  | binary op left right ihLeft ihRight =>
      constructor
      · simp only [Tree.levels, Tree.height]
        apply List.mem_map_of_mem
        rcases Nat.le_total left.height right.height with shorter | taller
        · rw [Nat.max_eq_right shorter]
          exact List.mem_append_right _ ihRight.1
        · rw [Nat.max_eq_left taller]
          exact List.mem_append_left _ ihLeft.1
      · simp only [Tree.levels, Tree.height, List.forall_mem_map]
        intro level member
        apply Nat.succ_le_succ
        rcases List.mem_append.mp member with first | second
        · exact Nat.le_trans (ihLeft.2 level first) (Nat.le_max_left _ _)
        · exact Nat.le_trans (ihRight.2 level second) (Nat.le_max_right _ _)

end Counts

section Tables

variable (count : Operator → Nat) (operators : List Operator)

/-- A table without empty entries still tells every count. -/
theorem lookup_nonzero (op : Operator) :
    ((operators.map fun other => (other, count other)).filter (·.2 != 0)).lookup op =
      if op ∈ operators ∧ count op ≠ 0 then some (count op) else none := by
  induction operators with
  | nil => rfl
  | cons other rest ih =>
      by_cases empty : count other = 0
      · rw [List.map_cons, List.filter_cons_of_neg (by simpa using empty), ih]
        by_cases same : op = other
        · simp only [same, empty, ne_eq, not_true_eq_false, and_false, ↓reduceIte]
        · simp only [List.mem_cons, same, false_or]
      · rw [List.map_cons, List.filter_cons_of_pos (by simpa using empty)]
        by_cases same : op = other
        · subst same
          simp [empty]
        · rw [List.lookup_cons, beq_eq_false_iff_ne.mpr same, ih]
          simp only [List.mem_cons, same, false_or]

theorem sum_nonzero :
    (((operators.map fun other => (other, count other)).filter (·.2 != 0)).map Prod.snd).sum =
      (operators.map count).sum := by
  induction operators with
  | nil => rfl
  | cons other rest ih =>
      by_cases empty : count other = 0
      · rw [List.map_cons, List.filter_cons_of_neg (by simpa using empty), ih, List.map_cons,
          List.sum_cons, empty, Nat.zero_add]
      · rw [List.map_cons, List.filter_cons_of_pos (by simpa using empty), List.map_cons,
          List.map_cons, List.sum_cons, List.sum_cons, ih]

end Tables

theorem Operator.mem_bySymbol (op : Operator) : op ∈ bySymbol := by
  cases op <;> decide

theorem Expr.census_lookup (tree : Expr) (op : Operator) :
    tree.census.operators.lookup op = if tree.count op ≠ 0 then some (tree.count op) else none := by
  have found := lookup_nonzero tree.count Operator.bySymbol op
  simp only [op.mem_bySymbol, true_and] at found
  exact found

/-- The tokens that are not kept are the parentheses and the end. -/
theorem length_kept {word : List Token} (open_ : .finish ∉ word) :
    word.length = (word.filter Token.isKept).length + word.countP Token.isParenthesis := by
  induction word with
  | nil => rfl
  | cons token word ih =>
      have behind := ih fun member => open_ (List.mem_cons_of_mem token member)
      have other : token ≠ .finish := fun same => open_ (same ▸ List.mem_cons_self)
      by_cases group : token.isParenthesis = true
      · rw [List.filter_cons_of_neg (by simp [Token.isKept, group]), List.countP_cons_of_pos group,
          List.length_cons, behind]
        omega
      · rw [List.filter_cons_of_pos (by simp [Token.isKept, group, other]),
          List.countP_cons_of_neg group, List.length_cons, List.length_cons, behind]
        omega

/-- A text that parses can be read, and its tree, read in order, is its tokens without the
parentheses and the end. So the census of the tree counts tokens: numbers, each operator but
the minus, and the minus as subtractions and negations together; operators that do not occur
are left out. There is one literal more than there are binary operators, every token but
the parentheses and the end is a node, and the depth is the level of the deepest leaf. -/
theorem census_counts_tokens {text : List Char} {tree : Expr} (parsed : parse text = .ok tree) :
    ∃ tokens, tokenize text = .ok tokens ∧
      tree.inOrder = tokens.filter Token.isKept ∧
      tree.census.literals = tokens.countP Token.isNumber ∧
      (∀ op, op ≠ .subtract → tree.census.operators.lookup op =
        if tokens.count (.operator op) = 0 then none else some (tokens.count (.operator op))) ∧
      (tree.census.operators.lookup .subtract).getD 0 + tree.census.negations =
        tokens.count (.operator .subtract) ∧
      tree.census.literals = 1 + (tree.census.operators.map Prod.snd).sum ∧
      tokens.length = tree.census.nodes + tokens.countP Token.isParenthesis + 1 ∧
      tree.census.depth ∈ tree.levels ∧ ∀ level ∈ tree.levels, level ≤ tree.census.depth := by
  obtain ⟨pieces, cuts, derivation, word, rfl⟩ := (parse_eq_ok_iff_spells text tree).mp parsed
  have order : derivation.tree.inOrder =
      (Piece.tokens pieces ++ [Token.finish]).filter Token.isKept := by
    rw [derivation.tree_inOrder, word, List.filter_append]
    exact (List.append_nil _).symm
  have numbers : derivation.tree.literals (fun _ => true) =
      (Piece.tokens pieces ++ [Token.finish]).countP Token.isNumber := by
    rw [Expr.literals_inOrder, order, List.countP_filter]
    apply List.countP_congr
    intro token _
    cases token <;> simp [Token.isNumber, Token.isKept, Token.isParenthesis]
  have operators : ∀ op, (Piece.tokens pieces ++ [Token.finish]).count (.operator op) =
      derivation.tree.count op + if op = .subtract then derivation.tree.negations else 0 := by
    intro op
    rw [← Expr.count_inOrder, order, List.count_filter rfl]
  have length : (Piece.tokens pieces).length =
      derivation.tree.nodes + (Piece.tokens pieces).countP Token.isParenthesis := by
    rw [Expr.nodes_inOrder, derivation.tree_inOrder, word]
    exact length_kept (Piece.finish_notMem_tokens pieces)
  refine ⟨Piece.tokens pieces ++ [Token.finish], tokenize_cuts cuts, order, numbers, ?_, ?_, ?_, ?_,
    derivation.tree.height_levels⟩
  · intro op other
    rw [Expr.census_lookup, operators, if_neg other, Nat.add_zero, ite_not]
  · rw [Expr.census_lookup, operators, if_pos rfl]
    by_cases absent : derivation.tree.count .subtract = 0
    · rw [if_neg (not_not_intro absent), absent]
      rfl
    · rw [if_pos absent]
      rfl
  · rw [Expr.census, Tree.censusBy, sum_nonzero]
    exact derivation.tree.literals_operators
  · rw [List.length_append, length, List.countP_append]
    rfl

-- Three minuses, of which only the second subtracts.
theorem census_counts_tokens_three_minuses :
    let text := ['-', '1', '-', '(', '1', '*', '-', '1', ')']
    let one : Expr := .leaf .one
    let tree : Expr :=
      .binary .subtract (.negative one) (.binary .multiply one (.negative one))
    parse text = .ok tree ∧
    tree.census = ⟨[(.multiply, 1), (.subtract, 1)], 3, 2, 4, 7⟩ ∧
    ∃ tokens, tokenize text = .ok tokens ∧ tree.inOrder = tokens.filter Token.isKept ∧
      tokens.countP Token.isNumber = 3 ∧ tokens.count (.operator .subtract) = 1 + 2 ∧
      tokens.length = 7 + tokens.countP Token.isParenthesis + 1 := by
  intro text one tree
  have parsed : parse text = .ok tree := by
    have read : Grammar.parse? text = some tree := by decide +kernel
    exact (parse_or_outOfRange read).resolve_right fun refused => absurd refused.1 (by decide)
  obtain ⟨tokens, read, order, numbers, _, minuses, _, length, _⟩ := census_counts_tokens parsed
  exact ⟨parsed, by decide, tokens, read, order, numbers.symm, minuses.symm, length⟩

end Reckon
