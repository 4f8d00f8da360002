import Reckon.Proofs.Climbing
import Reckon.Proofs.Derivation
import Reckon.Proofs.Readings

/-!
The contract of the climbing parser at every level. Started on a sequence of
tokens, an expression of a level is read exactly when the sequence splits into a
word that the layer of the level derives and a rest whose first token binds no more
tightly than the level.

Soundness follows the loop: the tree on the left always belongs to some layer, and
the next token is loose enough to extend it there. Completeness follows the
derivation: climbing over its tokens at any looser level leaves the loop with the
derivation's tree on the left and the rest in front.
-/

namespace Reckon

def Cursor.tokens? (cursor : Cursor) : Option (List Token) :=
  if cursor.current = .finish then some [.finish]
  else cursor.feed.tokens?.map (cursor.current :: ·)

namespace Cursor

theorem tokens?_cons {cursor : Cursor} {token : Token} {rest : List Token}
    (shown : cursor.tokens? = some (token :: rest)) : cursor.current = token := by
  unfold tokens? at shown
  split at shown
  · rename_i finish
    cases shown
    exact finish
  · obtain ⟨_, _, same⟩ := Option.map_eq_some_iff.mp shown
    exact (List.cons.inj same).1

theorem headPrecedence_tokens {cursor : Cursor} {tokens : List Token}
    (shown : cursor.tokens? = some tokens) :
    Grammar.headPrecedence tokens = cursor.current.precedence := by
  cases tokens with
  | nil =>
      unfold tokens? at shown
      split at shown
      · cases shown
      · simp at shown
  | cons token rest => rw [tokens?_cons shown]; rfl

theorem feed_length {feed : Feed} {tokens : List Token} (shown : feed.tokens? = some tokens) :
    tokens.length = feed.length + 1 := by
  induction feed generalizing tokens with
  | finished position => cases shown; rfl
  | blocked error => cases shown
  | refused error position rest ih => cases shown
  | token token position rest ih =>
      unfold Feed.tokens? at shown
      split at shown
      · cases shown
      · obtain ⟨tail, behind, rfl⟩ := Option.map_eq_some_iff.mp shown
        simp [Feed.length, ih behind]

theorem tokens?_length {cursor : Cursor} {tokens : List Token}
    (shown : cursor.tokens? = some tokens) : tokens.length = cursor.remaining + 1 := by
  unfold tokens? at shown
  unfold remaining
  split at shown
  · rename_i finish
    cases shown
    simp [finish]
  · rename_i open_
    obtain ⟨tail, behind, rfl⟩ := Option.map_eq_some_iff.mp shown
    simp [open_, feed_length behind]

end Cursor

namespace Parser

open Grammar

-- The readings become the tokens of the cursor, one step later.
theorem advance_feed (cursor : Cursor) {tokens : List Token}
    (shown : cursor.feed.tokens? = some tokens) :
    ∃ after, advance cursor = .ok () after ∧ after.tokens? = some tokens := by
  cases feed : cursor.feed with
  | finished position =>
      rw [feed] at shown
      cases shown
      simp [advance, feed, Cursor.tokens?]
  | blocked error => rw [feed] at shown; cases shown
  | refused error position rest => rw [feed] at shown; cases shown
  | token next position rest =>
      rw [feed] at shown
      unfold Feed.tokens? at shown
      split at shown
      · cases shown
      · rename_i inner
        simp [advance, feed, Cursor.tokens?, inner, shown]

theorem advance_tokens {cursor : Cursor} {token : Token} {rest : List Token}
    (open_ : token ≠ .finish) (shown : cursor.tokens? = some (token :: rest)) :
    ∃ after, advance cursor = .ok () after ∧ after.tokens? = some rest := by
  obtain rfl := Cursor.tokens?_cons shown
  simp only [Cursor.tokens?, open_, ↓reduceIte, Option.map_eq_some_iff] at shown
  obtain ⟨tail, behind, same⟩ := shown
  obtain rfl := (List.cons.inj same).2
  exact advance_feed cursor behind

theorem advance_tokens_ok {cursor after : Cursor} {tokens : List Token}
    (open_ : cursor.current ≠ .finish) (shown : cursor.tokens? = some tokens)
    (moved : advance cursor = .ok () after) :
    ∃ rest, tokens = cursor.current :: rest ∧ after.tokens? = some rest := by
  cases tokens with
  | nil => simp [Cursor.tokens?, open_] at shown
  | cons token rest =>
      obtain rfl := Cursor.tokens?_cons shown
      obtain ⟨after', moved', next⟩ := advance_tokens open_ shown
      rw [moved] at moved'
      cases moved'
      exact ⟨rest, rfl, next⟩

theorem kind_rightParen {token : Token} (same : token.kind = .rightParen) :
    token = .rightParen := by
  cases token <;> simp_all [Token.kind]

def Spans (goal : Nonterminal) (tree : Expr) (cursor after : Cursor) : Prop :=
  ∀ tokens, cursor.tokens? = some tokens →
    ∃ word rest, tokens = word ++ rest ∧ after.tokens? = some rest ∧ Derives goal word tree

section Soundness

def ClimbsSoundly (cursor : Cursor) : Prop :=
  ∀ level tree after, climb (level + 1) cursor = .ok tree after →
    Spans (.ofLevel level) tree cursor after

theorem primary_spans {cursor after : Cursor} {tree : Expr}
    (sound : ∀ inner : Cursor, inner.remaining < cursor.remaining → ClimbsSoundly inner)
    (read : primaryWith climb cursor = .ok tree after) : Spans .unary tree cursor after := by
  intro tokens shown
  rw [primaryWith_eq] at read
  split at read
  · rename_i shape
    have open_ : cursor.current ≠ .finish := by simp [shape]
    obtain ⟨_, middle, moved, read⟩ := bind_eq_ok read
    obtain ⟨operand, last, inner, read⟩ := bind_eq_ok read
    cases read
    obtain ⟨behind, rfl, showing⟩ := advance_tokens_ok open_ shown moved
    obtain ⟨word, rest, rfl, ending, derived⟩ :=
      sound middle (advance_remaining open_ moved) negationPrecedence _ _ inner behind showing
    exact ⟨_ :: word, rest, rfl, ending, shape ▸ derived.negate⟩
  · rename_i value shape
    have open_ : cursor.current ≠ .finish := by simp [shape]
    obtain ⟨_, middle, moved, read⟩ := bind_eq_ok read
    cases read
    obtain ⟨rest, rfl, ending⟩ := advance_tokens_ok open_ shown moved
    exact ⟨[cursor.current], rest, rfl, ending, shape ▸ Derives.leaf value⟩
  · rename_i shape
    have open_ : cursor.current ≠ .finish := by simp [shape]
    obtain ⟨_, middle, moved, read⟩ := bind_eq_ok read
    obtain ⟨operand, last, inner, read⟩ := bind_eq_ok read
    obtain ⟨_, closed, met, read⟩ := bind_eq_ok read
    cases read
    obtain ⟨behind, rfl, showing⟩ := advance_tokens_ok open_ shown moved
    obtain ⟨word, closing, rfl, showing, derived⟩ :=
      sound middle (advance_remaining open_ moved) 0 _ _ inner behind showing
    obtain ⟨close, met⟩ := expect_eq_ok met
    replace close := kind_rightParen close
    obtain ⟨rest, rfl, ending⟩ := advance_tokens_ok (by simp [close]) showing met
    refine ⟨.leftParen :: (word ++ [.rightParen]), rest, ?_, ending, derived.enclose⟩
    simp [shape, close]
  · cases read

/-- A token of this strength may extend a tree of the level: it binds no more tightly,
or it is an operator of the level itself, which folds to the left. -/
def Extends (level strength : Nat) : Prop :=
  strength ≤ level ∨ (strength = level + 1 ∧ level < 3)

/-- A tree, an operator that may extend it and the operator's right operand are a tree
of the operator's own layer. -/
theorem derives_binary {level : Nat} {word more : List Token} {left right : Expr} (op : Operator)
    (derived : Derives (.ofLevel level) word left) (fits : Extends level op.precedence)
    (operand : Derives (.ofLevel (operandLeast (.operator op) - 1)) more right) :
    Derives (.ofLevel (op.precedence - 1)) (word ++ .operator op :: more)
      (.binary op left right) := by
  have loose : op.precedence - 1 ≤ level := by
    rcases fits with below | ⟨same, _⟩ <;> omega
  have left_ := derived.loosen loose
  cases op with
  | and | or => exact Derives.append .bits (by decide) left_ operand
  | add | subtract => exact Derives.append .sum (by decide) left_ operand
  | multiply | divide => exact Derives.append .product (by decide) left_ operand
  | power =>
      -- The base is a unary expression: no tree of the power layer is extended by `^`.
      have unary : 4 ≤ level := by
        rcases fits with below | ⟨same, bound⟩
        · exact below
        · simp only [Operator.precedence] at same
          omega
      exact Derives.raise (derived.loosen unary) operand

/-- Two operands that nothing extends are joined by any operator. -/
theorem derives_joined (op : Operator) {word more : List Token} {left right : Expr}
    (first : Derives .unary word left) (second : Derives .unary more right) :
    Derives (.folding .bits) (word ++ .operator op :: more) (.binary op left right) := by
  have left_ : Derives (.ofLevel 5) word left := first
  have right_ : Derives (.ofLevel 5) more right := second
  have tight : op.precedence ≤ 5 := by cases op <;> decide
  have below : operandLeast (.operator op) - 1 ≤ 5 := by cases op <;> decide
  have joined := derives_binary op left_ (Or.inl tight) (right_.loosen below)
  exact joined.loosen (Nat.zero_le _)

/-- Behind the right operand stands a token that may extend the new tree. -/
theorem extends_after (op : Operator) {strength : Nat}
    (settled : strength < operandLeast (.operator op)) :
    Extends (op.precedence - 1) strength := by
  cases op <;>
    simp only [operandLeast, Token.rightAssociative, Operator.rightAssociative, Token.precedence,
      Operator.precedence, Extends, ↓reduceIte, Bool.false_eq_true] at settled ⊢ <;> omega

theorem chain_spans {level : Nat} (bound : Nat)
    (sound : ∀ inner : Cursor, inner.remaining < bound → ClimbsSoundly inner) :
    ∀ (cursor : Cursor), cursor.remaining ≤ bound → ∀ (reached : Nat) (left tree : Expr)
      (word tokens : List Token) (after : Cursor),
      level ≤ reached → Derives (.ofLevel reached) word left →
      Extends reached cursor.current.precedence → cursor.tokens? = some tokens →
      chain (level + 1) left cursor = .ok tree after →
      ∃ more rest, tokens = more ++ rest ∧ after.tokens? = some rest ∧
        Derives (.ofLevel level) (word ++ more) tree := by
  intro cursor
  induction size : cursor.remaining using Nat.strongRecOn generalizing cursor with
  | ind size ih =>
  intro within reached left tree word tokens after lower derived fits shown read
  rcases rests_or_takes cursor (level + 1) (Nat.succ_pos level) with stop | ⟨op, shape, tight⟩
  · rw [chain_stop stop] at read
    cases read
    exact ⟨[], tokens, rfl, shown, by simpa using derived.loosen lower⟩
  · rw [chain_step (Nat.succ_pos level) shape tight] at read
    obtain ⟨_, middle, moved, read⟩ := bind_eq_ok read
    obtain ⟨right, last, inner, read⟩ := bind_eq_ok read
    have open_ : cursor.current ≠ .finish := by simp [shape]
    have first := advance_remaining open_ moved
    have second := climb_consumes _ (operandLeast_pos _) _ _ _ inner
    have rests := climb_rests (operandLeast_pos _) inner
    obtain ⟨behind, rfl, showing⟩ := advance_tokens_ok open_ shown moved
    have least : operandLeast (.operator op) - 1 + 1 = operandLeast (.operator op) :=
      Nat.sub_add_cancel (operandLeast_pos _)
    rw [← least] at inner
    obtain ⟨operand, ending, rfl, showing, derivedRight⟩ :=
      sound middle (by omega) _ _ _ inner behind showing
    -- The tree on the left moves to the layer of the operator just taken.
    rw [shape] at fits
    have joined := derives_binary op derived fits derivedRight
    have settled : last.current.precedence < operandLeast (.operator op) := by
      rcases rests with finish | loose
      · rw [finish]; exact operandLeast_pos _
      · exact loose
    obtain ⟨more, rest, rfl, showing, derived⟩ := ih last.remaining (by omega) last rfl (by omega)
      (op.precedence - 1) _ tree _ ending after (by omega) joined (extends_after op settled)
      showing read
    refine ⟨.operator op :: (operand ++ more), rest, ?_, showing, ?_⟩
    · simp [shape]
    · simpa using derived

theorem climbsSoundly (cursor : Cursor) : ClimbsSoundly cursor := by
  induction size : cursor.remaining using Nat.strongRecOn generalizing cursor with
  | ind size ih =>
  subst size
  intro level tree after read tokens shown
  rw [climb_eq _ (Nat.succ_pos level)] at read
  obtain ⟨left, middle, first, read⟩ := bind_eq_ok read
  have shrunk := primaryWith_consumes climb_consumes _ _ _ first
  have sound : ∀ inner : Cursor, inner.remaining < cursor.remaining → ClimbsSoundly inner :=
    fun inner less => ih inner.remaining less inner rfl
  obtain ⟨word, behind, rfl, showing, derived⟩ := primary_spans sound first tokens shown
  -- A unary expression belongs to the layer of every level from the fourth on.
  have high : Derives (.ofLevel (level + 4)) word left := derived
  have fits : Extends (level + 4) middle.current.precedence := by
    have bound := headPrecedence_le behind
    rw [Cursor.headPrecedence_tokens showing] at bound
    exact Or.inl (Nat.le_trans bound (Nat.le_add_left 4 level))
  obtain ⟨more, rest, rfl, ending, derived⟩ := chain_spans cursor.remaining sound middle
    (Nat.le_of_lt shrunk) (level + 4) left tree word behind after (Nat.le_add_right level 4) high
    fits showing read
  exact ⟨word ++ more, rest, by simp, ending, derived⟩

end Soundness

section Completeness

def Climbs (goal : Nonterminal) (tree : Expr) (cursor after : Cursor) : Prop :=
  ∀ level, level ≤ goal.level →
    (primaryWith climb >>= chain (level + 1)) cursor = chain (level + 1) tree after

theorem climbs_of_primary {goal : Nonterminal} {tree : Expr} {cursor after : Cursor}
    (read : primaryWith climb cursor = .ok tree after) : Climbs goal tree cursor after := by
  intro level _
  exact bind_ok read

/-- A chain ends where the next token binds no more tightly than its level. -/
theorem chain_settled {level : Nat} {tree : Expr} {cursor : Cursor} {rest : List Token}
    (shown : cursor.tokens? = some rest) (settled : headPrecedence rest ≤ level) :
    chain (level + 1) tree cursor = .ok tree cursor := by
  rw [Cursor.headPrecedence_tokens shown] at settled
  exact chain_stop (Or.inr (Nat.lt_succ_of_le settled))

theorem climb_of_climbs {goal : Nonterminal} {level : Nat} {tree : Expr} {cursor after : Cursor}
    {rest : List Token} (climbs : Climbs goal tree cursor after) (lower : level ≤ goal.level)
    (shown : after.tokens? = some rest) (settled : headPrecedence rest ≤ level) :
    climb (level + 1) cursor = .ok tree after := by
  rw [climb_eq _ (Nat.succ_pos level), climbs level lower]
  exact chain_settled shown settled

theorem expect_tokens (complaint : String) {cursor : Cursor} {rest : List Token}
    (shown : cursor.tokens? = some (.rightParen :: rest)) :
    ∃ after, expect complaint .rightParen cursor = .ok () after ∧ after.tokens? = some rest := by
  have shape := Cursor.tokens?_cons shown
  obtain ⟨after, moved, ending⟩ := advance_tokens (by decide) shown
  refine ⟨after, ?_, ending⟩
  have looked : current cursor = .ok .rightParen cursor := by rw [← shape]; rfl
  unfold expect
  rw [bind_ok looked]
  exact moved

mutual

theorem climbs_derivation {goal : Nonterminal} {cursor : Cursor} {rest : List Token}
    (settled : headPrecedence rest ≤ goal.level) : (derivation : Derivation goal) →
    cursor.tokens? = some (derivation.tokens ++ rest) →
      ∃ after, after.tokens? = some rest ∧ Climbs goal derivation.tree cursor after
  | .folded first steps, shown => by
      simp only [Derivation.tokens, List.append_assoc] at shown
      obtain ⟨middle, showing, climbs⟩ :=
        climbs_derivation (steps.headPrecedence_append rest settled) first shown
      obtain ⟨after, ending, extends_⟩ := chain_steps settled steps first.tree showing
      refine ⟨after, ending, fun level lower => ?_⟩
      rw [climbs level (by rw [operand_level]; omega)]
      exact extends_ level lower
  | .base operand, shown => by
      obtain ⟨after, ending, climbs⟩ := climbs_derivation (unary_settled rest) operand shown
      exact ⟨after, ending, fun level lower => climbs level (Nat.le_trans lower (by decide))⟩
  | .raised base exponent, shown => by
      simp only [Derivation.tokens, List.append_assoc] at shown
      obtain ⟨middle, showing, climbs⟩ := climbs_derivation (unary_settled _) base shown
      obtain ⟨next, moved, behind⟩ := advance_tokens (by decide) showing
      obtain ⟨after, ending, climbsRight⟩ := climbs_derivation settled exponent behind
      have right : climb (operandLeast (.operator .power)) next = .ok exponent.tree after :=
        climb_of_climbs climbsRight (Nat.le_refl 3) ending settled
      refine ⟨after, ending, fun level lower => ?_⟩
      have shape := Cursor.tokens?_cons showing
      rw [climbs level (Nat.le_trans lower (by decide)),
        chain_step (Nat.succ_pos level) shape (Nat.succ_le_succ lower), bind_ok moved,
        bind_ok right]
      rfl
  | .negated operand, shown => by
      obtain ⟨middle, moved, showing⟩ := advance_tokens (by decide) shown
      obtain ⟨after, ending, climbs⟩ := climbs_derivation (unary_settled rest) operand showing
      have inner : climb (negationPrecedence + 1) middle = .ok operand.tree after :=
        climb_of_climbs climbs (Nat.le_refl 5) ending (unary_settled rest)
      refine ⟨after, ending, climbs_of_primary ?_⟩
      have shape := Cursor.tokens?_cons shown
      rw [primaryWith_eq, shape]
      simp only [bind_ok moved, bind_ok inner]
      rfl
  | .plain operand, shown => by
      have settled : headPrecedence rest ≤ Nonterminal.atom.level := settled
      exact climbs_derivation settled operand shown
  | .number value, shown => by
      obtain ⟨after, moved, ending⟩ := advance_tokens (by simp) shown
      refine ⟨after, ending, climbs_of_primary ?_⟩
      have shape := Cursor.tokens?_cons shown
      rw [primaryWith_eq, shape]
      simp only [bind_ok moved]
      rfl
  | .group inner, shown => by
      simp only [Derivation.tokens, List.cons_append, List.append_assoc, List.nil_append] at shown
      obtain ⟨middle, moved, showing⟩ := advance_tokens (by decide) shown
      obtain ⟨last, closing, climbs⟩ := climbs_derivation (Nat.zero_le _) inner showing
      have read : climb 1 middle = .ok inner.tree last :=
        climb_of_climbs climbs (Nat.zero_le _) closing (Nat.zero_le _)
      obtain ⟨after, met, ending⟩ := expect_tokens "unbalanced parenthesis" closing
      refine ⟨after, ending, climbs_of_primary ?_⟩
      have shape := Cursor.tokens?_cons shown
      rw [primaryWith_eq, shape]
      simp only [bind_ok moved, bind_ok read, bind_ok met]
      rfl

theorem chain_steps {layer : Folding} {cursor : Cursor} {rest : List Token}
    (settled : headPrecedence rest ≤ (Nonterminal.folding layer).level) :
    (steps : Steps layer) → (left : Expr) → cursor.tokens? = some (steps.tokens ++ rest) →
      ∃ after, after.tokens? = some rest ∧
        ∀ level, level ≤ (Nonterminal.folding layer).level →
          chain (level + 1) left cursor = chain (level + 1) (steps.fold left) after
  | .done, left, shown => ⟨cursor, shown, fun _ _ => rfl⟩
  | .next op member operand more, left, shown => by
      simp only [Steps.tokens, List.cons_append, List.append_assoc] at shown
      have strength := (mem_operators layer op).mp member
      obtain ⟨middle, moved, showing⟩ := advance_tokens (by simp) shown
      have behind := more.headPrecedence_append rest settled
      obtain ⟨last, follow, climbs⟩ := climbs_derivation behind operand showing
      have least : operandLeast (.operator op) = layer.operand.level + 1 := by
        rw [operand_level]
        cases layer <;> cases op <;> simp_all [Folding.operators] <;> rfl
      have right := climb_of_climbs climbs (Nat.le_refl _) follow behind
      obtain ⟨after, ending, extends_⟩ :=
        chain_steps settled more (.binary op left operand.tree) follow
      refine ⟨after, ending, fun level lower => ?_⟩
      have shape := Cursor.tokens?_cons shown
      rw [chain_step (Nat.succ_pos level) shape (by omega), bind_ok moved, least, bind_ok right]
      exact extends_ level lower

end

end Completeness

theorem le_ofLevel_level {level : Nat} (bounded : level ≤ 5) :
    level ≤ (Nonterminal.ofLevel level).level := by
  match level with
  | 0 | 1 | 2 | 3 | 4 | 5 => decide
  | _ + 6 => omega

/-- The contract of climbing, without a limit on nesting. -/
theorem climb_iff {level : Nat} (bounded : level ≤ 5) {cursor : Cursor} {tokens : List Token}
    (shown : cursor.tokens? = some tokens) (tree : Expr) (rest : List Token) :
    (∃ after, climb (level + 1) cursor = .ok tree after ∧ after.tokens? = some rest) ↔
      ∃ word, tokens = word ++ rest ∧ Derives (.ofLevel level) word tree ∧
        headPrecedence rest ≤ level := by
  constructor
  · rintro ⟨after, read, ending⟩
    obtain ⟨word, rest', rfl, ending', derived⟩ :=
      climbsSoundly cursor level tree after read tokens shown
    obtain rfl : rest = rest' := Option.some.inj (ending.symm.trans ending')
    refine ⟨word, rfl, derived, ?_⟩
    rw [Cursor.headPrecedence_tokens ending]
    rcases climb_rests (Nat.succ_pos level) read with finish | loose
    · rw [finish]; exact Nat.zero_le level
    · exact Nat.le_of_lt_succ loose
  · rintro ⟨word, rfl, ⟨derivation, rfl, rfl⟩, settled⟩
    have lower := le_ofLevel_level bounded
    obtain ⟨after, ending, climbs⟩ :=
      climbs_derivation (Nat.le_trans settled lower) derivation shown
    exact ⟨after, climb_of_climbs climbs lower ending settled, ending⟩

def feedOf : List Token → Feed
  | [] => .finished 0
  | token :: rest => .token token 0 (feedOf rest)

theorem feedOf_tokens {tokens : List Token} (open_ : .finish ∉ tokens) :
    (feedOf tokens).tokens? = some (tokens ++ [.finish]) := by
  induction tokens with
  | nil => rfl
  | cons token rest ih =>
      obtain ⟨first, later⟩ := not_or.mp (mt List.mem_cons.mpr open_)
      simp [feedOf, Feed.tokens?, ih later, Ne.symm first]

theorem exists_cursor {tokens : List Token} (open_ : .finish ∉ tokens) :
    ∃ cursor : Cursor, cursor.tokens? = some (tokens ++ [.finish]) := by
  cases tokens with
  | nil => exact ⟨⟨.finish, 0, .finished 0⟩, rfl⟩
  | cons token rest =>
      obtain ⟨first, later⟩ := not_or.mp (mt List.mem_cons.mpr open_)
      refine ⟨⟨token, 0, feedOf rest⟩, ?_⟩
      simp [Cursor.tokens?, feedOf_tokens later, Ne.symm first]

/-- Every sequence of tokens that ends in the end of the text is before some cursor.
Started there with room for its nesting, an expression of a level is read exactly when
a word of the level's layer stands in front and nothing that binds more tightly behind
it. Words have at most one derivation; `&`, `|`, `+`, `-`, `*` and `/` fold to the left,
`^` to the right, and a unary minus reaches no further than its primary. -/
theorem expression_prefix_contract :
    (∀ tokens, .finish ∉ tokens →
      ∃ cursor : Cursor, cursor.tokens? = some (tokens ++ [.finish])) ∧
    (∀ (level limit : Nat) (cursor : Cursor) (tokens rest : List Token) (tree : Expr),
      level ≤ 5 → cursor.tokens? = some tokens → tokens.length ≤ limit →
      ((∃ after, expression limit (level + 1) cursor = .ok tree after ∧
          after.tokens? = some rest) ↔
        ∃ word, tokens = word ++ rest ∧ Derives (.ofLevel level) word tree ∧
          headPrecedence rest ≤ level)) ∧
    (∀ goal (first second : Derivation goal), first.tokens = second.tokens → first = second) ∧
    (∀ (layer : Folding) op word more left right, op ∈ layer.operators →
      Derives (.folding layer) word left → Derives layer.operand more right →
      ∀ tree, Derives (.folding layer) (word ++ .operator op :: more) tree ↔
        tree = .binary op left right) ∧
    (∀ word more base exponent, Derives .unary word base → Derives .power more exponent →
      ∀ tree, Derives .power (word ++ .operator .power :: more) tree ↔
        tree = .binary .power base exponent) ∧
    (∀ word more operand exponent, Derives .unary word operand → Derives .power more exponent →
      ∀ tree, Derives .power (.operator .subtract :: (word ++ .operator .power :: more)) tree ↔
        tree = .binary .power (.negative operand) exponent) := by
  refine ⟨fun _ => exists_cursor, ?_, fun _ => Derivation.tokens_injective, ?_, ?_, ?_⟩
  · intro level limit cursor tokens rest tree bounded shown enough
    have deep : cursor.remaining < limit := by
      rw [Cursor.tokens?_length shown] at enough
      exact enough
    rw [expression_eq_climb (Nat.succ_pos level) deep]
    exact climb_iff bounded shown tree rest
  · intro layer op word more left right member derived operand
    exact (Derives.append layer member derived operand).iff_eq
  · intro word more base exponent derived raised
    exact (derived.raise raised).iff_eq
  · intro word more operand exponent derived raised
    exact (derived.negate.raise raised).iff_eq

/-- At the level of powers, `-1 ^ 1 * 1` gives the power of the negated one and stops in
front of `*`; and `1 - 1 - 1` stands only for the difference of the first difference. -/
theorem expression_prefix_contract_negated_base :
    let one : Token := .number .one
    let unit : Expr := .leaf .one
    (∃ after,
      expression 7 4 ⟨.operator .subtract, 0,
          feedOf [one, .operator .power, one, .operator .multiply, one]⟩ =
        .ok (.binary .power (.negative unit) unit) after ∧
      after.tokens? = some [.operator .multiply, one, .finish]) ∧
    (∀ tree, Derives (.folding .sum)
        [one, .operator .subtract, one, .operator .subtract, one] tree ↔
      tree = .binary .subtract (.binary .subtract unit unit) unit) := by
  intro one unit
  have operand : Derives (.folding .product) [one] unit :=
    ⟨.folded (.base (.plain (.number .one))) .done, rfl, rfl⟩
  have difference : Derives (.folding .sum) [one, .operator .subtract, one]
      (.binary .subtract unit unit) :=
    Derives.append .sum (by decide) (operand.single .sum) operand
  obtain ⟨_, reads, _, folds, _⟩ := expression_prefix_contract
  refine ⟨?_, ?_⟩
  · refine (reads 3 7 _
      [.operator .subtract, one, .operator .power, one, .operator .multiply, one, .finish]
      _ _ (by decide) rfl (by decide)).mpr ?_
    refine ⟨[.operator .subtract, one, .operator .power, one], rfl, ?_, by decide⟩
    exact ⟨.raised (.negated (.plain (.number .one))) (.base (.plain (.number .one))), rfl, rfl⟩
  · exact folds .sum .subtract [one, .operator .subtract, one] [one] _ _ (by decide) difference
      operand

end Parser

end Reckon
