import Reckon.Expr.Grammar
import Reckon.Proofs.Derivation

/-!
The layered reader reads derivations. Each layer, given that the layer below it
does, splits exactly those token sequences that start with one of its derivations
followed by nothing that could extend it. The counters that make the reader total
never run out: they are compared with the number of tokens.
-/

namespace Reckon.Grammar

/-- On sequences of at most `bound` tokens the layer reads the derivations of the goal. -/
def Reads (layer : Layer) (goal : Nonterminal) (bound : Nat) : Prop :=
  ∀ tokens tree rest, tokens.length ≤ bound →
    (layer tokens = some (tree, rest) ↔
      ∃ derivation : Derivation goal, tokens = derivation.tokens ++ rest ∧
        derivation.tree = tree ∧ headPrecedence rest ≤ goal.level)

section Folds

variable {layer : Folding} {operand : Layer}

-- A token that may follow an operand of a layer and is no operator of the layer ends
-- the fold.
theorem foldRest_stop {steps : Nat} {left : Expr} {tokens : List Token}
    (settled : headPrecedence tokens ≤ (Nonterminal.folding layer).level) :
    foldRest layer.operators operand steps left tokens = some (left, tokens) := by
  cases steps with
  | zero => cases tokens <;> rfl
  | succ steps =>
      rcases tokens with _ | ⟨op | _ | _ | value | _, rest⟩
      · rfl
      · have other : op ∉ layer.operators := by
          intro member
          exact Steps.settled_ne member settled rfl
        simp [foldRest, other]
      all_goals rfl

theorem foldRest_iff {bound : Nat} (reads : Reads operand layer.operand bound) (steps : Nat) :
    ∀ left tokens tree rest, tokens.length ≤ steps → tokens.length ≤ bound + 1 →
      headPrecedence tokens ≤ layer.operand.level →
      (foldRest layer.operators operand steps left tokens = some (tree, rest) ↔
        ∃ more : Steps layer, tokens = more.tokens ++ rest ∧ more.fold left = tree ∧
          headPrecedence rest ≤ (Nonterminal.folding layer).level) := by
  induction steps with
  | zero =>
      intro left tokens tree rest enough _ _
      obtain rfl : tokens = [] := List.eq_nil_of_length_eq_zero (Nat.le_zero.mp enough)
      constructor
      · intro read
        cases read
        exact ⟨.done, rfl, rfl, Nat.zero_le _⟩
      · rintro ⟨_ | _, split, rfl, _⟩
        · cases split
          rfl
        · cases split
  | succ steps ih =>
      intro left tokens tree rest enough within loose
      by_cases settled : headPrecedence tokens ≤ (Nonterminal.folding layer).level
      · rw [foldRest_stop settled]
        constructor
        · intro read
          cases read
          exact ⟨.done, rfl, rfl, settled⟩
        · rintro ⟨_ | ⟨op, member, _, _⟩, rfl, rfl, _⟩
          · rfl
          · exact absurd rfl (Steps.settled_ne member settled)
      · -- The head is an operator of this layer, since nothing tighter may stand here.
        obtain ⟨op, behind, rfl, member⟩ : ∃ op behind, tokens = .operator op :: behind ∧
            op ∈ layer.operators := by
          rw [operand_level] at loose
          rcases tokens with _ | ⟨op | _ | _ | value | _, behind⟩
          · exact absurd (Nat.zero_le _) settled
          · refine ⟨op, behind, rfl, (mem_operators layer op).mpr ?_⟩
            simp only [headPrecedence, Token.precedence] at loose settled
            omega
          all_goals exact absurd (Nat.zero_le _) settled
        simp only [List.length_cons] at enough within
        simp only [foldRest, member, ↓reduceIte]
        constructor
        · intro read
          cases inner : operand behind with
          | none => simp [inner] at read
          | some pair =>
              obtain ⟨right, middle⟩ := pair
              obtain ⟨derivation, rfl, rfl, follow⟩ :=
                (reads behind right middle (by omega)).mp inner
              simp only [List.length_append] at enough within
              simp only [inner] at read
              obtain ⟨more, rfl, rfl, ending⟩ :=
                (ih _ middle tree rest (by omega) (by omega) follow).mp read
              exact ⟨.next op member derivation more, by simp [Steps.tokens], rfl, ending⟩
        · rintro ⟨_ | ⟨op', member', derivation, more⟩, split, rfl, ending⟩
          · simp only [Steps.tokens, List.nil_append] at split
            rw [← split] at ending
            exact absurd ending settled
          · simp only [Steps.tokens, List.cons_append, List.append_assoc, List.cons.injEq,
              Token.operator.injEq] at split
            obtain ⟨rfl, rfl⟩ := split
            have follow := more.headPrecedence_append rest ending
            have inner := (reads _ derivation.tree (more.tokens ++ rest) (by omega)).mpr
              ⟨derivation, rfl, rfl, follow⟩
            simp only [List.length_append] at enough within
            simp only [inner, Steps.fold]
            exact (ih _ (more.tokens ++ rest) _ rest (by simp; omega) (by simp; omega) follow).mpr
              ⟨more, rfl, rfl, ending⟩

theorem folded_reads (layer : Folding) {bound steps : Nat} (reads : Reads operand layer.operand bound)
    (enough : bound ≤ steps) :
    Reads (folded layer.operators operand steps) (.folding layer) bound := by
  intro tokens tree rest within
  unfold folded
  constructor
  · intro read
    cases first : operand tokens with
    | none => simp [first] at read
    | some pair =>
        obtain ⟨left, middle⟩ := pair
        obtain ⟨derivation, rfl, rfl, follow⟩ := (reads tokens left middle within).mp first
        simp only [List.length_append] at within
        simp only [first] at read
        obtain ⟨more, rfl, rfl, ending⟩ := (foldRest_iff reads steps _ middle tree rest
          (by omega) (by omega) follow).mp read
        exact ⟨.folded derivation more, by simp [Derivation.tokens], rfl, ending⟩
  · rintro ⟨⟨derivation, more⟩, rfl, rfl, ending⟩
    have follow := more.headPrecedence_append rest ending
    simp only [Derivation.tokens, List.append_assoc] at within ⊢
    have first := (reads _ derivation.tree (more.tokens ++ rest) within).mpr
      ⟨derivation, rfl, rfl, follow⟩
    simp only [List.length_append] at within
    simp only [first]
    exact (foldRest_iff reads steps _ _ _ rest (by simp; omega) (by simp; omega) follow).mpr
      ⟨more, rfl, rfl, ending⟩

end Folds

section Operands

variable {group : Layer}

theorem atom_reads {bound : Nat} (reads : Reads group (.folding .bits) bound) :
    Reads (atom group) .atom (bound + 1) := by
  intro tokens tree rest within
  have settled : headPrecedence rest ≤ Nonterminal.atom.level := unary_settled rest
  constructor
  · intro read
    unfold atom at read
    split at read
    · rename_i value behind
      cases read
      exact ⟨.number value, rfl, rfl, settled⟩
    · rename_i behind
      split at read
      · rename_i inner rest' closed
        cases read
        simp only [List.length_cons] at within
        obtain ⟨derivation, rfl, rfl, _⟩ := (reads behind _ _ (by omega)).mp closed
        exact ⟨.group derivation, by simp [Derivation.tokens], rfl, settled⟩
      · cases read
    · cases read
  · rintro ⟨derivation, rfl, rfl, _⟩
    cases derivation with
    | number value => rfl
    | group inner =>
        simp only [Derivation.tokens, List.cons_append, List.append_assoc, List.nil_append,
          List.length_cons] at within ⊢
        have closed := (reads _ inner.tree (.rightParen :: rest) (by omega)).mpr
          ⟨inner, rfl, rfl, Nat.zero_le _⟩
        simp only [atom, closed]
        rfl

theorem atom_reads_nil : Reads (atom group) .atom 0 := by
  intro tokens tree rest within
  obtain rfl : tokens = [] := List.eq_nil_of_length_eq_zero (Nat.le_zero.mp within)
  constructor
  · intro read
    cases read
  · rintro ⟨derivation, split, _, _⟩
    cases derivation <;> cases split

theorem unary_reads {bound : Nat} (reads : Reads (atom group) .atom bound) (steps : Nat) :
    ∀ bound', bound' ≤ bound → bound' ≤ steps → Reads (unary group steps) .unary bound' := by
  -- Without a minus sign in front the counter does not matter.
  have plain : ∀ steps tokens tree rest, tokens.length ≤ bound →
      (∀ behind, tokens ≠ .operator .subtract :: behind) →
      (unary group steps tokens = some (tree, rest) ↔
        ∃ derivation : Derivation .unary, tokens = derivation.tokens ++ rest ∧
          derivation.tree = tree ∧ headPrecedence rest ≤ Nonterminal.unary.level) := by
    intro steps tokens tree rest within unsigned
    have same : unary group steps tokens = atom group tokens := by
      unfold unary
      split
      · exact absurd rfl (unsigned _)
      · rfl
    rw [same, reads tokens tree rest within]
    constructor
    · rintro ⟨derivation, rfl, rfl, settled⟩
      exact ⟨.plain derivation, rfl, rfl, settled⟩
    · rintro ⟨derivation, rfl, rfl, settled⟩
      cases derivation with
      | negated operand => exact absurd rfl (unsigned _)
      | plain operand => exact ⟨operand, rfl, rfl, settled⟩
  induction steps with
  | zero =>
      intro bound' le enough tokens tree rest within
      refine plain 0 tokens tree rest (by omega) ?_
      rintro behind rfl
      simp only [List.length_cons] at within
      omega
  | succ steps ih =>
      intro bound' le enough tokens tree rest within
      by_cases signed : ∃ behind, tokens = .operator .subtract :: behind
      · obtain ⟨behind, rfl⟩ := signed
        simp only [List.length_cons] at within
        have inner := ih behind.length (by omega) (by omega) behind
        simp only [unary]
        constructor
        · intro read
          split at read
          · rename_i operand rest' reading
            cases read
            obtain ⟨derivation, rfl, rfl, settled⟩ := (inner _ _ (Nat.le_refl _)).mp reading
            exact ⟨.negated derivation, rfl, rfl, settled⟩
          · cases read
        · rintro ⟨derivation, split, rfl, settled⟩
          cases derivation with
          | negated operand =>
              obtain rfl := List.tail_eq_of_cons_eq split
              have reading := (inner operand.tree rest (Nat.le_refl _)).mpr
                ⟨operand, rfl, rfl, settled⟩
              simp only [reading, Derivation.tree]
          | plain operand => cases operand <;> cases split
      · exact plain (steps + 1) tokens tree rest (by omega)
          (fun behind same => signed ⟨behind, same⟩)

theorem settled_of_unraised {rest : List Token}
    (unraised : ∀ behind, rest ≠ .operator .power :: behind) :
    headPrecedence rest ≤ Nonterminal.power.level := by
  rcases rest with _ | ⟨op | _ | _ | value | _, behind⟩
  · exact Nat.zero_le _
  · cases op with
    | power => exact absurd rfl (unraised behind)
    | and | or | add | subtract | multiply | divide =>
        simp [headPrecedence, Token.precedence, Operator.precedence, Nonterminal.level]
  all_goals exact Nat.zero_le _

theorem power_reads {bound : Nat} (reads : Reads (atom group) .atom bound) (steps : Nat) :
    ∀ bound', bound' ≤ bound → bound' < steps → Reads (power group steps) .power bound' := by
  induction steps with
  | zero => intro bound' _ enough; omega
  | succ steps ih =>
      intro bound' le enough tokens tree rest within
      have bases := unary_reads reads steps bound' le (Nat.le_of_lt_succ enough)
      constructor
      · intro read
        simp only [power] at read
        split at read
        · rename_i base behind reading
          obtain ⟨operand, rfl, rfl, _⟩ := (bases tokens _ _ within).mp reading
          simp only [List.length_append, List.length_cons] at within
          split at read
          · rename_i exponent rest' raised
            cases read
            obtain ⟨derivation, rfl, rfl, settled⟩ :=
              (ih behind.length (by omega) (by omega) behind _ _
                (Nat.le_refl _)).mp raised
            exact ⟨.raised operand derivation, by simp [Derivation.tokens], rfl, settled⟩
          · cases read
        · rename_i unraised
          obtain ⟨operand, rfl, rfl, _⟩ := (bases tokens tree rest within).mp read
          refine ⟨.base operand, rfl, rfl, settled_of_unraised fun behind same => ?_⟩
          subst same
          exact unraised _ _ read
      · rintro ⟨derivation, rfl, rfl, settled⟩
        simp only [power]
        cases derivation with
        | base operand =>
            have reading := (bases _ operand.tree rest within).mpr
              ⟨operand, rfl, rfl, unary_settled rest⟩
            rw [reading]
            split
            · rename_i base behind same
              cases same
              exact absurd settled power_unsettled
            · rfl
        | raised base exponent =>
            simp only [Derivation.tokens, List.append_assoc, List.cons_append] at within ⊢
            have reading := (bases _ base.tree _ within).mpr ⟨base, rfl, rfl, unary_settled _⟩
            simp only [List.length_append, List.length_cons] at within
            have raised := (ih (exponent.tokens ++ rest).length (by simp; omega) (by simp; omega)
              _ exponent.tree rest (Nat.le_refl _)).mpr ⟨exponent, rfl, rfl, settled⟩
            simp only [reading, raised, Derivation.tree]

end Operands

theorem product_reads {group : Layer} {bound steps : Nat} (reads : Reads (atom group) .atom bound)
    (enough : bound < steps) : Reads (product group steps) (.folding .product) bound :=
  folded_reads .product (power_reads reads steps bound (Nat.le_refl bound) enough) (Nat.le_of_lt enough)

theorem sum_reads {group : Layer} {bound steps : Nat} (reads : Reads (atom group) .atom bound)
    (enough : bound < steps) : Reads (sum group steps) (.folding .sum) bound :=
  folded_reads .sum (product_reads reads enough) (Nat.le_of_lt enough)

theorem bits_reads (bound : Nat) : ∀ steps, bound + 1 < steps →
    Reads (bits steps) (.folding .bits) bound := by
  -- A group is shorter than the atom that it stands in, so the induction is on the bound.
  have layers : ∀ bound steps, bound < steps → Reads (atom (bits steps)) .atom bound →
      Reads (bits (steps + 1)) (.folding .bits) bound := by
    intro bound steps enough atoms
    exact folded_reads .bits (sum_reads atoms enough) (Nat.le_of_lt enough)
  induction bound with
  | zero =>
      intro steps enough
      obtain ⟨steps, rfl⟩ : ∃ n, steps = n + 1 := Nat.exists_eq_succ_of_ne_zero (by omega)
      exact layers 0 steps (by omega) atom_reads_nil
  | succ bound ih =>
      intro steps enough
      obtain ⟨steps, rfl⟩ : ∃ n, steps = n + 1 := Nat.exists_eq_succ_of_ne_zero (by omega)
      exact layers (bound + 1) steps (by omega) (atom_reads (ih steps (by omega)))

-- The reader accepts exactly the derivable sequences, and gives their trees.
theorem parseTokens?_eq_some (tokens : List Token) (tree : Expr) :
    parseTokens? tokens = some tree ↔ Derives (.folding .bits) tokens tree := by
  have reads := bits_reads tokens.length _ (Nat.lt_succ_self _)
  unfold parseTokens?
  constructor
  · intro read
    split at read
    · rename_i reading
      cases read
      obtain ⟨derivation, split, rfl, _⟩ := (reads tokens tree [] (Nat.le_refl _)).mp reading
      exact ⟨derivation, by simpa using split.symm, rfl⟩
    · cases read
  · rintro ⟨derivation, rfl, rfl⟩
    have reading := (reads _ derivation.tree [] (Nat.le_refl _)).mpr
      ⟨derivation, by simp, rfl, Nat.zero_le _⟩
    simp [reading]

end Reckon.Grammar
