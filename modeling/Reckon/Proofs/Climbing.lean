import Reckon.Expr.Parser

/-!
The parser freed from its two counters. `expressionWithin` counts operators
against `steps` and nesting against `limit`. Both are only ever compared with the
tokens that are left, so beyond that number neither shows in any outcome.
`climb` is the parser with both counters out of sight, and it satisfies the
recursion that the counters were introduced for.
-/

namespace Reckon

def Cursor.remaining (cursor : Cursor) : Nat :=
  if cursor.current = .finish then 0 else cursor.feed.length + 1

theorem Cursor.remaining_eq_zero (cursor : Cursor) :
    cursor.remaining = 0 ↔ cursor.current = .finish := by
  unfold remaining
  split <;> simp_all

namespace Parser

variable {α β : Type}

theorem bind_ok {parser : Parser α} {next : α → Parser β} {cursor after : Cursor} {value : α}
    (read : parser cursor = .ok value after) :
    (parser >>= next) cursor = next value after := by
  simp [bind, EStateM.bind, read]

theorem bind_error {parser : Parser α} {next : α → Parser β} {cursor after : Cursor}
    {error : ParseError} (failed : parser cursor = .error error after) :
    (parser >>= next) cursor = .error error after := by
  simp [bind, EStateM.bind, failed]

theorem bind_eq_ok {parser : Parser α} {next : α → Parser β} {cursor after : Cursor} {result : β}
    (done : (parser >>= next) cursor = .ok result after) :
    ∃ value middle, parser cursor = .ok value middle ∧ next value middle = .ok result after := by
  cases first : parser cursor with
  | ok value middle =>
      rw [bind_ok first] at done
      exact ⟨value, middle, rfl, done⟩
  | error error middle =>
      rw [bind_error first] at done
      cases done

/-- Only the cursors that the first parser can leave matter to the second. -/
theorem bind_congr {parser : Parser α} {next next' : α → Parser β} {cursor : Cursor}
    (same : ∀ value after, parser cursor = .ok value after → next value after = next' value after) :
    (parser >>= next) cursor = (parser >>= next') cursor := by
  cases first : parser cursor with
  | ok value after => rw [bind_ok first, bind_ok first, same value after first]
  | error error after => rw [bind_error first, bind_error first]

theorem remaining_le_length (cursor : Cursor) : cursor.remaining ≤ cursor.feed.length + 1 := by
  unfold Cursor.remaining
  split <;> omega

theorem advance_remaining_le {cursor after : Cursor} (moved : advance cursor = .ok () after) :
    after.remaining ≤ cursor.feed.length := by
  cases feed : cursor.feed with
  | finished position =>
      simp only [advance, feed] at moved
      cases moved
      simp [Cursor.remaining]
  | blocked error => simp [advance, feed] at moved
  | token token position rest =>
      simp only [advance, feed] at moved
      cases moved
      exact remaining_le_length _
  | refused error position rest => simp [advance, feed] at moved

theorem advance_remaining {cursor after : Cursor} (open_ : cursor.current ≠ .finish)
    (moved : advance cursor = .ok () after) : after.remaining < cursor.remaining := by
  have before : cursor.remaining = cursor.feed.length + 1 := by simp [Cursor.remaining, open_]
  have bound := advance_remaining_le moved
  omega

section Equations

variable (expression : (least : Nat) → Parser Expr) (cursor : Cursor)

/-- The current token alone decides what a primary is. -/
theorem primaryWith_eq :
    primaryWith expression cursor =
      match cursor.current with
      | .operator .subtract =>
          (do advance; return .negative (← expression (negationPrecedence + 1)) : Parser Expr) cursor
      | .number value => (do advance; return .leaf value : Parser Expr) cursor
      | .leftParen =>
          (do
            advance
            let inner ← expression 1
            expect "unbalanced parenthesis" .rightParen
            return inner : Parser Expr) cursor
      | found => .error (.noOperand found) cursor := by
  obtain ⟨current, position, feed⟩ := cursor
  rcases current with op | _ | _ | value | _
  · cases op <;> rfl
  all_goals rfl

theorem current_eq : current cursor = .ok cursor.current cursor := rfl

theorem chainWith_stop (least steps : Nat) (left : Expr)
    (stop : cursor.current = .finish ∨ cursor.current.precedence < least) :
    chainWith expression least steps left cursor = .ok left cursor := by
  cases steps with
  | zero => rfl
  | succ steps =>
      have idle : ¬ (cursor.current ≠ .finish ∧ least ≤ cursor.current.precedence) := by
        rintro ⟨open_, tight⟩
        rcases stop with finish | loose
        · exact open_ finish
        · omega
      rw [chainWith, bind_ok (current_eq cursor), if_neg idle]
      rfl

theorem chainWith_step (least steps : Nat) (left : Expr) (op : Operator)
    (shape : cursor.current = .operator op) (tight : least ≤ op.precedence) :
    chainWith expression least (steps + 1) left cursor =
      (do
        advance
        let right ← expression (operandLeast (.operator op))
        chainWith expression least steps (.binary op left right) : Parser Expr) cursor := by
  have takes : cursor.current ≠ .finish ∧ least ≤ cursor.current.precedence := by
    rw [shape]
    exact ⟨Token.noConfusion, tight⟩
  rw [chainWith, bind_ok (current_eq cursor), if_pos takes, shape]

/-- A loop that takes operators only either rests or takes one. -/
theorem rests_or_takes (least : Nat) (positive : 0 < least) :
    (cursor.current = .finish ∨ cursor.current.precedence < least) ∨
      ∃ op, cursor.current = .operator op ∧ least ≤ op.precedence := by
  cases shape : cursor.current with
  | operator op =>
      rcases Nat.lt_or_ge op.precedence least with loose | tight
      · exact Or.inl (Or.inr loose)
      · exact Or.inr ⟨op, rfl, tight⟩
  | finish => exact Or.inl (Or.inl rfl)
  | leftParen | rightParen | number value => exact Or.inl (Or.inr positive)

end Equations

theorem operandLeast_pos (token : Token) : 0 < operandLeast token := by
  rcases token with op | _ | _ | value | _
  · cases op <;> decide
  all_goals exact Nat.one_pos

def Consumes (parser : Parser α) : Prop :=
  ∀ cursor value after, parser cursor = .ok value after → after.remaining < cursor.remaining

section Consumption

variable {expression : (least : Nat) → Parser Expr}

/-- What is expected stands there, and the cursor moves past it. -/
theorem expect_eq_ok {complaint : String} {wanted : TokenKind} {cursor after : Cursor}
    (met : expect complaint wanted cursor = .ok () after) :
    cursor.current.kind = wanted ∧ advance cursor = .ok () after := by
  obtain ⟨found, middle, looked, met⟩ := bind_eq_ok met
  cases looked
  by_cases same : cursor.current.kind = wanted
  · simp only [same, ↓reduceIte] at met
    exact ⟨same, met⟩
  · simp only [same, ↓reduceIte] at met
    cases met

theorem expect_remaining {complaint : String} {wanted : TokenKind} {cursor after : Cursor}
    (open_ : wanted ≠ .finish) (met : expect complaint wanted cursor = .ok () after) :
    after.remaining < cursor.remaining := by
  obtain ⟨same, moved⟩ := expect_eq_ok met
  refine advance_remaining ?_ moved
  intro finish
  rw [finish] at same
  exact open_ same.symm

theorem primaryWith_consumes (consumes : ∀ least, 0 < least → Consumes (expression least)) :
    Consumes (primaryWith expression) := by
  intro cursor tree after read
  rw [primaryWith_eq] at read
  split at read
  · rename_i shape
    obtain ⟨_, middle, moved, read⟩ := bind_eq_ok read
    obtain ⟨operand, last, inner, read⟩ := bind_eq_ok read
    cases read
    have first := advance_remaining (by simp [shape]) moved
    have second := consumes _ (by decide) _ _ _ inner
    omega
  · rename_i value shape
    obtain ⟨_, middle, moved, read⟩ := bind_eq_ok read
    cases read
    exact advance_remaining (by simp [shape]) moved
  · rename_i shape
    obtain ⟨_, middle, moved, read⟩ := bind_eq_ok read
    obtain ⟨operand, last, inner, read⟩ := bind_eq_ok read
    obtain ⟨_, closed, met, read⟩ := bind_eq_ok read
    cases read
    have first := advance_remaining (by simp [shape]) moved
    have second := consumes _ (by decide) _ _ _ inner
    have third := expect_remaining (by decide) met
    omega
  · cases read

theorem chainWith_remaining (consumes : ∀ least, 0 < least → Consumes (expression least)) {least steps : Nat}
    (positive : 0 < least) {left tree : Expr} {cursor after : Cursor}
    (read : chainWith expression least steps left cursor = .ok tree after) :
    after.remaining ≤ cursor.remaining := by
  induction steps generalizing left cursor with
  | zero => cases read; exact Nat.le_refl _
  | succ steps ih =>
      rcases rests_or_takes cursor least positive with stop | ⟨op, shape, tight⟩
      · rw [chainWith_stop expression cursor least _ left stop] at read
        cases read
        exact Nat.le_refl _
      · rw [chainWith_step expression cursor least steps left op shape tight] at read
        obtain ⟨_, middle, moved, read⟩ := bind_eq_ok read
        obtain ⟨right, last, inner, read⟩ := bind_eq_ok read
        have first := advance_remaining (by simp [shape]) moved
        have second := consumes _ (operandLeast_pos _) _ _ _ inner
        have third := ih read
        omega

theorem expressionWithin_consumes (steps limit least : Nat) (positive : 0 < least) :
    Consumes (expressionWithin steps limit least) := by
  induction limit generalizing least with
  | zero => intro cursor tree after read; cases read
  | succ limit ih =>
      intro cursor tree after read
      obtain ⟨left, middle, first, read⟩ := bind_eq_ok read
      have shrunk := primaryWith_consumes ih _ _ _ first
      have kept := chainWith_remaining ih positive read
      omega

end Consumption

section Counters

variable {expression expression' : (least : Nat) → Parser Expr}

/-- A primary calls the inner parser only behind a token that it has consumed. -/
theorem primaryWith_congr {cursor : Cursor}
    (same : ∀ least after, 0 < least → after.remaining < cursor.remaining →
      expression least after = expression' least after) :
    primaryWith expression cursor = primaryWith expression' cursor := by
  rw [primaryWith_eq, primaryWith_eq]
  split
  · rename_i shape
    refine bind_congr fun _ middle moved => ?_
    have shrunk := advance_remaining (by simp [shape]) moved
    simp only [bind, EStateM.bind, same (negationPrecedence + 1) middle (by decide) shrunk]
  · rfl
  · rename_i shape
    refine bind_congr fun _ middle moved => ?_
    have shrunk := advance_remaining (by simp [shape]) moved
    simp only [bind, EStateM.bind, same 1 middle (by decide) shrunk]
  · rfl

/-- Two counters of steps that both cover the tokens left, and two inner parsers that
agree behind the next token, give one chain. -/
theorem chainWith_congr {least : Nat} (positive : 0 < least)
    (consumes : ∀ least, 0 < least → Consumes (expression least)) (bound : Nat)
    {cursor : Cursor} {steps steps' : Nat} (left : Expr)
    (within : cursor.remaining ≤ bound)
    (enough : cursor.remaining ≤ steps) (enough' : cursor.remaining ≤ steps')
    (same : ∀ least after, 0 < least → after.remaining < bound →
      expression least after = expression' least after) :
    chainWith expression least steps left cursor =
      chainWith expression' least steps' left cursor := by
  induction steps generalizing steps' cursor left with
  | zero =>
      have stop := cursor.remaining_eq_zero.mp (Nat.le_zero.mp enough)
      rw [chainWith_stop _ _ _ _ _ (Or.inl stop), chainWith_stop _ _ _ _ _ (Or.inl stop)]
  | succ steps ih =>
      rcases rests_or_takes cursor least positive with stop | ⟨op, shape, tight⟩
      · rw [chainWith_stop _ _ _ _ _ stop, chainWith_stop _ _ _ _ _ stop]
      · obtain ⟨steps', rfl⟩ : ∃ n, steps' = n + 1 := by
          refine Nat.exists_eq_succ_of_ne_zero ?_
          intro zero
          simp [Cursor.remaining, shape, zero] at enough'
        rw [chainWith_step _ _ _ _ _ op shape tight, chainWith_step _ _ _ _ _ op shape tight]
        refine bind_congr fun _ middle moved => ?_
        have first := advance_remaining (by simp [shape]) moved
        have agree := same _ middle (operandLeast_pos (.operator op)) (by omega)
        simp only [bind, EStateM.bind, ← agree]
        cases inner : expression (operandLeast (.operator op)) middle with
        | error error last => rfl
        | ok right last =>
            have second := consumes _ (operandLeast_pos _) _ _ _ inner
            exact ih _ (by omega) (by omega) (by omega)

/-- Counters that cover the tokens left do not show. -/
theorem expressionWithin_stable {steps steps' limit limit' least : Nat} (positive : 0 < least)
    {cursor : Cursor} (enough : cursor.remaining ≤ steps) (enough' : cursor.remaining ≤ steps')
    (deep : cursor.remaining < limit) (deep' : cursor.remaining < limit') :
    expressionWithin steps limit least cursor = expressionWithin steps' limit' least cursor := by
  induction limit generalizing limit' least cursor with
  | zero => omega
  | succ limit ih =>
      obtain ⟨limit', rfl⟩ : ∃ n, limit' = n + 1 := Nat.exists_eq_succ_of_ne_zero (by omega)
      have same : ∀ least after, 0 < least → after.remaining < cursor.remaining →
          expressionWithin steps limit least after =
            expressionWithin steps' limit' least after := by
        intro least after positive shrunk
        exact ih positive (by omega) (by omega) (by omega) (by omega)
      simp only [expressionWithin, bind, EStateM.bind, ← primaryWith_congr same]
      cases first : primaryWith (expressionWithin steps limit) cursor with
      | error error middle => rfl
      | ok left middle =>
          have shrunk := primaryWith_consumes
            (expressionWithin_consumes steps limit) _ _ _ first
          exact chainWith_congr positive (expressionWithin_consumes steps limit) cursor.remaining
            left (by omega) (by omega) (by omega) same

end Counters

/-- An expression whose operators bind at least as tightly as `least`, without counters:
the tokens left are bound enough. -/
def climb (least : Nat) : Parser Expr := fun cursor =>
  expressionWithin cursor.remaining (cursor.remaining + 1) least cursor

def chain (least : Nat) (left : Expr) : Parser Expr := fun cursor =>
  chainWith climb least cursor.remaining left cursor

theorem expressionWithin_eq_climb {steps limit least : Nat} (positive : 0 < least)
    {cursor : Cursor} (enough : cursor.remaining ≤ steps) (deep : cursor.remaining < limit) :
    expressionWithin steps limit least cursor = climb least cursor :=
  expressionWithin_stable positive enough (Nat.le_refl _) deep (Nat.lt_succ_self _)

theorem climb_consumes (least : Nat) (positive : 0 < least) : Consumes (climb least) := by
  intro cursor tree after read
  exact expressionWithin_consumes _ _ least positive cursor tree after read

/-- The recursion of the parser: a primary, then the chain of operators behind it. -/
theorem climb_eq (least : Nat) (positive : 0 < least) (cursor : Cursor) :
    climb least cursor = (primaryWith climb >>= chain least) cursor := by
  have same : ∀ least after, 0 < least → after.remaining < cursor.remaining →
      expressionWithin cursor.remaining cursor.remaining least after = climb least after := by
    intro least after positive shrunk
    exact expressionWithin_eq_climb positive (by omega) shrunk
  simp only [climb, expressionWithin, bind, EStateM.bind, ← primaryWith_congr same]
  cases first : primaryWith (expressionWithin cursor.remaining cursor.remaining) cursor with
  | error error middle => rfl
  | ok left middle =>
      have consumes := expressionWithin_consumes cursor.remaining cursor.remaining
      have shrunk := primaryWith_consumes consumes _ _ _ first
      exact chainWith_congr positive consumes cursor.remaining left (by omega) (by omega)
        (Nat.le_refl _) same

theorem chain_stop {least : Nat} {left : Expr} {cursor : Cursor}
    (stop : cursor.current = .finish ∨ cursor.current.precedence < least) :
    chain least left cursor = .ok left cursor :=
  chainWith_stop climb cursor least _ left stop

theorem chain_step {least : Nat} (positive : 0 < least) {left : Expr} {cursor : Cursor}
    {op : Operator} (shape : cursor.current = .operator op) (tight : least ≤ op.precedence) :
    chain least left cursor =
      (do
        advance
        let right ← climb (operandLeast (.operator op))
        chain least (.binary op left right) : Parser Expr) cursor := by
  have count : cursor.remaining = cursor.feed.length + 1 := by simp [Cursor.remaining, shape]
  simp only [chain, count]
  rw [chainWith_step climb cursor least _ left op shape tight]
  refine bind_congr fun _ middle moved => ?_
  refine bind_congr fun right last inner => ?_
  have first := advance_remaining (by simp [shape]) moved
  have second := climb_consumes _ (operandLeast_pos _) _ _ _ inner
  exact chainWith_congr positive climb_consumes last.remaining _ (Nat.le_refl _) (by omega)
    (Nat.le_refl _) (fun _ _ _ _ => rfl)

/-- What is left of a chain when it ends: nothing that it could have taken. -/
theorem chain_rests {least : Nat} (positive : 0 < least) {left tree : Expr} {cursor after : Cursor}
    (read : chain least left cursor = .ok tree after) :
    after.current = .finish ∨ after.current.precedence < least := by
  induction bound : cursor.remaining using Nat.strongRecOn generalizing cursor left with
  | ind bound ih =>
      rcases rests_or_takes cursor least positive with stop | ⟨op, shape, tight⟩
      · rw [chain_stop stop] at read
        cases read
        exact stop
      · rw [chain_step positive shape tight] at read
        obtain ⟨_, middle, moved, read⟩ := bind_eq_ok read
        obtain ⟨right, last, inner, read⟩ := bind_eq_ok read
        have first := advance_remaining (by simp [shape]) moved
        have second := climb_consumes _ (operandLeast_pos _) _ _ _ inner
        exact ih last.remaining (by omega) read rfl

theorem climb_rests {least : Nat} (positive : 0 < least) {tree : Expr} {cursor after : Cursor}
    (read : climb least cursor = .ok tree after) :
    after.current = .finish ∨ after.current.precedence < least := by
  rw [climb_eq least positive] at read
  obtain ⟨left, middle, first, read⟩ := bind_eq_ok read
  exact chain_rests positive read

/-- A limit on nesting that exceeds the tokens left does not show. -/
theorem expression_eq_climb {limit least : Nat} (positive : 0 < least) {cursor : Cursor}
    (deep : cursor.remaining < limit) :
    expression limit least cursor = climb least cursor :=
  expressionWithin_eq_climb positive (remaining_le_length cursor) deep

def climbWhole : Parser Expr := do
  let tree ← climb 1
  let found ← current
  if found = .finish then return tree else throw (.trailing found)

end Parser

/-- A limit that exceeds the readings does not show. -/
theorem parseFeed_eq {limit : Nat} {feed : Feed} (deep : feed.length < limit) :
    parseFeed limit feed = (Parser.advance >>= fun _ => Parser.climbWhole).outcome
      ⟨.finish, 0, feed⟩ := by
  simp only [parseFeed, Cursor.ofFeed, Parser.outcome]
  cases first : Parser.advance ⟨.finish, 0, feed⟩ with
  | error error after =>
      rw [Parser.bind_error first]
      rfl
  | ok _ after =>
      have bound := Parser.advance_remaining_le first
      have same := Parser.expression_eq_climb Nat.one_pos (Nat.lt_of_le_of_lt bound deep)
      rw [Parser.bind_ok first]
      simp only [Parser.whole, Parser.climbWhole, bind, Except.bind, EStateM.bind, same]

theorem parse_eq (text : List Char) :
    parse text = (Parser.advance >>= fun _ => Parser.climbWhole).outcome
      ⟨.finish, 0, .ofText text⟩ :=
  parseFeed_eq (Nat.lt_succ_self _)

end Reckon
