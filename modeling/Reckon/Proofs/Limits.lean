import Reckon.Calculation
import Reckon.Proofs.Climbing

/-!
What a limit can do. A parser under a limit on nesting agrees with the same parser
under any higher limit, and with the one that has none, unless it gives up; a walk over
a tree under a limit on depth likewise. So a calculation has the value, or the failure,
that it has without limits, or it reports that the expression is too deep.
-/

namespace Reckon

namespace Parser

variable {α β : Type}

/-- The first parser does what the second does, or gives up. -/
def Approximates (parser parser' : Parser α) : Prop :=
  ∀ cursor, parser cursor = parser' cursor ∨ ∃ after, parser cursor = .error .tooDeep after

theorem Approximates.refl (parser : Parser α) : Approximates parser parser :=
  fun _ => Or.inl rfl

theorem approximates_tooDeep (parser : Parser α) : Approximates (throw .tooDeep) parser :=
  fun cursor => Or.inr ⟨cursor, rfl⟩

theorem Approximates.bind {parser parser' : Parser α} {next next' : α → Parser β}
    (first : Approximates parser parser')
    (second : ∀ value, Approximates (next value) (next' value)) :
    Approximates (parser >>= next) (parser' >>= next') := by
  intro cursor
  rcases first cursor with same | ⟨after, gaveUp⟩
  · cases read : parser cursor with
    | ok value after =>
        rw [bind_ok read, bind_ok (same ▸ read)]
        exact second value after
    | error error after =>
        rw [bind_error read, bind_error (same ▸ read)]
        exact Or.inl rfl
  · exact Or.inr ⟨after, bind_error gaveUp⟩

section Inner

variable {expression expression' : (least : Nat) → Parser Expr}

theorem primaryWith_approximates
    (inner : ∀ least, Approximates (expression least) (expression' least)) :
    Approximates (primaryWith expression) (primaryWith expression') := by
  refine (Approximates.refl current).bind fun found => ?_
  split
  · exact (Approximates.refl advance).bind fun _ => (inner _).bind fun _ => .refl _
  · exact .refl _
  · exact (Approximates.refl advance).bind fun _ => (inner 1).bind fun _ => .refl _
  · exact .refl _

theorem chainWith_approximates
    (inner : ∀ least, Approximates (expression least) (expression' least)) (least steps : Nat)
    (left : Expr) :
    Approximates (chainWith expression least steps left)
      (chainWith expression' least steps left) := by
  induction steps generalizing left with
  | zero => exact .refl _
  | succ steps ih =>
      refine (Approximates.refl current).bind fun found => ?_
      split
      · refine (Approximates.refl advance).bind fun _ => (inner _).bind fun right => ?_
        split
        · exact ih _
        · exact .refl _
      · exact .refl _

end Inner

theorem expressionWithin_approximates (steps : Nat) {limit limit' : Nat} (lower : limit ≤ limit')
    (least : Nat) :
    Approximates (expressionWithin steps limit least) (expressionWithin steps limit' least) := by
  induction limit generalizing limit' least with
  | zero => exact approximates_tooDeep _
  | succ limit ih =>
      obtain ⟨limit', rfl⟩ : ∃ n, limit' = n + 1 := Nat.exists_eq_succ_of_ne_zero (by omega)
      have inner := fun least => ih (Nat.le_of_succ_le_succ lower) least
      exact (primaryWith_approximates inner).bind fun left =>
        chainWith_approximates inner least steps left

theorem whole_approximates {limit limit' : Nat} (lower : limit ≤ limit') :
    Approximates (whole limit) (whole limit') := by
  have expressions : Approximates (expression limit 1) (expression limit' 1) :=
    (Approximates.refl stepsLeft).bind fun steps => expressionWithin_approximates steps lower 1
  exact expressions.bind fun tree => .refl _

end Parser

/-- A higher limit changes an answer only where the lower one was met. -/
theorem parseFeed_mono {limit limit' : Nat} (lower : limit ≤ limit') (feed : Feed) :
    parseFeed limit feed = parseFeed limit' feed ∨ parseFeed limit feed = .error .tooDeep := by
  unfold parseFeed
  cases Cursor.ofFeed feed with
  | error error => exact Or.inl rfl
  | ok cursor =>
      change (Parser.whole limit).outcome cursor = (Parser.whole limit').outcome cursor ∨
        (Parser.whole limit).outcome cursor = _
      unfold Parser.outcome
      rcases Parser.whole_approximates lower cursor with same | ⟨after, gaveUp⟩
      · exact Or.inl (by rw [same])
      · exact Or.inr (by rw [gaveUp])

theorem parseWithin_or_tooDeep (limit : Nat) (text : List Char) :
    parseWithin limit text = parse text ∨ parseWithin limit text = .error .tooDeep := by
  rcases Nat.lt_or_ge (Feed.ofText text).length limit with enough | few
  · refine Or.inl ?_
    rw [parse_eq]
    exact parseFeed_eq enough
  · exact parseFeed_mono (Nat.le_succ_of_le few) _

section Depth

variable {α : Type} {value : α → Except EvalError Double} {levels : Nat} {tree : Tree α}

/-- A walk under a limit on depth gives what the walk without a limit gives, or gives up. -/
theorem evaluateWithin_or_tooDeep (levels : Nat) (tree : Tree α) :
    tree.evaluateWithin levels value = tree.evaluateBy value ∨
      tree.evaluateWithin levels value = .error (.flawed .tooDeep) := by
  unfold Tree.evaluateWithin
  induction tree generalizing levels with
  | leaf a =>
      cases levels with
      | zero => exact Or.inr rfl
      | succ levels => exact Or.inl rfl
  | negative operand ih =>
      cases levels with
      | zero => exact Or.inr rfl
      | succ levels =>
          simp only [Tree.prune, Tree.evaluateBy]
          rcases ih levels with same | gaveUp
          · exact Or.inl (by rw [same])
          · exact Or.inr (by rw [gaveUp]; rfl)
  | binary op left right ihLeft ihRight =>
      cases levels with
      | zero => exact Or.inr rfl
      | succ levels =>
          simp only [Tree.prune, Tree.evaluateBy]
          rcases ihLeft levels with same | gaveUp
          · rw [same]
            cases left.evaluateBy value with
            | error error => exact Or.inl rfl
            | ok a =>
                rcases ihRight levels with same | gaveUp
                · exact Or.inl (by rw [same])
                · exact Or.inr (by rw [gaveUp]; rfl)
          · exact Or.inr (by rw [gaveUp]; rfl)

theorem evaluateWithin_shallow (enough : tree.height ≤ levels) :
    tree.evaluateWithin levels value = tree.evaluateBy value := by
  unfold Tree.evaluateWithin
  induction tree generalizing levels with
  | leaf a =>
      obtain ⟨levels, rfl⟩ := Nat.exists_eq_add_of_le' enough
      rfl
  | negative operand ih =>
      obtain ⟨levels, rfl⟩ := Nat.exists_eq_add_of_le' (Nat.le_trans (Nat.le_add_left 1 _) enough)
      rw [Tree.prune, Tree.evaluateBy, Tree.evaluateBy, ih (Nat.le_of_succ_le_succ enough)]
  | binary op left right ihLeft ihRight =>
      obtain ⟨levels, rfl⟩ := Nat.exists_eq_add_of_le' (Nat.le_trans (Nat.le_add_left 1 _) enough)
      have both := Nat.max_le.mp (Nat.le_of_succ_le_succ enough)
      rw [Tree.prune, Tree.evaluateBy, Tree.evaluateBy, ihLeft both.1, ihRight both.2]

/-- A tree that is too deep for an outline is too deep for an evaluation, too. -/
theorem evaluateWithin_deep (deep : levels < tree.height) :
    ∃ error, tree.evaluateWithin levels value = .error error := by
  unfold Tree.evaluateWithin
  induction tree generalizing levels with
  | leaf a =>
      obtain rfl : levels = 0 := Nat.lt_one_iff.mp deep
      exact ⟨_, rfl⟩
  | negative operand ih =>
      cases levels with
      | zero => exact ⟨_, rfl⟩
      | succ levels =>
          obtain ⟨error, failed⟩ := ih (Nat.lt_of_succ_lt_succ deep)
          exact ⟨error, by rw [Tree.prune, Tree.evaluateBy, failed]; rfl⟩
  | binary op left right ihLeft ihRight =>
      cases levels with
      | zero => exact ⟨_, rfl⟩
      | succ levels =>
          have either : levels < left.height ∨ levels < right.height := by
            simp only [Tree.height] at deep
            omega
          rw [Tree.prune, Tree.evaluateBy]
          rcases either with first | second
          · obtain ⟨error, failed⟩ := ihLeft first
            exact ⟨error, by rw [failed]; rfl⟩
          · obtain ⟨error, failed⟩ := ihRight second
            cases (left.prune levels).evaluateBy _ with
            | error earlier => exact ⟨earlier, rfl⟩
            | ok a => exact ⟨error, by rw [failed]; rfl⟩

/-- Whatever has a value under a limit on depth can be outlined under it. -/
theorem shallow_of_evaluateWithin {x : Double} (found : tree.evaluateWithin levels value = .ok x) :
    tree.shallow levels = .ok tree := by
  refine if_pos (Nat.le_of_not_lt fun deep => ?_)
  obtain ⟨error, failed⟩ : ∃ error, tree.evaluateWithin levels value = .error error :=
    evaluateWithin_deep deep
  rw [found] at failed
  cases failed

end Depth

def evaluateText (text : List Char) : Except Failure Double := do
  let tree ← (parse text).mapError .parse
  tree.evaluate.mapError .eval

/-- Limits show in a calculation only as the failure that the expression is too deep. -/
theorem calculate_or_tooDeep (limits : Limits) (text : String) :
    calculate limits text = evaluateText text.toList ∨
      ∃ cause, calculate limits text = .error cause ∧ cause.isTooDeep = true := by
  unfold calculate evaluateText parseText
  rcases parseWithin_or_tooDeep limits.nesting text.toList with same | gaveUp
  · rw [same]
    cases parse text.toList with
    | error error => exact Or.inl rfl
    | ok tree =>
        change (evaluateTree limits tree).mapError Failure.eval =
            tree.evaluate.mapError Failure.eval ∨
          ∃ cause, (evaluateTree limits tree).mapError Failure.eval = .error cause ∧ _
        rcases evaluateWithin_or_tooDeep limits.levels tree with same | gaveUp
        · exact Or.inl (by rw [evaluateTree, same, Expr.evaluate])
        · exact Or.inr ⟨_, by rw [evaluateTree, gaveUp]; rfl, rfl⟩
  · rw [gaveUp]
    exact Or.inr ⟨_, rfl, rfl⟩

/-- Every text is calculated as without limits where there is room enough for it. -/
theorem exists_room (text : String) :
    ∃ least : Limits, ∀ limits : Limits,
      least.nesting ≤ limits.nesting → least.levels ≤ limits.levels →
        calculate limits text = evaluateText text.toList := by
  let calls := (Feed.ofText text.toList).length + 1
  have parsed {nesting : Nat} (enough : calls ≤ nesting) :
      parseWithin nesting text.toList = parse text.toList := by
    rw [parse_eq]
    exact parseFeed_eq enough
  cases outcome : parse text.toList with
  | error error =>
      refine ⟨⟨calls, 0⟩, fun limits nests _ => ?_⟩
      rw [calculate, parseText, evaluateText, parsed nests, outcome]
      rfl
  | ok tree =>
      refine ⟨⟨calls, tree.height⟩, fun limits nests walks => ?_⟩
      rw [calculate, parseText, evaluateText, parsed nests, outcome]
      change (evaluateTree limits tree).mapError Failure.eval = tree.evaluate.mapError Failure.eval
      rw [evaluateTree, evaluateWithin_shallow walks, Expr.evaluate]

end Reckon
