import Reckon.Proofs.Language
import Reckon.Proofs.Limits
import Reckon.Proofs.MaximalMunch

/-!
Expressions put together from texts. A text that parses on its own parses to the same
tree between parentheses, wherever these stand: its pieces stay its pieces, and a group
is an operand that no operator reaches into. The values follow the trees.
-/

namespace Reckon

open Grammar Piece

theorem outcome_eq_ok {feed : Feed} (wellFormed : feed.WellFormed) (tokens : List Token) :
    feed.outcome = .ok tokens ↔ feed.tokens? = some tokens := by
  induction feed generalizing tokens with
  | finished position => simp [Feed.outcome, Feed.tokens?]
  | blocked error => simp [Feed.outcome, Feed.tokens?]
  | refused error position rest ih => simp [Feed.outcome, Feed.tokens?]
  | token first position rest ih =>
      rw [Feed.outcome, Feed.tokens?, if_neg wellFormed.1, Option.map_eq_some_iff]
      have same := ih wellFormed.2.2
      constructor
      · intro read
        cases behind : rest.outcome with
        | error error =>
            rw [behind] at read
            cases read
        | ok tail =>
            rw [behind] at read
            cases read
            exact ⟨tail, (same tail).mp behind, rfl⟩
      · rintro ⟨tail, behind, rfl⟩
        rw [(same tail).mpr behind]
        rfl

def Spells (goal : Nonterminal) (text : List Char) (tree : Expr) : Prop :=
  ∃ pieces, Cuts pieces text ∧ Derives goal (tokens pieces) tree

theorem parse_eq_ok_iff_spells (text : List Char) (tree : Expr) :
    parse text = .ok tree ↔ Spells (.folding .bits) text tree := by
  have readings := fun tokens => outcome_eq_ok (Scanner.feed_wellFormed (.ofText text)) tokens
  rw [parse_eq_ok]
  constructor
  · rintro ⟨word, shown, derived⟩
    have read : tokenize text = .ok (word ++ [.finish]) := by
      rw [tokenize_eq_outcome]
      exact (readings _).mpr shown
    obtain ⟨pieces, cuts, _, same⟩ := (tokenize_eq_ok text _).mp read
    rw [List.append_cancel_right same] at derived
    exact ⟨pieces, cuts, derived⟩
  · rintro ⟨pieces, cuts, derived⟩
    refine ⟨tokens pieces, (readings _).mp ?_, derived⟩
    exact (tokenize_eq_outcome text).symm.trans (tokenize_cuts cuts)

def enclosed (text : List Char) : List Char := '(' :: (text ++ [')'])

section Putting

variable {text more : List Char} {tree operand : Expr}

theorem Cuts.symbol {pieces : List Piece} (cuts : Cuts pieces text) {c : Char} {token : Token}
    (reads : Token.ofSymbol? c = some token) : Cuts (.symbol c token reads :: pieces) (c :: text) :=
  cuts.cons (apart_single (ofSymbol?_apart reads).2.1 text)

theorem Spells.enclose (spelled : Spells (.folding .bits) text tree) :
    Spells .unary (enclosed text) tree := by
  obtain ⟨pieces, cuts, derived⟩ := spelled
  have close : Token.ofSymbol? ')' = some .rightParen := rfl
  have inside := cuts.append (Cuts.nil.symbol close) (symbol_ends close []).apart
  refine ⟨_, inside.symbol (show Token.ofSymbol? '(' = some .leftParen from rfl), ?_⟩
  have group := derived.enclose
  simpa [tokens, token?] using group

theorem Spells.negate (spelled : Spells .unary text tree) :
    Spells .unary ('-' :: text) (.negative tree) := by
  obtain ⟨pieces, cuts, derived⟩ := spelled
  exact ⟨_, cuts.symbol (ofSymbol?_symbol .subtract), derived.negate⟩

theorem Spells.join (op : Operator) (first : Spells .unary text tree)
    (second : Spells .unary more operand) :
    Spells (.folding .bits) (text ++ op.symbol :: more) (.binary op tree operand) := by
  obtain ⟨pieces, cuts, derived⟩ := first
  obtain ⟨pieces', cuts', derived'⟩ := second
  have joint := ofSymbol?_symbol op
  refine ⟨_, cuts.append (cuts'.symbol joint) (symbol_ends joint more).apart, ?_⟩
  have joined := Parser.derives_joined op derived derived'
  simpa [tokens, token?] using joined

theorem Spells.loosen (spelled : Spells .unary text tree) : Spells (.folding .bits) text tree := by
  obtain ⟨pieces, cuts, derived⟩ := spelled
  have tight : Derives (.ofLevel 5) (tokens pieces) tree := derived
  exact ⟨pieces, cuts, tight.loosen (Nat.zero_le 5)⟩

end Putting

theorem evaluateText_of_parse {text : List Char} {tree : Expr} (parsed : parse text = .ok tree) :
    evaluateText text = tree.evaluate.mapError .eval := by
  rw [evaluateText, parsed]
  rfl

theorem evaluate_binary (op : Operator) (left right : Expr) :
    (Expr.evaluate (.binary op left right)).mapError Failure.eval = (do
      let a ← left.evaluate.mapError .eval
      let b ← right.evaluate.mapError .eval
      (op.apply a b).mapError .eval) := by
  simp only [Expr.evaluate, Tree.evaluateBy]
  cases left.evaluateBy .ok with
  | error error => rfl
  | ok a =>
      cases right.evaluateBy .ok with
      | error error => rfl
      | ok b => rfl

/-- Two texts that parse can be enclosed, negated and joined by any operator, and the
whole parses to the tree that is put together from theirs. Its value is the operator
applied to theirs; if the first has none the whole fails as the first does, and otherwise,
if the second has none, as the second does. A calculation under limits gives the same or
reports that the expression is too deep. -/
theorem parse_composed (op : Operator) {first second : List Char} {left right : Expr}
    (readFirst : parse first = .ok left) (readSecond : parse second = .ok right) :
    let whole := enclosed first ++ op.symbol :: enclosed second
    let combined : Except Failure Double := do
      let a ← evaluateText first
      let b ← evaluateText second
      (op.apply a b).mapError .eval
    parse (enclosed first) = .ok left ∧
    parse ('-' :: enclosed first) = .ok (.negative left) ∧
    parse whole = .ok (.binary op left right) ∧
    evaluateText whole = combined ∧
    ∀ limits, calculate limits (String.ofList whole) = combined ∨
      ∃ cause, calculate limits (String.ofList whole) = .error cause ∧ cause.isTooDeep = true := by
  intro whole combined
  have group := ((parse_eq_ok_iff_spells first left).mp readFirst).enclose
  have group' := ((parse_eq_ok_iff_spells second right).mp readSecond).enclose
  have parsed : parse whole = .ok (.binary op left right) :=
    (parse_eq_ok_iff_spells _ _).mpr (group.join op group')
  have value : evaluateText whole = combined := by
    rw [evaluateText_of_parse parsed, evaluate_binary]
    simp only [combined, evaluateText_of_parse readFirst, evaluateText_of_parse readSecond]
  refine ⟨?_, ?_, parsed, value, ?_⟩
  · exact (parse_eq_ok_iff_spells _ _).mpr group.loosen
  · exact (parse_eq_ok_iff_spells _ _).mpr group.negate.loosen
  · intro limits
    have limited := calculate_or_tooDeep limits (String.ofList whole)
    rwa [String.toList_ofList, value] at limited

/-- In `(1|1 )^(1-1)` neither operator reaches out of its parentheses. -/
theorem parse_composed_loose_operands :
    let one : Expr := .leaf .one
    parse ['1', '|', '1', ' '] = .ok (.binary .or one one) ∧
    parse ['1', '-', '1'] = .ok (.binary .subtract one one) ∧
    parse ['(', '1', '|', '1', ' ', ')', '^', '(', '1', '-', '1', ')'] =
      .ok (.binary .power (.binary .or one one) (.binary .subtract one one)) := by
  intro one
  have finite : ∀ {text : List Char} {tree : Expr}, Grammar.parse? text = some tree →
      .infinity false ∉ tree.leaves → parse text = .ok tree := by
    intro text tree read bounded
    exact (parse_or_outOfRange read).resolve_right fun refused => bounded refused.1
  have first : parse ['1', '|', '1', ' '] = .ok (.binary .or one one) :=
    finite (by decide +kernel) (by decide)
  have second : parse ['1', '-', '1'] = .ok (.binary .subtract one one) :=
    finite (by decide +kernel) (by decide)
  obtain ⟨_, _, joined, _⟩ := parse_composed .power first second
  exact ⟨first, second, joined⟩

end Reckon
