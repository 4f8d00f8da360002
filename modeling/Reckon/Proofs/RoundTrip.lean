import Reckon.Expr.Evaluate
import Reckon.Expr.Description
import Reckon.Proofs.Language
import Reckon.Proofs.Numerals

/-!
Parsing undoes the parenthesized text. Literals have no sign, so a negative number
comes back as the negation of a positive one, which evaluates to the same double.
A number that is not finite is written as a word, and the word stops the scanner.
-/

namespace Reckon

open Acceptance Grammar

namespace Expr

/-- The tree with a negation in place of each sign. -/
def unsigned : Expr → Expr
  | .leaf value => if value.isNegative then .negative (.leaf value.negate) else .leaf value
  | .negative operand => .negative (unsigned operand)
  | .binary op left right => .binary op (unsigned left) (unsigned right)

def tokens : Expr → List Token
  | .leaf value =>
      if value.isNegative then [.operator .subtract, .number value.negate] else [.number value]
  | .negative operand => .leftParen :: .operator .subtract :: (tokens operand ++ [.rightParen])
  | .binary op left right =>
      .leftParen :: (tokens left ++ .operator op :: (tokens right ++ [.rightParen]))

theorem parenthesized_negative (operand : Expr) (rest : List Char) :
    parenthesized (.negative operand) ++ rest =
      '(' :: '-' :: (operand.parenthesized ++ ')' :: rest) := by
  simp [parenthesized, Tree.parenthesizedBy]

theorem parenthesized_binary (op : Operator) (left right : Expr) (rest : List Char) :
    parenthesized (.binary op left right) ++ rest =
      '(' :: (left.parenthesized ++ op.symbol :: (right.parenthesized ++ ')' :: rest)) := by
  simp [parenthesized, Tree.parenthesizedBy]

theorem unsigned_eq {tree : Expr} (clear : ∀ value ∈ tree.leaves, value.isNegative = false) :
    tree.unsigned = tree := by
  induction tree with
  | leaf value => simp [unsigned, clear value (List.mem_singleton.mpr rfl)]
  | negative operand ih => rw [unsigned, ih clear]
  | binary op left right ihLeft ihRight =>
      rw [unsigned, ihLeft fun value member => clear value (List.mem_append_left _ member),
        ihRight fun value member => clear value (List.mem_append_right _ member)]

theorem evaluate_unsigned (tree : Expr) : tree.unsigned.evaluate = tree.evaluate := by
  induction tree with
  | leaf value =>
      by_cases negative : value.isNegative = true
      · have twice : value.negate.negate = value := by cases value <;> simp [Double.negate]
        simp only [unsigned, negative, ↓reduceIte]
        change Except.ok value.negate.negate = Except.ok value
        rw [twice]
      · simp [unsigned, negative]
  | negative operand ih =>
      simp only [evaluate] at ih
      simp only [evaluate, unsigned, Tree.evaluateBy, ih]
  | binary op left right ihLeft ihRight =>
      simp only [evaluate] at ihLeft ihRight
      simp only [evaluate, unsigned, Tree.evaluateBy, ihLeft, ihRight]

-- Every operation is in parentheses, so each part is a unary expression wherever it stands.
theorem derives_tokens (tree : Expr) : Derives .unary tree.tokens tree.unsigned := by
  induction tree with
  | leaf value =>
      by_cases negative : value.isNegative = true
      · simp only [tokens, unsigned, negative, ↓reduceIte]
        exact (Derives.leaf _).negate
      · simp only [tokens, unsigned, negative]
        exact Derives.leaf value
  | negative operand ih =>
      have inner : Derives (.ofLevel 5) _ _ := ih.negate
      exact (inner.loosen (Nat.zero_le 5)).enclose
  | binary op left right ihLeft ihRight =>
      have whole := (Parser.derives_joined op ihLeft ihRight).enclose
      rwa [List.append_assoc] at whole

end Expr

section Readings

theorem behind?_append {feed rest : Feed} {word : List Token}
    (left : behind? feed word = some rest) (more : List Token) :
    behind? feed (word ++ more) = behind? rest more := by
  induction word generalizing feed with
  | nil =>
      rw [behind?_nil left]
      rfl
  | cons token word ih =>
      obtain ⟨position, tail, rfl, behind⟩ := behind?_cons left
      rw [List.cons_append, behind?, if_pos rfl]
      exact ih behind

theorem behind?_symbol {c : Char} {symbol : Token} (reads : Token.ofSymbol? c = some symbol)
    (position : Nat) (rest : List Char) (more : List Token) :
    behind? (Scanner.feed ⟨position, c :: rest, false⟩) (symbol :: more) =
      behind? (Scanner.feed ⟨position + 1, rest, false⟩) more := by
  rw [Scanner.feed_symbol position rest false reads, behind?, if_pos rfl]

theorem tokens?_behind {feed rest : Feed} (wellFormed : feed.WellFormed) {word : List Token}
    (left : behind? feed word = some rest) :
    feed.tokens? = rest.tokens?.map (word ++ ·) := by
  induction word generalizing feed with
  | nil =>
      rw [behind?_nil left]
      simp
  | cons token word ih =>
      obtain ⟨position, tail, rfl, behind⟩ := behind?_cons left
      rw [Feed.tokens?, if_neg wellFormed.1, ih wellFormed.2.2 behind, Option.map_map]
      rfl

theorem behind?_plain {value : Double} (finite : value.isFinite = true) (position : Nat)
    {rest : List Char} (ends : Ends isNumeral rest) :
    ∃ position', behind? (Scanner.feed ⟨position, value.plain ++ rest, false⟩)
      (Expr.tokens (.leaf value)) = some (Scanner.feed ⟨position', rest, false⟩) := by
  cases value with
  | nan => cases finite
  | infinity negative => cases finite
  | finite negative magnitude =>
      have denotes := magnitude.denotes_shortest
      cases negative with
      | false =>
          refine ⟨position + (magnitude.shortest.text .plain).length, ?_⟩
          change behind? (Scanner.feed ⟨position, magnitude.shortest.text .plain ++ rest, false⟩)
            [.number (.finite false magnitude)] = _
          rw [denotes.feed_eq ends, behind?, if_pos rfl, behind?]
      | true =>
          refine ⟨position + 1 + (magnitude.shortest.text .plain).length, ?_⟩
          change behind?
            (Scanner.feed ⟨position, '-' :: (magnitude.shortest.text .plain ++ rest), false⟩)
            [.operator .subtract, .number (.finite false magnitude)] = _
          rw [behind?_symbol rfl, denotes.feed_eq ends, behind?, if_pos rfl, behind?]

/-- The scanner reads the text of a tree with finite numbers as the tree's tokens. -/
theorem behind?_parenthesized {tree : Expr} (finite : ∀ value ∈ tree.leaves, value.isFinite = true)
    (position : Nat) {rest : List Char} (ends : Ends isNumeral rest) :
    ∃ position', behind? (Scanner.feed ⟨position, tree.parenthesized ++ rest, false⟩) tree.tokens =
      some (Scanner.feed ⟨position', rest, false⟩) := by
  induction tree generalizing position rest with
  | leaf value => exact behind?_plain (finite value (List.mem_singleton.mpr rfl)) position ends
  | negative operand ih =>
      have close : Token.ofSymbol? ')' = some .rightParen := rfl
      obtain ⟨behind, inner⟩ := ih finite (position + 1 + 1) (symbol_ends close rest)
      refine ⟨behind + 1, ?_⟩
      rw [Expr.parenthesized_negative, Expr.tokens, behind?_symbol rfl, behind?_symbol rfl, behind?_append inner,
        behind?_symbol close, behind?]
  | binary op left right ihLeft ihRight =>
      have close : Token.ofSymbol? ')' = some .rightParen := rfl
      have joint := ofSymbol?_symbol op
      obtain ⟨middle, first⟩ :=
        ihLeft (fun value member => finite value (List.mem_append_left _ member)) (position + 1)
          (symbol_ends joint (Expr.parenthesized right ++ ')' :: rest))
      obtain ⟨behind, second⟩ :=
        ihRight (fun value member => finite value (List.mem_append_right _ member)) (middle + 1)
          (symbol_ends close rest)
      refine ⟨behind + 1, ?_⟩
      rw [Expr.parenthesized_binary, Expr.tokens, behind?_symbol rfl, behind?_append first,
        behind?_symbol joint, behind?_append second, behind?_symbol close, behind?]

end Readings

theorem parse_of_finite {tree : Expr} (finite : ∀ value ∈ tree.leaves, value.isFinite = true) :
    parse tree.parenthesized = .ok tree.unsigned := by
  obtain ⟨position, left⟩ := behind?_parenthesized finite 0 (ends_nil _)
  rw [List.append_nil, Scanner.feed_nil] at left
  have shown := tokens?_behind (Scanner.feed_wellFormed _) left
  have whole : Derives (.ofLevel 5) tree.tokens tree.unsigned := tree.derives_tokens
  exact (parse_of_tokens shown _).mpr (whole.loosen (Nat.zero_le 5))

section Refusal

def StopsAtWord (verdict : Verdict) : Prop :=
  ∃ c position, (c = 'i' ∨ c = 'n') ∧
    verdict = .rejected (unreadable ⟨.invalidCharacter, [c], position⟩)

theorem run_symbol {state next : State} {c : Char} {symbol : Token}
    (reads : Token.ofSymbol? c = some symbol) (moves : step state symbol = .go next)
    (position : Nat) (rest : List Char) :
    run state (Scanner.feed ⟨position, c :: rest, false⟩) =
      run next (Scanner.feed ⟨position + 1, rest, false⟩) := by
  rw [Scanner.feed_symbol position rest false reads]
  simp only [run, moves]

theorem run_word {c : Char} (word : c = 'i' ∨ c = 'n') (state : State) (position : Nat)
    (rest : List Char) : StopsAtWord (run state (Scanner.feed ⟨position, c :: rest, false⟩)) := by
  refine ⟨c, position, word, ?_⟩
  rcases word with rfl | rfl
  · rw [Scanner.feed_invalid position rest false rfl rfl rfl, run]
  · rw [Scanner.feed_invalid position rest false rfl rfl rfl, run]

theorem run_plain {value : Double} (infinite : value.isFinite = false) (unclosed position : Nat)
    (rest : List Char) :
    StopsAtWord
      (run ⟨.operand, unclosed⟩ (Scanner.feed ⟨position, value.plain ++ rest, false⟩)) := by
  cases value with
  | nan => exact run_word (Or.inr rfl) _ position _
  | infinity negative =>
      cases negative with
      | false => exact run_word (Or.inl rfl) _ position _
      | true =>
          change StopsAtWord (run _ (Scanner.feed ⟨position, '-' :: 'i' :: 'n' :: 'f' :: rest, false⟩))
          rw [run_symbol rfl rfl]
          exact run_word (Or.inl rfl) _ _ _
  | finite negative magnitude => cases infinite

theorem run_parenthesized {tree : Expr} (infinite : ∃ value ∈ tree.leaves, value.isFinite = false)
    (unclosed position : Nat) (rest : List Char) :
    StopsAtWord
      (run ⟨.operand, unclosed⟩ (Scanner.feed ⟨position, tree.parenthesized ++ rest, false⟩)) := by
  induction tree generalizing unclosed position rest with
  | leaf value =>
      obtain ⟨found, member, unbounded⟩ := infinite
      rw [List.mem_singleton.mp member] at unbounded
      exact run_plain unbounded unclosed position rest
  | negative operand ih =>
      rw [Expr.parenthesized_negative, run_symbol rfl rfl, run_symbol rfl rfl]
      exact ih infinite (unclosed + 1) _ _
  | binary op left right ihLeft ihRight =>
      have joint := ofSymbol?_symbol op
      rw [Expr.parenthesized_binary, run_symbol rfl rfl]
      by_cases bounded : ∀ value ∈ left.leaves, value.isFinite = true
      · -- The left operand is read to its end, so the word is met in the right one.
        obtain ⟨middle, first⟩ := behind?_parenthesized bounded (position + 1)
          (symbol_ends joint (Expr.parenthesized right ++ ')' :: rest))
        obtain ⟨derivation, shape, _⟩ := Expr.derives_tokens left
        have walked := derivation.walks (unclosed + 1)
        rw [shape] at walked
        rw [run_behind walked first, run_symbol joint rfl]
        apply ihRight
        obtain ⟨value, member, unbounded⟩ := infinite
        rcases List.mem_append.mp member with inLeft | inRight
        · rw [bounded value inLeft] at unbounded
          cases unbounded
        · exact ⟨value, inRight, unbounded⟩
      · apply ihLeft
        simpa using bounded

theorem parse_of_infinite {tree : Expr} (infinite : ∃ value ∈ tree.leaves, value.isFinite = false) :
    ∃ c position, (c = 'i' ∨ c = 'n') ∧
      parse tree.parenthesized = .error (.unreadable ⟨.invalidCharacter, [c], position⟩) := by
  obtain ⟨c, position, word, stops⟩ := run_parenthesized infinite 0 0 []
  rw [List.append_nil] at stops
  refine ⟨c, position, word, unreadable_of_verdict ?_⟩
  rw [verdictOf_parse]
  exact stops

end Refusal

structure ReadsBack (tree : Expr) : Prop where
  accepted_iff : (∃ read, parse tree.parenthesized = .ok read) ↔
    ∀ value ∈ tree.leaves, value.isFinite = true
  unsigned : (∀ value ∈ tree.leaves, value.isFinite = true) →
    parse tree.parenthesized = .ok tree.unsigned
  evaluates : tree.unsigned.evaluate = tree.evaluate
  clear : (∀ value ∈ tree.leaves, value.isFinite = true ∧ value.isNegative = false) →
    parse tree.parenthesized = .ok tree
  parsed : ∀ text, parse text = .ok tree → parse tree.parenthesized = .ok tree
  refused : (∃ value ∈ tree.leaves, value.isFinite = false) →
    ∃ c position, (c = 'i' ∨ c = 'n') ∧
      parse tree.parenthesized = .error (.unreadable ⟨.invalidCharacter, [c], position⟩)

theorem parse_of_clear {tree : Expr}
    (clear : ∀ value ∈ tree.leaves, value.isFinite = true ∧ value.isNegative = false) :
    parse tree.parenthesized = .ok tree := by
  have read := parse_of_finite fun value member => (clear value member).1
  rwa [Expr.unsigned_eq fun value member => (clear value member).2] at read

/-- No text has a number with a sign, or one that is not finite. -/
theorem parse_of_parsed {text : List Char} {tree : Expr} (parsed : parse text = .ok tree) :
    parse tree.parenthesized = .ok tree := by
  apply parse_of_clear
  intro value member
  obtain ⟨size, rfl⟩ := parse_leaves parsed value member
  exact ⟨rfl, rfl⟩

/-- The parenthesized text of a tree parses exactly when all its numbers are finite. The
tree comes back with a negation in place of each sign, so a tree without signs, such as
any that was parsed, comes back as it was; and in any case it evaluates as before, to the
same double or the same failure. Otherwise the first letter of `inf` or `nan` is refused. -/
theorem parse_parenthesized (tree : Expr) : ReadsBack tree where
  accepted_iff := by
    constructor
    · rintro ⟨read, parsed⟩ value member
      by_contra unbounded
      obtain ⟨c, position, _, refused⟩ :=
        parse_of_infinite ⟨value, member, by simpa using unbounded⟩
      rw [parsed] at refused
      cases refused
    · intro finite
      exact ⟨_, parse_of_finite finite⟩
  unsigned := parse_of_finite
  evaluates := tree.evaluate_unsigned
  clear := parse_of_clear
  parsed _ := parse_of_parsed
  refused := parse_of_infinite

/-- The smallest positive double to the power of the largest, negated: both come back
from their more than three hundred digits. An infinity behind a minus does not. -/
theorem parse_parenthesized_extremes :
    parse (Expr.parenthesized (.binary .power (.leaf (.finite false ⟨1, 0, by decide⟩))
        (.leaf (.finite true ⟨Nat.pow 2 53 - 1, 2045, by decide⟩)))) =
      .ok (.binary .power (.leaf (.finite false ⟨1, 0, by decide⟩))
        (.negative (.leaf (.finite false ⟨Nat.pow 2 53 - 1, 2045, by decide⟩)))) ∧
    ∃ c position, (c = 'i' ∨ c = 'n') ∧
      parse (Expr.parenthesized (.negative (.leaf (.infinity true)))) =
        .error (.unreadable ⟨.invalidCharacter, [c], position⟩) :=
  ⟨(parse_parenthesized _).unsigned (by decide),
    (parse_parenthesized _).refused ⟨.infinity true, List.mem_singleton.mpr rfl, rfl⟩⟩

end Reckon
