import Reckon.Proofs.Acceptance
import Reckon.Proofs.Layers
import Reckon.Proofs.Lexemes
import Reckon.Proofs.PrefixContract

/-!
The language of expressions. A text parses as a tree exactly when all of it can be
read and the grammar derives the tree from its tokens. The layered reader accepts
the same texts with the same trees, and beyond them those that hold a number too
large for a double, which it takes for infinite.
-/

namespace Reckon

namespace Feed

theorem tokens?_lexemes {feed : Feed} {tokens : List Token} (shown : feed.tokens? = some tokens) :
    ∃ word, tokens = word ++ [.finish] ∧ feed.lexemes? = some word := by
  induction feed generalizing tokens with
  | finished position => cases shown; exact ⟨[], rfl, rfl⟩
  | blocked error => cases shown
  | refused error position rest ih => cases shown
  | token first position rest ih =>
      unfold tokens? at shown
      split at shown
      · cases shown
      · obtain ⟨tail, behind, rfl⟩ := Option.map_eq_some_iff.mp shown
        obtain ⟨word, rfl, lexed⟩ := ih behind
        exact ⟨first :: word, rfl, by simp [lexemes?, lexed]⟩

theorem wellFormed_value {feed : Feed} (wellFormed : feed.WellFormed) {word : List Token}
    (lexed : feed.lexemes? = some word) (value : Double) (member : .number value ∈ word) :
    (∃ size, value = .finite false size) ∨ value = .infinity false := by
  induction feed generalizing word with
  | finished position => cases lexed; cases member
  | blocked error => cases lexed
  | refused error position rest ih =>
      unfold lexemes? at lexed
      split at lexed
      · obtain ⟨tail, behind, rfl⟩ := Option.map_eq_some_iff.mp lexed
        rcases List.mem_cons.mp member with same | later
        · cases same
          exact Or.inr rfl
        · exact ih wellFormed behind later
      · cases lexed
  | token first position rest ih =>
      unfold lexemes? at lexed
      obtain ⟨tail, behind, rfl⟩ := Option.map_eq_some_iff.mp lexed
      rcases List.mem_cons.mp member with same | later
      · exact Or.inl (wellFormed.2.1 value same.symm)
      · exact ih wellFormed.2.2 behind later

theorem tokens?_value {feed : Feed} (wellFormed : feed.WellFormed) {tokens : List Token}
    (shown : feed.tokens? = some tokens) (value : Double) (member : .number value ∈ tokens) :
    ∃ size, value = .finite false size := by
  induction feed generalizing tokens with
  | finished position => cases shown; simp at member
  | blocked error => cases shown
  | refused error position rest ih => cases shown
  | token first position rest ih =>
      unfold tokens? at shown
      split at shown
      · cases shown
      · obtain ⟨tail, behind, rfl⟩ := Option.map_eq_some_iff.mp shown
        rcases List.mem_cons.mp member with same | later
        · exact wellFormed.2.1 value same.symm
        · exact ih wellFormed.2.2 behind later

end Feed

open Acceptance Grammar

-- An accepting run has read everything, so nothing in the feed was refused.
theorem tokens?_of_accepted {feed : Feed} (wellFormed : feed.WellFormed) {state : State}
    (accepted : run state feed = .accepted) : ∃ tokens, feed.tokens? = some tokens := by
  induction feed generalizing state with
  | finished position => exact ⟨[.finish], rfl⟩
  | blocked error => cases accepted
  | refused error position rest ih => cases accepted
  | token first position rest ih =>
      have open_ := wellFormed.1
      cases moves : step state first with
      | go next =>
          simp only [run, moves] at accepted
          obtain ⟨tokens, shown⟩ := ih wellFormed.2.2 accepted
          exact ⟨first :: tokens, by simp [Feed.tokens?, open_, shown]⟩
      | accept => exact absurd (step_accept moves) open_
      | fail complaint => simp [run, moves] at accepted

theorem climbWhole_eq_ok (cursor : Cursor) (tree : Expr) :
    Parser.climbWhole.outcome cursor = .ok tree ↔
      ∃ after, Parser.climb 1 cursor = .ok tree after ∧ after.tokens? = some [.finish] := by
  unfold Parser.outcome Parser.climbWhole
  constructor
  · intro read
    cases first : Parser.climb 1 cursor with
    | error error after =>
        rw [Parser.bind_error first] at read
        cases read
    | ok found after =>
        have looked : Parser.current after = .ok after.current after := rfl
        rw [Parser.bind_ok first, Parser.bind_ok looked] at read
        by_cases finish : after.current = .finish
        · simp only [finish, ↓reduceIte] at read
          cases read
          exact ⟨after, rfl, by simp [Cursor.tokens?, finish]⟩
        · simp only [finish, ↓reduceIte] at read
          cases read
  · rintro ⟨after, first, ending⟩
    have looked : Parser.current after = .ok .finish after := by
      rw [← Cursor.tokens?_cons ending]
      rfl
    rw [Parser.bind_ok first, Parser.bind_ok looked]
    rfl

theorem parse_of_tokens {text : List Char} {word : List Token}
    (shown : (Feed.ofText text).tokens? = some (word ++ [.finish])) (tree : Expr) :
    parse text = .ok tree ↔ Derives (.folding .bits) word tree := by
  obtain ⟨after, moved, showing⟩ := Parser.advance_feed ⟨.finish, 0, .ofText text⟩ shown
  have outcome : parse text = Parser.climbWhole.outcome after := by
    rw [parse_eq]
    unfold Parser.outcome
    rw [Parser.bind_ok moved]
  rw [outcome, climbWhole_eq_ok, Parser.climb_iff (Nat.zero_le 5) showing tree [.finish]]
  constructor
  · rintro ⟨word', same, derived, _⟩
    rwa [List.append_cancel_right same]
  · intro derived
    exact ⟨word, rfl, derived, Nat.zero_le 0⟩

/-- A text parses as a tree when it can be read to its end and its tokens derive the tree. -/
theorem parse_eq_ok (text : List Char) (tree : Expr) :
    parse text = .ok tree ↔
      ∃ word, (Feed.ofText text).tokens? = some (word ++ [.finish]) ∧
        Derives (.folding .bits) word tree := by
  constructor
  · intro parsed
    have accepted := verdictOf_parse text
    rw [parsed] at accepted
    obtain ⟨tokens, shown⟩ :=
      tokens?_of_accepted (Scanner.feed_wellFormed _) accepted.symm
    obtain ⟨word, rfl, _⟩ := Feed.tokens?_lexemes shown
    exact ⟨word, shown, (parse_of_tokens shown tree).mp parsed⟩
  · rintro ⟨word, shown, derived⟩
    exact (parse_of_tokens shown tree).mpr derived

section Leaves

def Tree.leaves {α : Type} : Tree α → List α
  | .leaf value => [value]
  | .negative operand => operand.leaves
  | .binary _ left right => left.leaves ++ right.leaves

def Token.value? : Token → Option Double
  | .number value => some value
  | _ => none

mutual

theorem Grammar.Derivation.tree_leaves {goal : Nonterminal} : (derivation : Derivation goal) →
    derivation.tree.leaves = derivation.tokens.filterMap Token.value?
  | .folded first rest => by
      rw [Derivation.tree, rest.fold_leaves, first.tree_leaves, Derivation.tokens,
        List.filterMap_append]
  | .base operand => operand.tree_leaves
  | .raised base exponent => by
      simp [Derivation.tree, Derivation.tokens, Tree.leaves, List.filterMap_cons, Token.value?,
        base.tree_leaves,
        exponent.tree_leaves]
  | .negated operand => by
      simp [Derivation.tree, Derivation.tokens, Tree.leaves, List.filterMap_cons,
        Token.value?, operand.tree_leaves]
  | .plain operand => operand.tree_leaves
  | .number value => rfl
  | .group inner => by
      simp [Derivation.tree, Derivation.tokens, List.filterMap_cons, Token.value?, inner.tree_leaves]

theorem Grammar.Steps.fold_leaves {layer : Folding} : (steps : Steps layer) → (left : Expr) →
    (steps.fold left).leaves = left.leaves ++ steps.tokens.filterMap Token.value?
  | .done, left => by simp [Steps.fold, Steps.tokens]
  | .next op _ operand more, left => by
      simp [Steps.fold, Steps.tokens, Tree.leaves, List.filterMap_cons, Token.value?, more.fold_leaves,
        operand.tree_leaves]

end

theorem Grammar.Derives.mem_leaves {goal : Nonterminal} {word : List Token} {tree : Expr}
    (derived : Derives goal word tree) (value : Double) :
    value ∈ tree.leaves ↔ .number value ∈ word := by
  obtain ⟨derivation, rfl, rfl⟩ := derived
  rw [derivation.tree_leaves, List.mem_filterMap]
  constructor
  · rintro ⟨token, member, shape⟩
    cases token <;> simp only [Token.value?, Option.some.injEq, reduceCtorEq] at shape
    rwa [← shape]
  · intro member
    exact ⟨_, member, rfl⟩

-- Numbers come from literals, which have no sign.
theorem parse_leaves {text : List Char} {tree : Expr} (parsed : parse text = .ok tree) :
    ∀ value ∈ tree.leaves, ∃ size, value = .finite false size := by
  intro value member
  obtain ⟨word, shown, derived⟩ := (parse_eq_ok text tree).mp parsed
  refine Feed.tokens?_value (Scanner.feed_wellFormed _) shown value ?_
  exact List.mem_append_left _ ((derived.mem_leaves value).mp member)

end Leaves

section Walks

theorem walk_append {state middle : State} {word : List Token}
    (walked : walk state word = some middle) (more : List Token) :
    walk state (word ++ more) = walk middle more := by
  induction word generalizing state with
  | nil => cases walked; rfl
  | cons token rest ih =>
      simp only [walk, List.cons_append] at walked ⊢
      split at walked
      · exact ih walked
      · cases walked

mutual

-- Every derivation takes the automaton from a due operand to a due operator.
theorem Grammar.Derivation.walks {goal : Nonterminal} (unclosed : Nat) :
    (derivation : Derivation goal) →
    walk ⟨.operand, unclosed⟩ derivation.tokens = some ⟨.operator, unclosed⟩
  | .folded first rest => by
      rw [Derivation.tokens, walk_append (first.walks unclosed)]
      exact rest.walks unclosed
  | .base operand => operand.walks unclosed
  | .raised base exponent => by
      rw [Derivation.tokens, walk_append (base.walks unclosed)]
      exact exponent.walks unclosed
  | .negated operand => operand.walks unclosed
  | .plain operand => operand.walks unclosed
  | .number value => rfl
  | .group inner => by
      have inside := walk_append (inner.walks (unclosed + 1)) [.rightParen]
      exact inside

theorem Grammar.Steps.walks {layer : Folding} (unclosed : Nat) : (steps : Steps layer) →
    walk ⟨.operator, unclosed⟩ steps.tokens = some ⟨.operator, unclosed⟩
  | .done => rfl
  | .next op _ operand more => by
      have first := walk_append (operand.walks unclosed) more.tokens
      rw [more.walks unclosed] at first
      exact first

end

end Walks

section Lenience

-- As long as the automaton walks through the lenient tokens, the strict reading either
-- agrees to the end or stops at the first number that is out of range.
theorem strict_or_outOfRange {feed : Feed} (wellFormed : feed.WellFormed) {word : List Token}
    (lexed : feed.lexemes? = some word) {state reached : State}
    (walked : walk state word = some reached) :
    feed.tokens? = some (word ++ [.finish]) ∨
      (.number (.infinity false) ∈ word ∧
        ∃ error, error.reason = .outOfRange ∧ run state feed = .rejected (unreadable error)) := by
  induction feed generalizing word state with
  | finished position => cases lexed; exact Or.inl rfl
  | blocked error => cases lexed
  | refused error position rest ih =>
      unfold Feed.lexemes? at lexed
      split at lexed
      · rename_i reason
        obtain ⟨tail, _, rfl⟩ := Option.map_eq_some_iff.mp lexed
        exact Or.inr ⟨List.mem_cons_self, error, reason, rfl⟩
      · cases lexed
  | token first position rest ih =>
      obtain ⟨tail, behind, rfl⟩ := Option.map_eq_some_iff.mp lexed
      simp only [walk] at walked
      split at walked
      · rename_i next moves
        rcases ih wellFormed.2.2 behind walked with shown | ⟨member, error, reason, rejected⟩
        · exact Or.inl (by simp [Feed.tokens?, wellFormed.1, shown])
        · refine Or.inr ⟨List.mem_cons_of_mem _ member, error, reason, ?_⟩
          simpa [run, moves] using rejected
      · cases walked

theorem unreadable_of_verdict {outcome : Except ParseError Expr} {error : LexError}
    (rejected : verdictOf outcome = .rejected (unreadable error)) :
    outcome = .error (.unreadable error) := by
  obtain ⟨found, rfl, _, _, lexical⟩ := (verdictOf_eq_rejected outcome _).mp rejected
  change found.lexError? = some error at lexical
  cases found with
  | unreadable inner => cases lexical; rfl
  | noOperand | expected | trailing | noOperator | tooDeep => cases lexical

theorem Grammar.parse?_eq_some (text : List Char) (tree : Expr) :
    Grammar.parse? text = some tree ↔
      ∃ word, (Feed.ofText text).lexemes? = some word ∧ Derives (.folding .bits) word tree := by
  have lexed : Grammar.lexemes? text = (Feed.ofText text).lexemes? :=
    lexemesWithin?_eq text.length text 0 (Nat.le_refl _)
  unfold Grammar.parse?
  change (Grammar.lexemes? text).bind parseTokens? = some tree ↔ _
  rw [lexed, Option.bind_eq_some_iff]
  exact exists_congr fun word => and_congr_right fun _ => parseTokens?_eq_some word tree

-- Whatever the layered reader accepts, the parser accepts too, or it stops at a number
-- that is infinite in the reader's tree.
theorem parse_or_outOfRange {text : List Char} {tree : Expr}
    (read : Grammar.parse? text = some tree) :
    parse text = .ok tree ∨
      (.infinity false ∈ tree.leaves ∧
        ∃ error, error.reason = .outOfRange ∧ parse text = .error (.unreadable error)) := by
  obtain ⟨word, lexed, derived⟩ := (Grammar.parse?_eq_some text tree).mp read
  have walked : walk start word = some ⟨.operator, 0⟩ := by
    obtain ⟨derivation, rfl, _⟩ := derived
    exact derivation.walks 0
  rcases strict_or_outOfRange (Scanner.feed_wellFormed _) lexed walked with
    shown | ⟨member, error, reason, rejected⟩
  · exact Or.inl ((parse_of_tokens shown tree).mpr derived)
  · refine Or.inr ⟨(derived.mem_leaves _).mpr member, error, reason, ?_⟩
    apply unreadable_of_verdict
    rw [verdictOf_parse]
    exact rejected

end Lenience

/-- The climbing parser and the layered reader agree. What the parser accepts the reader
accepts with the same tree; what the reader accepts the parser accepts with the same tree
if all its numbers are finite; and the only other numbers in the reader's trees are
literals beyond the largest double, taken for infinite, where the parser reports a number
out of range. -/
theorem parse_agrees_with_layers (text : List Char) (tree : Expr) :
    (parse text = .ok tree → Grammar.parse? text = some tree) ∧
    (Grammar.parse? text = some tree → (∀ value ∈ tree.leaves, value.isFinite = true) →
      parse text = .ok tree) ∧
    (Grammar.parse? text = some tree → (∃ value ∈ tree.leaves, value.isFinite = false) →
      (∀ value ∈ tree.leaves, value.isFinite = false → value = .infinity false) ∧
      ∃ error, error.reason = .outOfRange ∧ parse text = .error (.unreadable error)) := by
  refine ⟨?_, ?_, ?_⟩
  · intro parsed
    obtain ⟨word, shown, derived⟩ := (parse_eq_ok text tree).mp parsed
    obtain ⟨word', same, lexed⟩ := Feed.tokens?_lexemes shown
    rw [List.append_cancel_right same] at derived
    exact (Grammar.parse?_eq_some text tree).mpr ⟨word', lexed, derived⟩
  · intro read finite
    rcases parse_or_outOfRange read with parsed | ⟨member, _⟩
    · exact parsed
    · exact absurd (finite _ member) (by decide)
  · intro read infinite
    constructor
    · intro value member unbounded
      obtain ⟨word, lexed, derived⟩ := (Grammar.parse?_eq_some text tree).mp read
      rcases Feed.wellFormed_value (Scanner.feed_wellFormed _) lexed value
        ((derived.mem_leaves value).mp member) with ⟨size, rfl⟩ | same
      · cases unbounded
      · exact same
    · rcases parse_or_outOfRange read with parsed | ⟨_, reported⟩
      · obtain ⟨value, member, unbounded⟩ := infinite
        obtain ⟨size, rfl⟩ := parse_leaves parsed value member
        cases unbounded
      · exact reported

/-- Both read `-1^1` as a power of a negated number; four hundred nines are infinite to
the reader and out of range to the parser. -/
theorem parse_agrees_with_layers_on_extremes :
    parse ['-', '1', '^', '1'] = .ok (.binary .power (.negative (.leaf .one)) (.leaf .one)) ∧
    Grammar.parse? ['-', '1', '^', '1'] =
      some (.binary .power (.negative (.leaf .one)) (.leaf .one)) ∧
    ∃ error, error.reason = .outOfRange ∧
      parse (List.replicate 400 '9') = .error (.unreadable error) := by
  have small : Grammar.parse? ['-', '1', '^', '1'] =
      some (.binary .power (.negative (.leaf .one)) (.leaf .one)) := by decide +kernel
  have large : Grammar.parse? (List.replicate 400 '9') = some (.leaf (.infinity false)) := by
    decide +kernel
  obtain ⟨read, parses, _⟩ := parse_agrees_with_layers ['-', '1', '^', '1'] _
  obtain ⟨_, _, refused⟩ := parse_agrees_with_layers _ _
  have parsed := parses small (by decide)
  exact ⟨parsed, read parsed,
    (refused large ⟨.infinity false, List.mem_singleton.mpr rfl, rfl⟩).2⟩

end Reckon
