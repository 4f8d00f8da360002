import Mathlib.Data.List.Chain
import Mathlib.Logic.Relation
import Reckon.Proofs.Acceptance
import Reckon.Proofs.Limits
import Reckon.Proofs.PrefixContract
import Reckon.Proofs.ScannerCalls

/-!
How many calls for an expression are active at once. A call makes other calls while it
is itself active, so the calls that are active together form a chain, each made by the
one before it. A limit on nesting is met exactly when a chain longer than the limit
arises.

Along a chain every call starts further on in the text, so there is a longest one. Where
neither a power nor a negation is met, more can be said. Inside one pair of parentheses
each call admits only operators that bind more tightly than those of its caller, and there
are four levels of them. So the levels, counted on from one open parenthesis to the next,
rise along every chain, and the length of a text does not show.
-/

namespace Reckon

namespace Parser

structure Activation where
  least : Nat
  cursor : Cursor

/-- Where the loop of a call looks for an operator: behind the first operand, and behind
each right operand that it has taken. -/
inductive Looks (call : Activation) : Cursor → Prop where
  | first {left : Expr} {middle : Cursor}
      (read : primaryWith climb call.cursor = .ok left middle) : Looks call middle
  | again {middle next last : Cursor} {op : Operator} {right : Expr} (looks : Looks call middle)
      (shape : middle.current = .operator op) (tight : call.least ≤ op.precedence)
      (moved : advance middle = .ok () next)
      (read : climb (operandLeast (.operator op)) next = .ok right last) : Looks call last

def innerLeast? : Token → Option Nat
  | .operator .subtract => some (negationPrecedence + 1)
  | .leftParen => some 1
  | _ => none

inductive Calls (call : Activation) : Activation → Prop where
  | inner {least : Nat} {next : Cursor} (opens : innerLeast? call.cursor.current = some least)
      (moved : advance call.cursor = .ok () next) : Calls call ⟨least, next⟩
  | operand {middle next : Cursor} {op : Operator} (looks : Looks call middle)
      (shape : middle.current = .operator op) (tight : call.least ≤ op.precedence)
      (moved : advance middle = .ok () next) : Calls call ⟨operandLeast (.operator op), next⟩

theorem innerLeast?_eq_some {token : Token} {least : Nat} (opens : innerLeast? token = some least) :
    (token = .operator .subtract ∧ least = negationPrecedence + 1) ∨
      (token = .leftParen ∧ least = 1) := by
  unfold innerLeast? at opens
  split at opens
  · exact Or.inl ⟨rfl, (Option.some.inj opens).symm⟩
  · exact Or.inr ⟨rfl, (Option.some.inj opens).symm⟩
  · cases opens

theorem innerLeast?_open {token : Token} {least : Nat} (opens : innerLeast? token = some least) :
    token ≠ .finish ∧ 0 < least := by
  rcases innerLeast?_eq_some opens with ⟨rfl, rfl⟩ | ⟨rfl, rfl⟩
  · exact ⟨Token.noConfusion, Nat.succ_pos _⟩
  · exact ⟨Token.noConfusion, Nat.one_pos⟩

theorem Looks.remaining {call : Activation} {middle : Cursor} (looks : Looks call middle) :
    middle.remaining < call.cursor.remaining := by
  induction looks with
  | first read => exact primaryWith_consumes climb_consumes _ _ _ read
  | again looks shape tight moved read ih =>
      have first := advance_remaining (by simp [shape]) moved
      have second := climb_consumes _ (operandLeast_pos _) _ _ _ read
      omega

theorem Calls.remaining {call inner : Activation} (calls : Calls call inner) :
    inner.cursor.remaining < call.cursor.remaining := by
  cases calls with
  | inner opens moved => exact advance_remaining (innerLeast?_open opens).1 moved
  | operand looks shape tight moved =>
      exact Nat.lt_trans (advance_remaining (by simp [shape]) moved) looks.remaining

theorem Calls.positive {call inner : Activation} (calls : Calls call inner) : 0 < inner.least := by
  cases calls with
  | inner opens moved => exact (innerLeast?_open opens).2
  | operand looks shape tight moved => exact operandLeast_pos _

section GivingUp

variable {α β : Type}

def GaveUp (result : EStateM.Result ParseError Cursor α) : Prop :=
  ∃ after, result = .error .tooDeep after

def Unlimited (parser : Parser α) : Prop :=
  ∀ cursor, ¬ GaveUp (parser cursor)

theorem not_gaveUp_ok (value : α) (cursor : Cursor) :
    ¬ GaveUp (.ok value cursor : EStateM.Result ParseError Cursor α) := by
  rintro ⟨after, same⟩
  cases same

theorem gaveUp_bind {parser : Parser α} {next : α → Parser β} {cursor : Cursor} :
    GaveUp ((parser >>= next) cursor) ↔
      GaveUp (parser cursor) ∨
        ∃ value after, parser cursor = .ok value after ∧ GaveUp (next value after) := by
  unfold GaveUp
  cases first : parser cursor with
  | ok value after => simp [bind_ok first]
  | error error after => simp [bind_error first]

theorem unlimited_advance : Unlimited advance := by
  rintro cursor ⟨after, gaveUp⟩
  unfold advance at gaveUp
  split at gaveUp <;> cases gaveUp

theorem unlimited_pure (value : α) : Unlimited (pure value) :=
  not_gaveUp_ok value

theorem unlimited_expect (complaint : String) (wanted : TokenKind) :
    Unlimited (expect complaint wanted) := by
  rintro cursor ⟨after, gaveUp⟩
  unfold expect at gaveUp
  rw [bind_ok (current_eq cursor)] at gaveUp
  split at gaveUp
  · exact unlimited_advance cursor ⟨after, gaveUp⟩
  · cases gaveUp

theorem Unlimited.bind {parser : Parser α} {next : α → Parser β} (first : Unlimited parser)
    (second : ∀ value, Unlimited (next value)) : Unlimited (parser >>= next) := by
  intro cursor gaveUp
  rcases gaveUp_bind.mp gaveUp with gaveUp | ⟨value, after, read, gaveUp⟩
  · exact first cursor gaveUp
  · exact second value after gaveUp

/-- What has no limit may be left off at the end. -/
theorem gaveUp_bind_unlimited {parser : Parser α} {next : α → Parser β} {cursor : Cursor}
    (unlimited : ∀ value, Unlimited (next value)) :
    GaveUp ((parser >>= next) cursor) ↔ GaveUp (parser cursor) := by
  rw [gaveUp_bind]
  refine or_iff_left ?_
  rintro ⟨value, after, read, gaveUp⟩
  exact unlimited value after gaveUp

theorem gaveUp_advance_bind {next : Parser α} {cursor : Cursor} :
    GaveUp ((advance >>= fun _ => next) cursor) ↔
      ∃ after, advance cursor = .ok () after ∧ GaveUp (next after) := by
  rw [gaveUp_bind, or_iff_right (unlimited_advance cursor)]
  exact ⟨fun ⟨_, moved⟩ => moved, fun moved => ⟨(), moved⟩⟩

variable {expression : (least : Nat) → Parser Expr} {cursor : Cursor}

/-- A primary gives up only in the call that it makes. -/
theorem gaveUp_primaryWith :
    GaveUp (primaryWith expression cursor) ↔
      ∃ least next, innerLeast? cursor.current = some least ∧ advance cursor = .ok () next ∧
        GaveUp (expression least next) := by
  rw [primaryWith_eq]
  split
  · rename_i shape
    rw [gaveUp_advance_bind]
    simp only [gaveUp_bind_unlimited fun _ => unlimited_pure _]
    simp [shape, innerLeast?]
  · rename_i value shape
    rw [gaveUp_bind_unlimited fun _ => unlimited_pure _]
    simp [shape, innerLeast?, unlimited_advance cursor]
  · rename_i shape
    rw [gaveUp_advance_bind]
    simp only [gaveUp_bind_unlimited fun inner =>
      (unlimited_expect "unbalanced parenthesis" .rightParen).bind fun _ => unlimited_pure inner]
    simp [shape, innerLeast?]
  · rename_i notMinus notNumber notParen
    have none : innerLeast? cursor.current = none := by
      unfold innerLeast?
      split
      · contradiction
      · contradiction
      · rfl
    simp [none, GaveUp]

/-- Without a limit to meet, a limited parser does what the unlimited one does. -/
theorem expressionWithin_climbs (steps limit : Nat) {least : Nat} (positive : 0 < least)
    (enough : cursor.remaining ≤ steps) :
    GaveUp (expressionWithin steps limit least cursor) ∨
      expressionWithin steps limit least cursor = climb least cursor := by
  have lower : limit ≤ limit + cursor.remaining + 1 := by omega
  rcases expressionWithin_approximates steps lower least cursor with same | gaveUp
  · right
    rw [same]
    exact expressionWithin_eq_climb positive enough (by omega)
  · exact Or.inl gaveUp

theorem primaryWith_climbs (steps limit : Nat) (enough : cursor.remaining ≤ steps) :
    GaveUp (primaryWith (expressionWithin steps limit) cursor) ∨
      primaryWith (expressionWithin steps limit) cursor = primaryWith climb cursor := by
  have lower : limit ≤ limit + cursor.remaining + 1 := by omega
  rcases primaryWith_approximates (expressionWithin_approximates steps lower) cursor with
    same | gaveUp
  · right
    rw [same]
    refine primaryWith_congr fun least after positive shrunk => ?_
    exact expressionWithin_eq_climb positive (by omega) (by omega)
  · exact Or.inl gaveUp

/-- A loop gives up only in a call that it makes. -/
theorem calls_of_gaveUp_chain {call : Activation} (positive : 0 < call.least)
    {total limit steps : Nat} {left : Expr} (looks : Looks call cursor)
    (enough : call.cursor.remaining ≤ total)
    (gaveUp : GaveUp (chainWith (expressionWithin total limit) call.least steps left cursor)) :
    ∃ inner, Calls call inner ∧
      GaveUp (expressionWithin total limit inner.least inner.cursor) := by
  induction steps generalizing left cursor with
  | zero => exact absurd gaveUp (not_gaveUp_ok left cursor)
  | succ steps ih =>
      rcases rests_or_takes cursor call.least positive with stop | ⟨op, shape, tight⟩
      · rw [chainWith_stop _ _ _ _ _ stop] at gaveUp
        exact absurd gaveUp (not_gaveUp_ok left cursor)
      · rw [chainWith_step _ _ _ _ _ op shape tight, gaveUp_advance_bind] at gaveUp
        obtain ⟨next, moved, gaveUp⟩ := gaveUp
        have calls : Calls call ⟨_, next⟩ := .operand looks shape tight moved
        rcases gaveUp_bind.mp gaveUp with gaveUp | ⟨right, last, read, gaveUp⟩
        · exact ⟨_, calls, gaveUp⟩
        · have within : next.remaining < call.cursor.remaining := calls.remaining
          rcases expressionWithin_climbs total limit calls.positive
            (show next.remaining ≤ total by omega) with gaveUp' | same
          · exact ⟨_, calls, gaveUp'⟩
          -- What was read within the limit is what the unlimited loop read there.
          · exact ih (looks.again shape tight moved (same.symm.trans read)) gaveUp

/-- Where its loop looks, the limited call has come too, unless it gave up before. -/
theorem Looks.gaveUp_or_reached {call : Activation} (looks : Looks call cursor)
    {total limit : Nat} (enough : call.cursor.remaining ≤ total) :
    GaveUp (expressionWithin total (limit + 1) call.least call.cursor) ∨
      ∃ steps left, cursor.remaining ≤ steps ∧
        expressionWithin total (limit + 1) call.least call.cursor =
          chainWith (expressionWithin total limit) call.least steps left cursor := by
  induction looks with
  | @first left middle read =>
      have within := (Looks.first read).remaining
      rcases primaryWith_climbs total limit enough with gaveUp | same
      · exact Or.inl (gaveUp_bind.mpr (Or.inl gaveUp))
      · exact Or.inr ⟨total, left, by omega, bind_ok (same.trans read)⟩
  | @again middle next last op right looks shape tight moved read ih =>
      rcases ih with gaveUp | ⟨steps, left, covers, reached⟩
      · exact Or.inl gaveUp
      · have first := advance_remaining (by simp [shape]) moved
        have second := climb_consumes _ (operandLeast_pos _) _ _ _ read
        have third := looks.remaining
        -- An operator stands in front, so a step is left to take it.
        obtain ⟨steps, rfl⟩ : ∃ n, steps = n + 1 := Nat.exists_eq_succ_of_ne_zero (by omega)
        rw [reached, chainWith_step _ _ _ _ _ op shape tight, bind_ok moved]
        rcases expressionWithin_climbs total limit (operandLeast_pos _)
          (show next.remaining ≤ total by omega) with gaveUp | same
        · exact Or.inl (gaveUp_bind.mpr (Or.inl gaveUp))
        · exact Or.inr ⟨steps, _, by omega, bind_ok (same.trans read)⟩

/-- One call more: a call gives up exactly when one that it makes does, with one level less. -/
theorem gaveUp_succ {call : Activation} (positive : 0 < call.least) {total limit : Nat}
    (enough : call.cursor.remaining ≤ total) :
    GaveUp (expressionWithin total (limit + 1) call.least call.cursor) ↔
      ∃ inner, Calls call inner ∧
        GaveUp (expressionWithin total limit inner.least inner.cursor) := by
  constructor
  · intro gaveUp
    rcases gaveUp_bind.mp gaveUp with gaveUp | ⟨left, middle, read, gaveUp⟩
    · obtain ⟨least, next, opens, moved, gaveUp⟩ := gaveUp_primaryWith.mp gaveUp
      exact ⟨_, .inner opens moved, gaveUp⟩
    · rcases primaryWith_climbs total limit enough with gaveUp' | same
      · rw [read] at gaveUp'
        exact absurd gaveUp' (not_gaveUp_ok left middle)
      · exact calls_of_gaveUp_chain positive (.first (same.symm.trans read)) enough gaveUp
  · rintro ⟨inner, calls, gaveUp⟩
    cases calls with
    | inner opens moved =>
        exact gaveUp_bind.mpr (Or.inl (gaveUp_primaryWith.mpr ⟨_, _, opens, moved, gaveUp⟩))
    | @operand middle next op looks shape tight moved =>
        rcases looks.gaveUp_or_reached enough with gaveUp' | ⟨steps, left, covers, reached⟩
        · exact gaveUp'
        · have first := advance_remaining (by simp [shape]) moved
          obtain ⟨steps, rfl⟩ : ∃ n, steps = n + 1 := Nat.exists_eq_succ_of_ne_zero (by omega)
          rw [reached, chainWith_step _ _ _ _ _ op shape tight, gaveUp_advance_bind]
          exact ⟨next, moved, gaveUp_bind.mpr (Or.inl gaveUp)⟩

/-- A limit is met exactly when one call more than it admits would be active. -/
theorem gaveUp_iff_chain (call : Activation) (positive : 0 < call.least) {total : Nat}
    (enough : call.cursor.remaining ≤ total) (limit : Nat) :
    GaveUp (expressionWithin total limit call.least call.cursor) ↔
      ∃ calls, (call :: calls).IsChain Calls ∧ calls.length = limit := by
  induction limit generalizing call with
  | zero =>
      exact iff_of_true ⟨call.cursor, rfl⟩ ⟨[], .singleton call, rfl⟩
  | succ limit ih =>
      rw [gaveUp_succ positive enough]
      constructor
      · rintro ⟨inner, made, gaveUp⟩
        have within := made.remaining
        obtain ⟨calls, chain, length⟩ := (ih inner made.positive (by omega)).mp gaveUp
        exact ⟨inner :: calls, .cons_cons made chain, by simp [length]⟩
      · rintro ⟨calls, chain, length⟩
        obtain ⟨inner, calls, rfl⟩ := List.exists_cons_of_length_eq_add_one length
        obtain ⟨made, chain⟩ := List.isChain_cons_cons.mp chain
        have within := made.remaining
        have gaveUp := (ih inner made.positive (by omega)).mpr ⟨calls, chain, by simpa using length⟩
        exact ⟨inner, made, gaveUp⟩

end GivingUp

/-- Calls that are active at once while a text is parsed, the outermost first. -/
def Active (text : List Char) (calls : List Activation) : Prop :=
  ∃ cursor inner, Cursor.ofText text = .ok cursor ∧ calls = ⟨1, cursor⟩ :: inner ∧
    calls.IsChain Calls

theorem gaveUp_whole (limit : Nat) (cursor : Cursor) :
    GaveUp (whole limit cursor) ↔
      ∃ calls, (⟨1, cursor⟩ :: calls).IsChain Calls ∧ calls.length = limit := by
  have ending : ∀ tree : Expr, Unlimited (do
      let found ← current
      if found = .finish then return tree else throw (.trailing found) : Parser Expr) := by
    rintro tree cursor ⟨after, gaveUp⟩
    rw [bind_ok (current_eq cursor)] at gaveUp
    split at gaveUp <;> cases gaveUp
  unfold whole
  rw [gaveUp_bind_unlimited ending]
  exact gaveUp_iff_chain ⟨1, cursor⟩ Nat.one_pos (remaining_le_length cursor) limit

/-- Every call starts further on than its caller. -/
theorem length_le_remaining {call : Activation} {calls : List Activation}
    (chain : (call :: calls).IsChain Calls) : calls.length ≤ call.cursor.remaining := by
  induction calls generalizing call with
  | nil => exact Nat.zero_le _
  | cons inner calls ih =>
      obtain ⟨made, chain⟩ := List.isChain_cons_cons.mp chain
      have below := ih chain
      have within := made.remaining
      simp only [List.length_cons]
      omega

end Parser

open Reckon.Parser

/-- The first token is read by advancing. -/
theorem ofText_eq_ok_iff {text : List Char} {cursor : Cursor} :
    Cursor.ofText text = .ok cursor ↔ advance ⟨.finish, 0, .ofText text⟩ = .ok () cursor := by
  unfold Cursor.ofText Cursor.ofFeed
  cases advance ⟨.finish, 0, .ofText text⟩ <;> simp

theorem ofText_ne_tooDeep (text : List Char) : Cursor.ofText text ≠ .error .tooDeep := by
  intro failed
  unfold Cursor.ofText Cursor.ofFeed at failed
  split at failed
  · cases failed
  · rename_i error after stopped
    cases failed
    exact unlimited_advance _ ⟨after, stopped⟩

theorem outcome_eq_tooDeep {α : Type} {parser : Parser α} {cursor : Cursor} :
    parser.outcome cursor = .error .tooDeep ↔ GaveUp (parser cursor) := by
  unfold outcome GaveUp
  cases parser cursor <;> simp

/-- A limit on nesting is met exactly when more calls than that come to be active at once. -/
theorem parseWithin_eq_tooDeep (limit : Nat) (text : List Char) :
    parseWithin limit text = .error .tooDeep ↔
      ∃ calls, Active text calls ∧ limit < calls.length := by
  have opened : parseWithin limit text = (Cursor.ofText text >>= (whole limit).outcome) := rfl
  rw [opened]
  cases started : Cursor.ofText text with
  | error error =>
      refine iff_of_false ?_ ?_
      · rintro ⟨⟩
        exact ofText_ne_tooDeep text started
      · rintro ⟨calls, ⟨cursor, inner, started', _⟩, _⟩
        cases started.symm.trans started'
  | ok cursor =>
      change (whole limit).outcome cursor = _ ↔ _
      rw [outcome_eq_tooDeep, gaveUp_whole]
      constructor
      · rintro ⟨inner, chain, rfl⟩
        exact ⟨_, ⟨cursor, inner, started, rfl, chain⟩, Nat.lt_succ_self _⟩
      · rintro ⟨calls, ⟨cursor', inner, started', rfl, chain⟩, longer⟩
        cases started.symm.trans started'
        -- The outermost calls of a longer chain are a chain of the length that is asked for.
        refine ⟨inner.take limit, chain.take (limit + 1), ?_⟩
        rw [List.length_take, Nat.min_eq_left (Nat.le_of_lt_succ longer)]

/-- Without a limit the parser never gives up. -/
theorem parse_ne_tooDeep (text : List Char) : parse text ≠ .error .tooDeep := by
  intro gaveUp
  obtain ⟨calls, ⟨cursor, inner, started, rfl, chain⟩, longer⟩ :=
    (parseWithin_eq_tooDeep _ text).mp gaveUp
  have steps : inner.length ≤ cursor.remaining := length_le_remaining chain
  have tokens : cursor.remaining ≤ (Feed.ofText text).length :=
    advance_remaining_le (ofText_eq_ok_iff.mp started)
  simp only [List.length_cons] at longer
  omega

section Symbols

def Feed.Shows (wanted : Token) : Feed → Prop
  | .finished _ | .blocked _ => False
  | .token first _ rest => first = wanted ∨ rest.Shows wanted
  | .refused _ _ rest => rest.Shows wanted

variable {scanner after : Scanner} {op : Operator}

theorem Scanner.next_suffix (scanner : Scanner) : scanner.next.2.rest <:+ scanner.rest := by
  have blanks : scanner.skipBlanks.rest <:+ scanner.rest := List.dropWhile_suffix isBlank
  have step := reads_next scanner
  generalize scanner.next = result at step
  cases step with
  | finish ended => exact blanks
  | number shape digit => exact (List.dropWhile_suffix isNumeral).trans blanks
  | symbol shape reads => exact (shape ▸ List.suffix_cons _ _).trans blanks
  | invalid shape other strange => exact blanks

theorem Scanner.next_operator (read : scanner.next = (.ok (.operator op), after)) :
    op.symbol ∈ scanner.rest := by
  have blanks : scanner.skipBlanks.rest <:+ scanner.rest := List.dropWhile_suffix isBlank
  have step := reads_next scanner
  generalize result : scanner.next = found at step
  cases step with
  | finish ended => cases result.symm.trans read
  | number shape digit =>
      obtain ⟨size, same⟩ := readNumber_eq_ok (congrArg Prod.fst (result.symm.trans read))
      cases same
  | @symbol c left token shape reads =>
      cases result.symm.trans read
      rcases ofSymbol?_eq_some reads with ⟨_, same⟩ | ⟨_, same⟩ | ⟨op', rfl, same⟩ <;> cases same
      exact blanks.subset (shape ▸ List.mem_cons_self)
  | invalid shape other strange => cases result.symm.trans read

/-- Only what is written is read. -/
theorem Scanner.symbol_of_shows (shown : scanner.feed.Shows (.operator op)) :
    op.symbol ∈ scanner.rest := by
  fun_induction feed scanner with
  | case1 scanner after step => cases shown
  | case2 scanner token after step open_ ih =>
      rcases shown with rfl | later
      · exact next_operator step
      · have suffix := scanner.next_suffix
        rw [step] at suffix
        exact suffix.subset (ih later)
  | case3 scanner error after step invalid => cases shown
  | case4 scanner error after step other ih =>
      have suffix := scanner.next_suffix
      rw [step] at suffix
      exact suffix.subset (ih shown)

end Symbols

namespace Acceptance

section Walking

def Leads (place after : State × Cursor) : Prop :=
  step place.1 place.2.current = .go after.1 ∧ advance place.2 = .ok () after.2

theorem leads_past {state next : State} {cursor after : Cursor} {token : Token}
    (shape : cursor.current = token) (goes : step state token = .go next)
    (moved : advance cursor = .ok () after) : Leads (state, cursor) (next, after) :=
  ⟨shape ▸ goes, moved⟩

def Walks (cursor after : Cursor) : Prop :=
  ∀ unclosed, Relation.ReflTransGen Leads (⟨.operand, unclosed⟩, cursor)
    (⟨.operator, unclosed⟩, after)

def WalksBehind (cursor : Cursor) : Prop :=
  ∀ least next tree last, 0 < least → next.remaining < cursor.remaining →
    climb least next = .ok tree last → Walks next last

variable {call : Activation} {cursor middle after : Cursor}

/-- A call ends where its loop looks last. -/
theorem looks_of_chain (positive : 0 < call.least) {left tree : Expr} (looks : Looks call middle)
    (read : chain call.least left middle = .ok tree after) : Looks call after := by
  induction size : middle.remaining using Nat.strongRecOn generalizing middle left with
  | ind size ih =>
      rcases rests_or_takes middle call.least positive with stop | ⟨op, shape, tight⟩
      · rw [chain_stop stop] at read
        cases read
        exact looks
      · rw [chain_step positive shape tight] at read
        obtain ⟨_, next, moved, read⟩ := bind_eq_ok read
        obtain ⟨right, last, inner, read⟩ := bind_eq_ok read
        have first := advance_remaining (by simp [shape]) moved
        have second := climb_consumes _ (operandLeast_pos _) _ _ _ inner
        exact ih last.remaining (by omega) (looks.again shape tight moved inner) read rfl

theorem looks_of_climb {least : Nat} (positive : 0 < least) {tree : Expr}
    (read : climb least cursor = .ok tree after) : Looks ⟨least, cursor⟩ after := by
  rw [climb_eq least positive] at read
  obtain ⟨left, middle, first, read⟩ := bind_eq_ok read
  exact looks_of_chain positive (.first first) read

theorem walks_primary {left : Expr} (behind : WalksBehind cursor)
    (read : primaryWith climb cursor = .ok left after) : Walks cursor after := by
  intro unclosed
  rw [primaryWith_eq] at read
  split at read
  · rename_i shape
    obtain ⟨_, next, moved, read⟩ := bind_eq_ok read
    obtain ⟨operand, last, climbed, read⟩ := bind_eq_ok read
    cases read
    have shrunk := advance_remaining (by simp [shape]) moved
    have within := behind _ _ _ _ (Nat.succ_pos _) shrunk climbed unclosed
    exact .head (leads_past shape rfl moved) within
  · rename_i value shape
    obtain ⟨_, next, moved, read⟩ := bind_eq_ok read
    cases read
    exact .single (leads_past shape rfl moved)
  · rename_i shape
    obtain ⟨_, next, moved, read⟩ := bind_eq_ok read
    obtain ⟨operand, last, climbed, read⟩ := bind_eq_ok read
    obtain ⟨_, closed, met, read⟩ := bind_eq_ok read
    cases read
    have shrunk := advance_remaining (by simp [shape]) moved
    obtain ⟨kind, passed⟩ := expect_eq_ok met
    have within := behind _ _ _ _ Nat.one_pos shrunk climbed (unclosed + 1)
    exact .head (leads_past shape rfl moved)
      (within.tail (leads_past (kind_rightParen kind) rfl passed))
  · cases read

theorem walks_looks (behind : WalksBehind call.cursor) (looks : Looks call middle) :
    Walks call.cursor middle := by
  induction looks with
  | first read => exact walks_primary behind read
  | @again middle next last op right looks shape tight moved read ih =>
      intro unclosed
      have first := advance_remaining (by simp [shape]) moved
      have second := looks.remaining
      have operand := behind _ _ _ _ (operandLeast_pos _) (by omega) read unclosed
      exact ((ih unclosed).tail (leads_past shape rfl moved)).trans operand

theorem walks_climb {least : Nat} (positive : 0 < least) {tree : Expr}
    (read : climb least cursor = .ok tree after) : Walks cursor after := by
  induction size : cursor.remaining using Nat.strongRecOn generalizing cursor after least tree with
  | ind size ih =>
      subst size
      refine walks_looks ?_ (looks_of_climb positive read)
      intro least next tree last positive shrunk read
      exact ih next.remaining shrunk positive read rfl

theorem walks_behind (cursor : Cursor) : WalksBehind cursor :=
  fun _ _ _ _ positive _ read => walks_climb positive read

end Walking

section Levels

def deepest (state : State) : Feed → Nat
  | .token token _ rest =>
      match step state token with
      | .go next => max state.unclosed (deepest next rest)
      | _ => state.unclosed
  | _ => state.unclosed

def negates (state : State) : Feed → Bool
  | .token token _ rest =>
      decide (state.phase = .operand ∧ token = .operator .subtract) ||
        match step state token with
        | .go next => negates next rest
        | _ => false
  | _ => false

/-- The way on has no power, no negation, and at most so many open parentheses. -/
structure Plain (depth : Nat) (state : State) (feed : Feed) : Prop where
  within : deepest state feed ≤ depth
  unsigned : negates state feed = false
  powerless : ¬ feed.Shows (.operator .power)

theorem unclosed_le_deepest (state : State) (feed : Feed) :
    state.unclosed ≤ deepest state feed := by
  unfold deepest
  split
  · split
    · exact Nat.le_max_left _ _
    · exact Nat.le_refl _
  · exact Nat.le_refl _

section Steps

variable {depth : Nat} {state next : State} {cursor after : Cursor}

/-- Behind a token that the automaton goes past, the way is plain as before. -/
theorem Plain.step (plain : Plain depth state (ahead cursor))
    (goes : step state cursor.current = .go next) : Plain depth next cursor.feed := by
  obtain ⟨within, unsigned, powerless⟩ := plain
  simp only [deepest, ahead, goes] at within
  simp only [negates, ahead, goes, Bool.or_eq_false_iff] at unsigned
  rw [ahead, Feed.Shows, not_or] at powerless
  exact ⟨Nat.le_trans (Nat.le_max_right _ _) within, unsigned.2, powerless.2⟩

theorem deepest_finish (state : State) (position : Nat) (rest : Feed) :
    deepest state (.token .finish position rest) = state.unclosed := by
  obtain ⟨phase, unclosed⟩ := state
  cases phase with
  | operand => rfl
  | operator => cases unclosed <;> rfl

theorem negates_finish (state : State) (position : Nat) (rest : Feed) :
    negates state (.token .finish position rest) = false := by
  obtain ⟨phase, unclosed⟩ := state
  cases phase with
  | operand => rfl
  | operator => cases unclosed <;> rfl

/-- Reading on changes nothing in what lies ahead. -/
theorem Plain.advance (plain : Plain depth state cursor.feed)
    (moved : advance cursor = .ok () after) : Plain depth state (ahead after) := by
  cases feed : cursor.feed with
  | finished position =>
      simp only [Parser.advance, feed] at moved
      cases moved
      refine ⟨?_, negates_finish state position _, ?_⟩
      · rw [ahead, deepest_finish]
        exact Nat.le_trans (unclosed_le_deepest state _) plain.within
      · simp [ahead, Feed.Shows]
  | blocked error => simp [Parser.advance, feed] at moved
  | token token position rest =>
      simp only [Parser.advance, feed] at moved
      cases moved
      rw [feed] at plain
      exact plain
  | refused error position rest => simp [Parser.advance, feed] at moved

theorem Plain.leads {place place' : State × Cursor} (plain : Plain depth place.1 (ahead place.2))
    (led : Leads place place') : Plain depth place'.1 (ahead place'.2) :=
  (plain.step led.1).advance led.2

theorem Plain.walked {place place' : State × Cursor} (plain : Plain depth place.1 (ahead place.2))
    (walked : Relation.ReflTransGen Leads place place') :
    Plain depth place'.1 (ahead place'.2) := by
  induction walked with
  | refl => exact plain
  | tail walked led ih => exact ih.leads led

end Steps

/-- Where no power is, the operand of an operator binds one level more tightly. -/
theorem operandLeast_of_ne_power {op : Operator} (other : op ≠ .power) :
    operandLeast (.operator op) = op.precedence + 1 ∧ op.precedence ≤ 3 := by
  cases op with
  | power => exact absurd rfl other
  | and | or | add | subtract | multiply | divide => decide

/-- On a plain way each call stands higher than its caller, where a level counts less than
a parenthesis. -/
theorem Plain.rises {depth unclosed : Nat} {call inner : Activation}
    (plain : Plain depth ⟨.operand, unclosed⟩ (ahead call.cursor)) (low : call.least ≤ 4)
    (calls : Calls call inner) :
    ∃ unclosed', Plain depth ⟨.operand, unclosed'⟩ (ahead inner.cursor) ∧ inner.least ≤ 4 ∧
      4 * unclosed + call.least < 4 * unclosed' + inner.least := by
  cases calls with
  | @inner least next opens moved =>
      rcases innerLeast?_eq_some opens with ⟨shape, rfl⟩ | ⟨shape, rfl⟩
      · have unsigned := plain.unsigned
        simp [negates, ahead, shape] at unsigned
      -- The levels start over inside, four below those of the next parenthesis.
      · have opened := plain.leads (leads_past shape rfl moved)
        exact ⟨unclosed + 1, opened, show 1 ≤ 4 by decide, by simp only; omega⟩
  | @operand middle next op looks shape tight moved =>
      have reached : Plain depth ⟨.operator, unclosed⟩ (ahead middle) :=
        plain.walked (walks_looks (walks_behind _) looks unclosed)
      have other : op ≠ .power := by
        rintro rfl
        exact reached.powerless (Or.inl shape)
      obtain ⟨above, low⟩ := operandLeast_of_ne_power other
      refine ⟨unclosed, reached.leads (leads_past shape rfl moved), ?_, ?_⟩
      · simp only [above]
        omega
      · simp only [above]
        omega

theorem Plain.length_le {depth unclosed : Nat} (call : Activation) {calls : List Activation}
    (plain : Plain depth ⟨.operand, unclosed⟩ (ahead call.cursor)) (low : call.least ≤ 4)
    (chain : (call :: calls).IsChain Calls) :
    4 * unclosed + call.least + calls.length ≤ 4 * (1 + depth) := by
  induction calls generalizing call unclosed with
  | nil =>
      have opened := Nat.le_trans (unclosed_le_deepest _ _) plain.within
      simp only [List.length_nil] at opened ⊢
      omega
  | cons inner calls ih =>
      obtain ⟨made, chain⟩ := List.isChain_cons_cons.mp chain
      obtain ⟨unclosed', plain', low', rises⟩ := plain.rises low made
      have bound := ih inner plain' low' chain
      simp only [List.length_cons]
      omega

theorem active_length_le {text : List Char} (powerless : '^' ∉ text)
    (unsigned : negates start (.ofText text) = false) {calls : List Activation}
    (active : Active text calls) : calls.length ≤ 4 * (1 + deepest start (.ofText text)) := by
  obtain ⟨cursor, inner, started, rfl, chain⟩ := active
  have plain : Plain (deepest start (.ofText text)) start (.ofText text) :=
    ⟨Nat.le_refl _, unsigned, fun shown => powerless (Scanner.symbol_of_shows shown)⟩
  have first : Plain (deepest start (.ofText text)) start (ahead cursor) :=
    (show Plain _ _ (Cursor.mk .finish 0 (.ofText text)).feed from plain).advance
      (ofText_eq_ok_iff.mp started)
  have bound := first.length_le ⟨1, cursor⟩ (show 1 ≤ 4 by decide) chain
  simp only [List.length_cons] at bound ⊢
  omega

end Levels

/-- A limit on the calls that are active at once shows only where more of them would be. Else
the answer, a tree or a failure, is that of the parser without a limit, which never gives up,
and it stays under every higher limit. In a text without `^` where no operand starts with `-`,
at most four calls are active for each level of parentheses, the outermost one included,
however long the text is. -/
theorem limit_counts_active_calls (text : List Char) :
    parse text ≠ .error .tooDeep ∧
    (∀ limit, parseWithin limit text = .error .tooDeep ∨ parseWithin limit text = parse text) ∧
    (∀ limit limit', limit ≤ limit' → parseWithin limit text ≠ .error .tooDeep →
      parseWithin limit' text = parseWithin limit text) ∧
    (∀ limit, parseWithin limit text = .error .tooDeep ↔
      ∃ calls, Active text calls ∧ limit < calls.length) ∧
    ('^' ∉ text → negates start (.ofText text) = false →
      (∀ calls, Active text calls → calls.length ≤ 4 * (1 + deepest start (.ofText text))) ∧
      ∀ limit, 4 * (1 + deepest start (.ofText text)) ≤ limit →
        parseWithin limit text ≠ .error .tooDeep) := by
  refine ⟨parse_ne_tooDeep text, ?_, ?_, ?_, ?_⟩
  · intro limit
    exact (parseWithin_or_tooDeep limit text).symm
  · intro limit limit' lower answered
    rcases parseFeed_mono lower (.ofText text) with same | gaveUp
    · exact same.symm
    · exact absurd gaveUp answered
  · intro limit
    exact parseWithin_eq_tooDeep limit text
  · intro powerless unsigned
    have bound : ∀ calls, Active text calls → calls.length ≤ _ :=
      fun calls active => active_length_le powerless unsigned active
    refine ⟨bound, ?_⟩
    intro limit enough gaveUp
    obtain ⟨calls, active, longer⟩ := (parseWithin_eq_tooDeep limit text).mp gaveUp
    have most := bound calls active
    omega

/-- In `1|2+3*(4|5+6*7)` the bound is reached: eight calls are active at the last number. -/
theorem limit_counts_active_calls_reached :
    let text : List Char :=
      ['1', '|', '2', '+', '3', '*', '(', '4', '|', '5', '+', '6', '*', '7', ')']
    '^' ∉ text ∧ negates start (.ofText text) = false ∧ deepest start (.ofText text) = 1 ∧
    parseWithin 7 text = .error .tooDeep ∧
    (∃ calls, Active text calls ∧ 7 < calls.length) ∧
    parseWithin 8 text ≠ .error .tooDeep ∧ parseWithin 8 text = parse text := by
  intro text
  have powerless : '^' ∉ text := by decide
  have unsigned : negates start (.ofText text) = false := by decide +kernel
  have depth : deepest start (.ofText text) = 1 := by decide +kernel
  have gaveUp : parseWithin 7 text = .error .tooDeep := by decide +kernel
  obtain ⟨_, agrees, _, counts, levels⟩ := limit_counts_active_calls text
  have answered := (levels powerless unsigned).2 8 (by rw [depth])
  exact ⟨powerless, unsigned, depth, gaveUp, (counts 7).mp gaveUp, answered,
    (agrees 8).resolve_left answered⟩

end Acceptance

end Reckon
