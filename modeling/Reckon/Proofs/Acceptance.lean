import Reckon.Proofs.Climbing
import Reckon.Proofs.Readings

/-!
Which texts parse, and what the others are told, without any precedence. An
automaton with one counter reads the same readings as the parser: it knows whether
an operand or an operator is due and how many parentheses are open. The parser
accepts exactly when the automaton does, and reports exactly the failure that the
automaton meets first.

The parser follows the automaton in continuation: whatever part of the parser runs,
the automaton's verdict from where that part began is its verdict from where the
part ended, or the part's own failure.
-/

namespace Reckon.Acceptance

inductive Phase where
  | operand | operator
  deriving DecidableEq

structure State where
  phase : Phase
  unclosed : Nat
  deriving DecidableEq

structure Complaint where
  message : String
  token? : Option Token
  lexError? : Option LexError
  deriving DecidableEq

inductive Move where
  | go (state : State)
  | accept
  | fail (complaint : Complaint)
  deriving DecidableEq

inductive Verdict where
  | accepted
  | rejected (complaint : Complaint)
  deriving DecidableEq

def refuse (reason : String) (found : Token) : Move :=
  .fail ⟨reason ++ found.describe, some found, none⟩

def unreadable (error : LexError) : Complaint :=
  ⟨"invalid input: " ++ error.message, none, some error⟩

def step : State → Token → Move
  | ⟨.operand, unclosed⟩, .number _ => .go ⟨.operator, unclosed⟩
  | ⟨.operand, unclosed⟩, .operator .subtract => .go ⟨.operand, unclosed⟩
  | ⟨.operand, unclosed⟩, .leftParen => .go ⟨.operand, unclosed + 1⟩
  | ⟨.operand, _⟩, found => refuse "unable to parse " found
  | ⟨.operator, unclosed⟩, .operator _ => .go ⟨.operand, unclosed⟩
  | ⟨.operator, unclosed + 1⟩, .rightParen => .go ⟨.operator, unclosed⟩
  | ⟨.operator, _ + 1⟩, found => refuse "unbalanced parenthesis: expected ')', got " found
  | ⟨.operator, 0⟩, .finish => .accept
  | ⟨.operator, 0⟩, found => refuse "unexpected trailing input " found

def run (state : State) : Feed → Verdict
  | .finished _ =>
      match step state .finish with
      | .fail complaint => .rejected complaint
      | _ => .accepted
  | .token token _ rest =>
      match step state token with
      | .go next => run next rest
      | .accept => .accepted
      | .fail complaint => .rejected complaint
  | .blocked error | .refused error _ _ => .rejected (unreadable error)

def start : State := ⟨.operand, 0⟩

def complaintOf (error : ParseError) : Complaint :=
  ⟨error.message, error.token?, error.lexError?⟩

def verdictOf : Except ParseError Expr → Verdict
  | .ok _ => .accepted
  | .error error => .rejected (complaintOf error)

def ahead (cursor : Cursor) : Feed :=
  .token cursor.current cursor.position cursor.feed

def verdictAfter {α : Type} (state : State) : EStateM.Result ParseError Cursor α → Verdict
  | .ok _ after => run state (ahead after)
  | .error error _ => .rejected (complaintOf error)

theorem run_go {state next : State} {cursor : Cursor}
    (moves : step state cursor.current = .go next) :
    run state (ahead cursor) = run next cursor.feed := by
  simp [run, ahead, moves]

theorem run_fail {state : State} {cursor : Cursor} {complaint : Complaint}
    (stops : step state cursor.current = .fail complaint) :
    run state (ahead cursor) = .rejected complaint := by
  simp [run, ahead, stops]

/-- The end of the text ends every run, as a token or as the feed's own end. -/
theorem run_finish (state : State) (position position' : Nat) (rest : Feed) :
    run state (.token .finish position rest) = run state (.finished position') := by
  obtain ⟨phase, unclosed⟩ := state
  cases phase with
  | operand => rfl
  | operator => cases unclosed <;> rfl

theorem step_accept {state : State} {token : Token} (accepts : step state token = .accept) :
    token = .finish := by
  obtain ⟨phase, unclosed⟩ := state
  cases phase with
  | operand =>
      rcases token with op | _ | _ | value | _
      · cases op <;> cases accepts
      all_goals cases accepts
  | operator =>
      cases unclosed <;> rcases token with op | _ | _ | value | _ <;>
        first | rfl | cases accepts

section Simulation

open Reckon.Parser

variable {α β : Type}

theorem verdictAfter_advance (state : State) (cursor : Cursor) :
    verdictAfter state (advance cursor) = run state cursor.feed := by
  cases feed : cursor.feed with
  | finished position =>
      simp only [advance, feed, verdictAfter, ahead]
      exact run_finish state position position _
  | blocked error => simp only [advance, feed]; rfl
  | token token position rest => simp only [advance, feed]; rfl
  | refused error position rest => simp only [advance, feed]; rfl

/-- A sequence of two parts is followed by following the second from each place where
the first may leave it. -/
theorem verdictAfter_bind {parser : Parser α} {next : α → Parser β} {cursor : Cursor}
    {middle final : State}
    (follows : ∀ value after, parser cursor = .ok value after →
      verdictAfter final (next value after) = run middle (ahead after)) :
    verdictAfter final ((parser >>= next) cursor) = verdictAfter middle (parser cursor) := by
  cases first : parser cursor with
  | ok value after => rw [bind_ok first, follows value after first]; rfl
  | error error after => rw [bind_error first]; rfl

theorem verdictAfter_expect (unclosed : Nat) (cursor : Cursor)
    (rests : cursor.current = .finish ∨ cursor.current.precedence < 1) :
    verdictAfter ⟨.operator, unclosed⟩ (expect "unbalanced parenthesis" .rightParen cursor) =
      run ⟨.operator, unclosed + 1⟩ (ahead cursor) := by
  have looked : current cursor = .ok cursor.current cursor := rfl
  unfold expect
  rw [bind_ok looked]
  cases shape : cursor.current with
  | rightParen =>
      have moves : step ⟨.operator, unclosed + 1⟩ cursor.current = .go ⟨.operator, unclosed⟩ := by
        rw [shape]; rfl
      rw [run_go moves]
      exact verdictAfter_advance _ cursor
  | operator op =>
      rw [shape] at rests
      rcases rests with finish | loose
      · cases finish
      · cases op <;> exact absurd loose (by decide)
  | leftParen | number value | finish =>
      refine (run_fail ?_).symm
      rw [shape]
      rfl

def Follows (cursor : Cursor) : Prop :=
  ∀ least unclosed, 0 < least →
    verdictAfter ⟨.operator, unclosed⟩ (climb least cursor) =
      run ⟨.operand, unclosed⟩ (ahead cursor)

theorem verdictAfter_primary (unclosed : Nat) (cursor : Cursor)
    (inner : ∀ after : Cursor, after.remaining < cursor.remaining → Follows after) :
    verdictAfter ⟨.operator, unclosed⟩ (primaryWith climb cursor) =
      run ⟨.operand, unclosed⟩ (ahead cursor) := by
  rw [primaryWith_eq]
  split
  · rename_i shape
    have moves : step ⟨.operand, unclosed⟩ cursor.current = .go ⟨.operand, unclosed⟩ := by
      rw [shape]; rfl
    rw [run_go moves, ← verdictAfter_advance]
    refine verdictAfter_bind fun _ middle moved => ?_
    have shrunk := advance_remaining (by simp [shape]) moved
    rw [← inner middle shrunk _ unclosed (Nat.succ_pos negationPrecedence)]
    exact verdictAfter_bind fun operand last read => rfl
  · rename_i value shape
    have moves : step ⟨.operand, unclosed⟩ cursor.current = .go ⟨.operator, unclosed⟩ := by
      rw [shape]; rfl
    rw [run_go moves, ← verdictAfter_advance]
    exact verdictAfter_bind fun _ middle moved => rfl
  · rename_i shape
    have moves : step ⟨.operand, unclosed⟩ cursor.current = .go ⟨.operand, unclosed + 1⟩ := by
      rw [shape]; rfl
    rw [run_go moves, ← verdictAfter_advance]
    refine verdictAfter_bind fun _ middle moved => ?_
    have shrunk := advance_remaining (by simp [shape]) moved
    rw [← inner middle shrunk 1 (unclosed + 1) Nat.one_pos]
    -- What follows the inner expression is no operator, so only `)` lets the parser go on.
    refine verdictAfter_bind fun operand last read => ?_
    rw [← verdictAfter_expect unclosed last (climb_rests Nat.one_pos read)]
    exact verdictAfter_bind fun _ closed met => rfl
  · rename_i notMinus notNumber notParen
    refine (run_fail ?_).symm
    cases shape : cursor.current with
    | operator op =>
        cases op with
        | subtract => exact absurd shape notMinus
        | and | or | add | multiply | divide | power => rfl
    | leftParen => exact absurd shape notParen
    | number value => exact absurd shape (notNumber value)
    | rightParen | finish => rfl

theorem verdictAfter_chain {least : Nat} (positive : 0 < least) (unclosed : Nat) (left : Expr)
    (cursor : Cursor)
    (inner : ∀ after : Cursor, after.remaining < cursor.remaining → Follows after) :
    verdictAfter ⟨.operator, unclosed⟩ (chain least left cursor) =
      run ⟨.operator, unclosed⟩ (ahead cursor) := by
  induction size : cursor.remaining using Nat.strongRecOn generalizing cursor left with
  | ind size ih =>
  subst size
  rcases rests_or_takes cursor least positive with stop | ⟨op, shape, tight⟩
  · rw [chain_stop stop]
    rfl
  · have moves : step ⟨.operator, unclosed⟩ cursor.current = .go ⟨.operand, unclosed⟩ := by
      rw [shape]; rfl
    rw [chain_step positive shape tight, run_go moves, ← verdictAfter_advance]
    refine verdictAfter_bind fun _ middle moved => ?_
    have first := advance_remaining (by simp [shape]) moved
    rw [← inner middle first _ unclosed (operandLeast_pos (.operator op))]
    refine verdictAfter_bind fun right last read => ?_
    have second := climb_consumes _ (operandLeast_pos _) _ _ _ read
    exact ih last.remaining (by omega) _ last (fun after less => inner after (by omega)) rfl

theorem follows (cursor : Cursor) : Follows cursor := by
  induction size : cursor.remaining using Nat.strongRecOn generalizing cursor with
  | ind size ih =>
  subst size
  intro least unclosed positive
  have inner : ∀ after : Cursor, after.remaining < cursor.remaining → Follows after :=
    fun after less => ih after.remaining less after rfl
  rw [climb_eq least positive, ← verdictAfter_primary unclosed cursor inner]
  refine verdictAfter_bind fun left middle read => ?_
  have shrunk := primaryWith_consumes climb_consumes _ _ _ read
  exact verdictAfter_chain positive unclosed left middle
    (fun after less => inner after (by omega))

theorem verdictOf_climbWhole (cursor : Cursor) :
    verdictOf (climbWhole.outcome cursor) = run start (ahead cursor) := by
  rw [start, ← follows cursor 1 0 Nat.one_pos]
  unfold outcome climbWhole
  cases read : climb 1 cursor with
  | error error after =>
      rw [bind_error read]
      rfl
  | ok tree after =>
      have looked : current after = .ok after.current after := rfl
      rw [bind_ok read, bind_ok looked]
      cases shape : after.current with
      | finish =>
          show Verdict.accepted = run _ (ahead after)
          simp [run, ahead, shape, step]
      | operator op =>
          have rests := climb_rests Nat.one_pos read
          rw [shape] at rests
          rcases rests with finish | loose
          · cases finish
          · cases op <;> exact absurd loose (by decide)
      | leftParen | rightParen | number value =>
          refine (run_fail ?_).symm
          rw [shape]
          rfl

/-- The parser and the automaton give one verdict on every text. -/
theorem verdictOf_parse (text : List Char) :
    verdictOf (parse text) = run start (.ofText text) := by
  rw [parse_eq]
  have first := verdictAfter_advance start ⟨.finish, 0, .ofText text⟩
  rw [← first]
  cases moved : advance ⟨.finish, 0, .ofText text⟩ with
  | ok _ after =>
      unfold outcome
      rw [bind_ok moved]
      exact verdictOf_climbWhole after
  | error error after =>
      unfold outcome
      rw [bind_error moved]
      rfl

end Simulation

section FirstFailure

def firstReading : Feed → Except LexError Token
  | .finished _ => .ok .finish
  | .token token _ _ => .ok token
  | .blocked error | .refused error _ _ => .error error

/-- What is left of a feed behind the given tokens, if it starts with them. -/
def behind? : Feed → List Token → Option Feed
  | feed, [] => some feed
  | .token token _ rest, read :: more => if token = read then behind? rest more else none
  | _, _ :: _ => none

def walk (state : State) : List Token → Option State
  | [] => some state
  | token :: rest =>
      match step state token with
      | .go next => walk next rest
      | _ => none

def failure? (state : State) : Except LexError Token → Option Complaint
  | .error error => some (unreadable error)
  | .ok token =>
      match step state token with
      | .fail complaint => some complaint
      | _ => none

theorem behind?_nil {feed rest : Feed} (left : behind? feed [] = some rest) : feed = rest := by
  simpa [behind?] using left

theorem behind?_cons {token : Token} {more : List Token} {feed rest : Feed}
    (left : behind? feed (token :: more) = some rest) :
    ∃ position tail, feed = .token token position tail ∧ behind? tail more = some rest := by
  cases feed with
  | finished position => cases left
  | blocked error => cases left
  | refused error position tail => cases left
  | token found position tail =>
      simp only [behind?] at left
      split at left
      · rename_i same
        exact ⟨position, tail, by rw [same], left⟩
      · cases left

theorem run_behind {read : List Token} {state reached : State} {feed rest : Feed}
    (walked : walk state read = some reached) (left : behind? feed read = some rest) :
    run state feed = run reached rest := by
  induction read generalizing state feed with
  | nil =>
      cases walked
      rw [behind?_nil left]
  | cons token more ih =>
      obtain ⟨position, tail, rfl, behind⟩ := behind?_cons left
      simp only [walk] at walked
      split at walked
      · rename_i next moves
        simp only [run, moves]
        exact ih walked behind
      · cases walked

theorem run_failure {state : State} {feed : Feed} {complaint : Complaint}
    (fails : failure? state (firstReading feed) = some complaint) :
    run state feed = .rejected complaint := by
  cases feed with
  | finished position =>
      simp only [firstReading, failure?] at fails
      split at fails
      · rename_i found stops
        cases fails
        simp [run, stops]
      · cases fails
  | blocked error => cases fails; rfl
  | refused error position rest => cases fails; rfl
  | token token position rest =>
      simp only [firstReading, failure?] at fails
      split at fails
      · rename_i found stops
        cases fails
        simp [run, stops]
      · cases fails

theorem verdictOf_eq_accepted (outcome : Except ParseError Expr) :
    verdictOf outcome = .accepted ↔ ∃ tree, outcome = .ok tree := by
  cases outcome <;> simp [verdictOf]

theorem verdictOf_eq_rejected (outcome : Except ParseError Expr) (complaint : Complaint) :
    verdictOf outcome = .rejected complaint ↔
      ∃ error, outcome = .error error ∧ error.message = complaint.message ∧
        error.token? = complaint.token? ∧ error.lexError? = complaint.lexError? := by
  obtain ⟨message, token?, lexError?⟩ := complaint
  cases outcome <;> simp [verdictOf, complaintOf]

/-- A text parses exactly when the automaton accepts its readings, and otherwise the
error has the message, the token and the lexical error of the automaton's first failure.
The failure is settled by the readings up to the one it is about: whatever readings
follow, every text that starts with them fails in the same way. -/
theorem parse_first_failure :
    (∀ text, (∃ tree, parse text = .ok tree) ↔ run start (.ofText text) = .accepted) ∧
    (∀ text complaint,
      (∃ error, parse text = .error error ∧ error.message = complaint.message ∧
        error.token? = complaint.token? ∧ error.lexError? = complaint.lexError?) ↔
      run start (.ofText text) = .rejected complaint) ∧
    (∀ text read rest state complaint, behind? (.ofText text) read = some rest →
      walk start read = some state → failure? state (firstReading rest) = some complaint →
      ∃ error, parse text = .error error ∧ error.message = complaint.message ∧
        error.token? = complaint.token? ∧ error.lexError? = complaint.lexError?) := by
  refine ⟨?_, ?_, ?_⟩
  · intro text
    rw [← verdictOf_eq_accepted, verdictOf_parse]
  · intro text complaint
    rw [← verdictOf_eq_rejected, verdictOf_parse]
  · intro text read rest state complaint left walked fails
    rw [← verdictOf_eq_rejected, verdictOf_parse, run_behind walked left]
    exact run_failure fails

/-- In `(-)#` the closing parenthesis is met where an operand is due, and the character
that starts no token is never read. -/
theorem parse_first_failure_no_operand :
    ∃ error, parse ['(', '-', ')', '#'] = .error error ∧
      error.message = "unable to parse Token(')')" ∧
      error.token? = some .rightParen ∧ error.lexError? = none := by
  have readings : Feed.ofText ['(', '-', ')', '#'] =
      .token .leftParen 1 (.token (.operator .subtract) 2
        (.token .rightParen 3 (Scanner.feed ⟨3, ['#'], false⟩))) := by
    unfold Feed.ofText Scanner.ofText
    rw [Scanner.feed_symbol 0 _ false (show Token.ofSymbol? '(' = some .leftParen from rfl),
      Scanner.feed_symbol 1 _ false
        (show Token.ofSymbol? '-' = some (.operator .subtract) from rfl),
      Scanner.feed_symbol 2 _ false (show Token.ofSymbol? ')' = some .rightParen from rfl)]
  have left : behind? (.ofText ['(', '-', ')', '#']) [.leftParen, .operator .subtract] =
      some (.token .rightParen 3 (Scanner.feed ⟨3, ['#'], false⟩)) := by
    rw [readings]
    rfl
  obtain ⟨_, _, fails⟩ := parse_first_failure
  exact fails ['(', '-', ')', '#'] [.leftParen, .operator .subtract] _
    ⟨.operand, 1⟩ ⟨"unable to parse Token(')')", some .rightParen, none⟩ left rfl (by decide)

end FirstFailure

end Reckon.Acceptance
