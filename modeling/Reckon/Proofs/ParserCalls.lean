import Reckon.Expr.Parser
import Reckon.Proofs.Climbing
import Reckon.Proofs.ScannerCalls

/-!
A parser under any sequence of calls, those that fail included. Whatever a call does,
it does by reading: the tokens that become current are the readings of the scanner in
their order, and a call stops at the first reading that fails or at a token that it
does not consume. So each call takes the next block of the readings of the text, and
the blocks of a session lie side by side.

The argument goes through the parser once, combinator by combinator, and shows that
every result is accounted for by readings. All else follows from the readings.
-/

namespace Reckon

namespace Scanner

def readings (scanner : Scanner) : (count : Nat) → List (Except LexError Token)
  | 0 => []
  | count + 1 => scanner.next.1 :: scanner.next.2.readings count

def later (scanner : Scanner) : (count : Nat) → Scanner
  | 0 => scanner
  | count + 1 => scanner.next.2.later count

def cursor (scanner : Scanner) (current : Token) : Cursor :=
  ⟨current, scanner.position, scanner.feed⟩

theorem later_add (scanner : Scanner) (first second : Nat) :
    scanner.later (first + second) = (scanner.later first).later second := by
  induction first generalizing scanner with
  | zero => rw [Nat.zero_add, later]
  | succ first ih => rw [Nat.succ_add, later, later, ih]

theorem readings_add (scanner : Scanner) (first second : Nat) :
    scanner.readings (first + second) =
      scanner.readings first ++ (scanner.later first).readings second := by
  induction first generalizing scanner with
  | zero => rw [Nat.zero_add, readings, later, List.nil_append]
  | succ first ih => rw [Nat.succ_add, readings, readings, later, ih, List.cons_append]

theorem later_position (scanner : Scanner) (count : Nat) :
    scanner.position ≤ (scanner.later count).position := by
  induction count generalizing scanner with
  | zero => exact Nat.le_refl _
  | succ count ih => exact Nat.le_trans scanner.next_position (ih scanner.next.2)

end Scanner

namespace Parser

open Scanner (later readings)

/-- One step of the parser's reading is one reading of its scanner. -/
theorem advance_ok {scanner after : Scanner} {token : Token}
    (read : scanner.next = (.ok token, after)) (current : Token) :
    advance (scanner.cursor current) = .ok () (after.cursor token) := by
  have feed := scanner.feed_eq
  rw [read] at feed
  by_cases finish : token = .finish
  · subst finish
    have behind : after.feed = .finished after.position := by
      obtain ⟨position, rest, finished⟩ := after
      obtain rfl : rest = [] := Scanner.next_finish read
      exact Scanner.feed_nil position finished
    simp only [↓reduceIte] at feed
    simp only [advance, Scanner.cursor, feed, behind]
  · simp only [finish, ↓reduceIte] at feed
    simp only [advance, Scanner.cursor, feed]

theorem advance_error {scanner after : Scanner} {error : LexError}
    (failed : scanner.next = (.error error, after)) (current : Token) :
    advance (scanner.cursor current) = .error (.unreadable error) (after.cursor current) := by
  have feed := scanner.feed_eq
  rw [failed] at feed
  by_cases invalid : error.reason = .invalidCharacter
  · obtain ⟨again, _, position, _⟩ := Scanner.next_invalid failed invalid
    have behind := after.feed_eq
    rw [again] at behind
    simp only [invalid, ↓reduceIte] at feed behind
    simp only [advance, Scanner.cursor, feed, behind, position]
  · simp only [invalid, ↓reduceIte] at feed
    simp only [advance, Scanner.cursor, feed]

/-- Reading fails in one way only, and keeps the current token. -/
theorem advance_failed {cursor after : Cursor} {error : ParseError}
    (failed : advance cursor = .error error after) :
    (∃ unread, error = .unreadable unread) ∧ after.current = cursor.current := by
  cases feed : cursor.feed with
  | finished | token => simp [advance, feed] at failed
  | blocked | refused =>
      simp only [advance, feed] at failed
      cases failed
      exact ⟨⟨_, rfl⟩, rfl⟩

inductive Follows : Cursor → List (Except LexError Token) → Cursor → Prop where
  | done (cursor : Cursor) : Follows cursor [] cursor
  | read {cursor middle after : Cursor} {more : List (Except LexError Token)}
      (moved : advance cursor = .ok () middle) (behind : Follows middle more after) :
      Follows cursor (.ok middle.current :: more) after
  | failed {cursor middle after : Cursor} {error : LexError}
      {more : List (Except LexError Token)}
      (stopped : advance cursor = .error (.unreadable error) middle)
      (kept : middle.current = cursor.current) (behind : Follows middle more after) :
      Follows cursor (.error error :: more) after

theorem Follows.append {cursor middle after : Cursor} {first second : List (Except LexError Token)}
    (front : Follows cursor first middle) (back : Follows middle second after) :
    Follows cursor (first ++ second) after := by
  induction front with
  | done cursor => exact back
  | read moved behind ih => exact .read moved (ih back)
  | failed stopped kept behind ih => exact .failed stopped kept (ih back)

/-- The readings behind an outcome. All of them are tokens, unless the last one has failed
and its failure is the outcome. Any other failure names the token that is current where it
leaves the cursor, or is the limit on nesting. -/
inductive Takes {α : Type} (cursor : Cursor) :
    List (Except LexError Token) → Except ParseError α → Cursor → Prop where
  | value (tokens : List Token) {after : Cursor} (value : α)
      (follows : Follows cursor (tokens.map .ok) after) :
      Takes cursor (tokens.map .ok) (.ok value) after
  | unreadable (tokens : List Token) {after : Cursor} {error : LexError}
      (follows : Follows cursor (tokens.map .ok ++ [.error error]) after) :
      Takes cursor (tokens.map .ok ++ [.error error]) (.error (.unreadable error)) after
  | refused (tokens : List Token) {after : Cursor} {error : ParseError}
      (follows : Follows cursor (tokens.map .ok) after)
      (named : error.token? = some after.current) :
      Takes cursor (tokens.map .ok) (.error error) after
  | tooDeep (tokens : List Token) {after : Cursor}
      (follows : Follows cursor (tokens.map .ok) after) :
      Takes cursor (tokens.map .ok) (.error .tooDeep) after

def Accounted {α : Type} (cursor : Cursor) : EStateM.Result ParseError Cursor α → Prop
  | .ok value after => ∃ taken, Takes cursor taken (.ok value) after
  | .error error after => ∃ taken, Takes cursor taken (.error error : Except ParseError α) after

section Accounts

variable {α β : Type} {cursor : Cursor}

theorem Takes.follows {taken : List (Except LexError Token)} {outcome : Except ParseError α}
    {after : Cursor} (takes : Takes cursor taken outcome after) : Follows cursor taken after := by
  cases takes with
  | value tokens value follows => exact follows
  | unreadable tokens follows => exact follows
  | refused tokens follows named => exact follows
  | tooDeep tokens follows => exact follows

theorem Takes.behind {tokens : List Token} {middle after : Cursor}
    {taken : List (Except LexError Token)} {outcome : Except ParseError α}
    (front : Follows cursor (tokens.map .ok) middle) (takes : Takes middle taken outcome after) :
    Takes cursor (tokens.map .ok ++ taken) outcome after := by
  have whole := front.append takes.follows
  cases takes with
  | value more value follows =>
      rw [← List.map_append] at whole ⊢
      exact .value _ value whole
  | unreadable more follows =>
      rw [← List.append_assoc, ← List.map_append] at whole ⊢
      exact .unreadable _ whole
  | refused more follows named =>
      rw [← List.map_append] at whole ⊢
      exact .refused _ whole named
  | tooDeep more follows =>
      rw [← List.map_append] at whole ⊢
      exact .tooDeep _ whole

theorem accounted_ok (value : α) : Accounted cursor (.ok value cursor) :=
  ⟨[], .value [] value (.done cursor)⟩

theorem accounted_refused {error : ParseError} (named : error.token? = some cursor.current) :
    Accounted cursor (.error error cursor : EStateM.Result ParseError Cursor α) :=
  ⟨[], .refused [] (.done cursor) named⟩

theorem Accounted.behind {tokens : List Token} {middle : Cursor}
    {result : EStateM.Result ParseError Cursor α}
    (front : Follows cursor (tokens.map .ok) middle) (accounted : Accounted middle result) :
    Accounted cursor result := by
  cases result with
  | ok value after =>
      obtain ⟨taken, takes⟩ := accounted
      exact ⟨_, takes.behind front⟩
  | error error after =>
      obtain ⟨taken, takes⟩ := accounted
      exact ⟨_, takes.behind front⟩

theorem accounted_bind {parser : Parser α} {next : α → Parser β}
    (first : Accounted cursor (parser cursor))
    (second : ∀ value after, parser cursor = .ok value after → Accounted after (next value after)) :
    Accounted cursor ((parser >>= next) cursor) := by
  cases read : parser cursor with
  | ok value after =>
      rw [read] at first
      rw [bind_ok read]
      obtain ⟨taken, takes⟩ := first
      cases takes with
      | value tokens value follows => exact (second value after read).behind follows
  | error error after =>
      rw [read] at first
      rw [bind_error read]
      obtain ⟨taken, takes⟩ := first
      cases takes with
      | unreadable tokens follows => exact ⟨_, .unreadable tokens follows⟩
      | refused tokens follows named => exact ⟨_, .refused tokens follows named⟩
      | tooDeep tokens follows => exact ⟨_, .tooDeep tokens follows⟩

theorem accounted_advance (cursor : Cursor) : Accounted cursor (advance cursor) := by
  cases moved : advance cursor with
  | ok nothing after => exact ⟨_, .value [after.current] nothing (.read moved (.done _))⟩
  | error error after =>
      obtain ⟨⟨unread, rfl⟩, kept⟩ := advance_failed moved
      exact ⟨_, .unreadable [] (.failed moved kept (.done _))⟩

theorem accounted_expect (complaint : String) (wanted : TokenKind) (cursor : Cursor) :
    Accounted cursor (expect complaint wanted cursor) := by
  unfold expect
  rw [bind_ok (current_eq cursor)]
  by_cases same : cursor.current.kind = wanted
  · rw [if_pos same]
    exact accounted_advance cursor
  · rw [if_neg same]
    exact accounted_refused rfl

section Inner

variable {expression : (least : Nat) → Parser Expr}

theorem accounted_primaryWith
    (inner : ∀ least, 0 < least → ∀ cursor, Accounted cursor (expression least cursor))
    (cursor : Cursor) : Accounted cursor (primaryWith expression cursor) := by
  rw [primaryWith_eq]
  split
  · apply accounted_bind (accounted_advance cursor)
    intro _ middle _
    apply accounted_bind (inner _ (Nat.succ_pos negationPrecedence) middle)
    intro operand after _
    exact accounted_ok _
  · apply accounted_bind (accounted_advance cursor)
    intro _ middle _
    exact accounted_ok _
  · apply accounted_bind (accounted_advance cursor)
    intro _ middle _
    apply accounted_bind (inner 1 Nat.one_pos middle)
    intro operand last _
    apply accounted_bind (accounted_expect _ _ last)
    intro _ after _
    exact accounted_ok _
  · exact accounted_refused rfl

-- A chain of a proper level takes operators only, so each has its operation.
theorem accounted_chainWith
    (inner : ∀ least, 0 < least → ∀ cursor, Accounted cursor (expression least cursor))
    {least : Nat} (positive : 0 < least) (steps : Nat) (left : Expr) (cursor : Cursor) :
    Accounted cursor (chainWith expression least steps left cursor) := by
  induction steps generalizing left cursor with
  | zero => exact accounted_ok left
  | succ steps ih =>
      rcases rests_or_takes cursor least positive with stop | ⟨op, shape, tight⟩
      · rw [chainWith_stop expression cursor least _ left stop]
        exact accounted_ok left
      · rw [chainWith_step expression cursor least steps left op shape tight]
        apply accounted_bind (accounted_advance cursor)
        intro _ middle _
        apply accounted_bind (inner _ (operandLeast_pos _) middle)
        intro right last _
        exact ih _ last

end Inner

theorem accounted_expressionWithin (steps limit : Nat) {least : Nat} (positive : 0 < least)
    (cursor : Cursor) : Accounted cursor (expressionWithin steps limit least cursor) := by
  induction limit generalizing least cursor with
  | zero => exact ⟨[], .tooDeep [] (.done cursor)⟩
  | succ limit ih =>
      apply accounted_bind (accounted_primaryWith (fun _ positive _ => ih positive _) cursor)
      intro left middle _
      exact accounted_chainWith (fun _ positive _ => ih positive _) positive steps left middle

theorem accounted_whole (limit : Nat) (cursor : Cursor) :
    Accounted cursor (whole limit cursor) := by
  apply accounted_bind (accounted_expressionWithin _ limit Nat.one_pos cursor)
  intro tree after _
  rw [bind_ok (current_eq after)]
  by_cases finish : after.current = .finish
  · rw [if_pos finish]
    exact accounted_ok tree
  · rw [if_neg finish]
    exact accounted_refused rfl

/-- Every call at a proper level is accounted for. -/
theorem accounted_perform (limit : Nat) {call : Call} (proper : call ≠ .expression 0)
    (cursor : Cursor) : Accounted cursor (perform limit call cursor) := by
  cases call with
  | expression least =>
      have positive : 0 < least := by
        apply Nat.pos_of_ne_zero
        rintro rfl
        exact proper rfl
      apply accounted_bind (accounted_expressionWithin _ limit positive cursor)
      intro tree after _
      exact accounted_ok _
  | primary =>
      apply accounted_bind (accounted_primaryWith
        (fun _ positive _ => accounted_expressionWithin _ limit positive _) cursor)
      intro tree after _
      exact accounted_ok _
  | whole =>
      apply accounted_bind (accounted_whole limit cursor)
      intro tree after _
      exact accounted_ok _
  | advance =>
      apply accounted_bind (accounted_advance cursor)
      intro _ after _
      exact accounted_ok _
  | expect complaint wanted =>
      apply accounted_bind (accounted_expect complaint wanted cursor)
      intro _ after _
      exact accounted_ok _

end Accounts

section Readings

variable {scanner : Scanner} {current : Token} {after : Cursor}
  {taken : List (Except LexError Token)}

/-- A parser that reads from a scanner reads what the scanner reads. -/
theorem Follows.readings (follows : Follows (scanner.cursor current) taken after) :
    taken = scanner.readings taken.length ∧
      after = (scanner.later taken.length).cursor after.current := by
  generalize start : scanner.cursor current = cursor at follows
  induction follows generalizing scanner current with
  | done cursor =>
      subst start
      exact ⟨rfl, rfl⟩
  | read moved behind ih =>
      subst start
      cases step : scanner.next with
      | mk outcome next =>
          cases outcome with
          | error error =>
              rw [advance_error step] at moved
              cases moved
          | ok token =>
              rw [advance_ok step] at moved
              cases moved
              obtain ⟨same, reached⟩ := ih rfl
              simp only [List.length_cons, Scanner.readings, Scanner.later, step]
              exact ⟨congrArg _ same, reached⟩
  | failed stopped kept behind ih =>
      subst start
      cases step : scanner.next with
      | mk outcome next =>
          cases outcome with
          | ok token =>
              rw [advance_ok step] at stopped
              cases stopped
          | error error =>
              rw [advance_error step] at stopped
              cases stopped
              obtain ⟨same, reached⟩ := ih rfl
              simp only [List.length_cons, Scanner.readings, Scanner.later, step]
              exact ⟨congrArg _ same, reached⟩

end Readings

def Blocked (error : LexError) (cursor : Cursor) : Prop :=
  advance cursor = .error (.unreadable error) cursor

section Blocks

variable {error : LexError} {cursor after : Cursor} {taken : List (Except LexError Token)}

theorem Follows.blocked (follows : Follows cursor taken after) (blocked : Blocked error cursor) :
    after = cursor ∧ ∀ reading ∈ taken, reading = .error error := by
  induction follows with
  | done cursor => exact ⟨rfl, List.forall_mem_nil _⟩
  | read moved behind ih => cases blocked.symm.trans moved
  | failed stopped kept behind ih =>
      cases blocked.symm.trans stopped
      obtain ⟨same, others⟩ := ih blocked
      exact ⟨same, List.forall_mem_cons.mpr ⟨rfl, others⟩⟩

/-- A character that starts nothing blocks the parser for ever. -/
theorem Follows.blocked_of_invalid {scanner : Scanner} {current : Token}
    (follows : Follows (scanner.cursor current) (taken ++ [.error error]) after)
    (invalid : error.reason = .invalidCharacter) : Blocked error after := by
  obtain ⟨same, place⟩ := follows.readings
  rw [List.length_append, List.length_singleton, Scanner.readings_add] at same
  rw [List.length_append, List.length_singleton, Scanner.later_add] at place
  have last := (List.append_inj_right' same rfl)
  have failed : (scanner.later taken.length).next.1 = .error error := (List.cons.inj last).1.symm
  have again := (Scanner.next_invalid (Prod.ext failed rfl) invalid).1
  rw [Blocked, place]
  exact advance_error again _

end Blocks

theorem answer_eq_error {limit : Nat} {call : Call} {cursor after : Cursor} {error : ParseError} :
    answer limit call cursor = (.error error, after) ↔
      perform limit call cursor = .error error after := by
  unfold answer
  cases perform limit call cursor <;> simp

theorem takes_answer (limit : Nat) {call : Call} (proper : call ≠ .expression 0) (cursor : Cursor) :
    ∃ taken, Takes cursor taken (answer limit call cursor).1 (answer limit call cursor).2 := by
  have accounted := accounted_perform limit proper cursor
  unfold answer
  cases performed : perform limit call cursor with
  | ok tree? after =>
      rw [performed] at accounted
      exact accounted
  | error error after =>
      rw [performed] at accounted
      exact accounted

structure Exchange where
  call : Call
  before : Cursor
  taken : List (Except LexError Token)
  outcome : Except ParseError (Option Expr)
  after : Cursor

structure Logs (limit : Nat) (cursor : Cursor) (calls : List Call) (log : List Exchange) :
    Prop where
  made : log.map Exchange.call = calls
  answered : log.map (fun exchange => (exchange.outcome, exchange.after)) =
    answers limit cursor calls
  linked : log.map Exchange.before = (cursor :: log.map Exchange.after).dropLast

structure Exchange.Sound (limit : Nat) (exchange : Exchange) : Prop where
  answered : answer limit exchange.call exchange.before = (exchange.outcome, exchange.after)
  takes : Takes exchange.before exchange.taken exchange.outcome exchange.after
  reads : ∃ scanner : Scanner, exchange.before = scanner.cursor exchange.before.current

inductive Session (limit : Nat) : Cursor → List Call → List Exchange → Prop where
  | nil (cursor : Cursor) : Session limit cursor [] []
  | cons {exchange : Exchange} {calls : List Call} {log : List Exchange}
      (sound : exchange.Sound limit) (rest : Session limit exchange.after calls log) :
      Session limit exchange.before (exchange.call :: calls) (exchange :: log)

theorem exists_session (limit : Nat) {calls : List Call} (proper : .expression 0 ∉ calls)
    (scanner : Scanner) (current : Token) :
    ∃ log, Session limit (scanner.cursor current) calls log := by
  induction calls generalizing scanner current with
  | nil => exact ⟨[], .nil _⟩
  | cons call calls ih =>
      rcases takes_answer limit (List.ne_of_not_mem_cons proper).symm
        (scanner.cursor current) with ⟨taken, takes⟩
      have place := takes.follows.readings.2
      rcases ih (List.not_mem_of_not_mem_cons proper) (scanner.later taken.length)
        (answer limit call (scanner.cursor current)).2.current with ⟨log, rest⟩
      rw [← place] at rest
      have sound : Exchange.Sound limit ⟨call, scanner.cursor current, taken, _, _⟩ :=
        ⟨rfl, takes, scanner, rfl⟩
      exact ⟨_, .cons sound rest⟩

namespace Session

variable {limit : Nat} {cursor : Cursor} {calls : List Call} {log : List Exchange}

theorem sound (session : Session limit cursor calls log) :
    ∀ exchange ∈ log, exchange.Sound limit := by
  induction session with
  | nil cursor => exact List.forall_mem_nil _
  | cons sound rest ih => exact List.forall_mem_cons.mpr ⟨sound, ih⟩

theorem logs (session : Session limit cursor calls log) : Logs limit cursor calls log := by
  induction session with
  | nil cursor => exact ⟨rfl, rfl, rfl⟩
  | cons sound rest ih =>
      constructor
      · simp only [List.map_cons, ih.made]
      · simp only [List.map_cons, answers, sound.answered, ih.answered]
      · simp only [List.map_cons, ih.linked, List.dropLast_cons_cons]

theorem readings (session : Session limit cursor calls log) {scanner : Scanner}
    (start : cursor = scanner.cursor cursor.current) :
    log.flatMap Exchange.taken = scanner.readings (log.flatMap Exchange.taken).length := by
  induction session generalizing scanner with
  | nil cursor => rfl
  | @cons exchange calls log sound rest ih =>
      have follows := sound.takes.follows
      rw [start] at follows
      obtain ⟨same, place⟩ := follows.readings
      rw [List.flatMap_cons, List.length_append, Scanner.readings_add, ← same, ← ih place]

-- Behind a character that starts nothing, no call reads anything else or moves.
theorem blocked (session : Session limit cursor calls log) {error : LexError}
    (blocked : Blocked error cursor) :
    ∀ exchange ∈ log, exchange.before = cursor ∧ exchange.after = cursor ∧
      ∀ reading ∈ exchange.taken, reading = .error error := by
  induction session with
  | nil cursor => exact List.forall_mem_nil _
  | @cons exchange calls log sound rest ih =>
      obtain ⟨same, readings⟩ := sound.takes.follows.blocked blocked
      rw [same] at ih
      exact List.forall_mem_cons.mpr ⟨⟨rfl, same, readings⟩, ih blocked⟩

/-- Behind each exchange the parser's scanner has made all the readings so far. -/
theorem place (session : Session limit cursor calls log) {scanner : Scanner}
    (start : cursor = scanner.cursor cursor.current) {earlier later : List Exchange}
    {exchange : Exchange} (split : log = earlier ++ exchange :: later) :
    exchange.after = (scanner.later
      ((earlier ++ [exchange]).flatMap Exchange.taken).length).cursor exchange.after.current := by
  induction session generalizing scanner earlier with
  | nil cursor => simp at split
  | @cons first calls log sound rest ih =>
      have follows := sound.takes.follows
      rw [start] at follows
      have place := follows.readings.2
      cases earlier with
      | nil =>
          cases split
          simpa using place
      | cons head earlier =>
          cases split
          rw [List.cons_append, List.flatMap_cons, List.length_append, Scanner.later_add]
          exact ih place rfl

end Session

theorem expect_refused {complaint : String} {wanted : TokenKind} {cursor after : Cursor}
    {error : ParseError} (failed : expect complaint wanted cursor = .error error after)
    (structural : error.lexError? = none) : after = cursor := by
  unfold expect at failed
  rw [bind_ok (current_eq cursor)] at failed
  by_cases same : cursor.current.kind = wanted
  · rw [if_pos same] at failed
    obtain ⟨⟨unread, rfl⟩, _⟩ := advance_failed failed
    cases structural
  · rw [if_neg same] at failed
    cases failed
    rfl

namespace Exchange.Sound

variable {limit : Nat} {exchange : Exchange} {error : ParseError}

theorem position_le (sound : exchange.Sound limit) :
    exchange.before.position ≤ exchange.after.position := by
  have follows := sound.takes.follows
  obtain ⟨scanner, start⟩ := sound.reads
  rw [start] at follows ⊢
  rw [follows.readings.2]
  exact scanner.later_position _

theorem named (sound : exchange.Sound limit) (failed : exchange.outcome = .error error)
    (limited : error ≠ .tooDeep) (structural : error.lexError? = none) :
    error.token? = some exchange.after.current := by
  have takes := sound.takes
  rw [failed] at takes
  generalize exchange.taken = taken at takes
  cases takes with
  | unreadable tokens follows => cases structural
  | refused tokens follows named => exact named
  | tooDeep tokens follows => exact absurd rfl limited

theorem expect_unchanged (sound : exchange.Sound limit) (failed : exchange.outcome = .error error)
    (structural : error.lexError? = none) {complaint : String} {wanted : TokenKind}
    (expects : exchange.call = .expect complaint wanted) : exchange.after = exchange.before := by
  have answered := sound.answered
  rw [expects, failed, answer_eq_error] at answered
  change (expect complaint wanted >>= fun _ => pure none) exchange.before = _ at answered
  cases met : expect complaint wanted exchange.before with
  | ok nothing after =>
      rw [bind_ok met] at answered
      cases answered
  | error found after =>
      rw [bind_error met] at answered
      cases answered
      exact expect_refused met structural

theorem advance_blocked (sound : exchange.Sound limit) {error : LexError}
    (blocked : Blocked error exchange.before) (advances : exchange.call = .advance) :
    exchange.outcome = .error (.unreadable error) := by
  have failed : perform limit .advance exchange.before =
      .error (.unreadable error) exchange.before := bind_error blocked
  have answered := sound.answered
  rw [advances, answer_eq_error.mpr failed] at answered
  exact (congrArg Prod.fst answered).symm

/-- The failed reading is the outcome. -/
theorem outcome_of_failed (sound : exchange.Sound limit) {error : LexError}
    (read : .error error ∈ exchange.taken) : exchange.outcome = .error (.unreadable error) := by
  have takes := sound.takes
  generalize exchange.taken = taken at takes read
  generalize exchange.outcome = outcome at takes
  cases takes with
  | value tokens value follows => simp at read
  | @unreadable tokens after found follows =>
      have same : error = found := by simpa using read
      rw [same]
  | refused tokens follows named => simp at read
  | tooDeep tokens follows => simp at read

/-- Behind a character that starts nothing the parser is blocked. -/
theorem blocked (sound : exchange.Sound limit) {error : LexError}
    (failed : exchange.outcome = .error (.unreadable error))
    (invalid : error.reason = .invalidCharacter) : Blocked error exchange.after := by
  have takes := sound.takes
  obtain ⟨scanner, start⟩ := sound.reads
  rw [failed] at takes
  generalize exchange.taken = taken at takes
  cases takes with
  | unreadable tokens follows =>
      rw [start] at follows
      exact follows.blocked_of_invalid invalid
  | refused tokens follows named => cases named

theorem taken_or_failed (sound : exchange.Sound limit) :
    ∃ tokens : List Token,
      (exchange.taken = tokens.map .ok ∧ ∀ error, exchange.outcome ≠ .error (.unreadable error)) ∨
      ∃ error, exchange.taken = tokens.map .ok ++ [.error error] ∧
        exchange.outcome = .error (.unreadable error) := by
  have takes := sound.takes
  generalize exchange.taken = taken at takes ⊢
  generalize exchange.outcome = outcome at takes ⊢
  cases takes with
  | value tokens value follows =>
      refine ⟨tokens, Or.inl ⟨rfl, ?_⟩⟩
      intro error same
      cases same
  | unreadable tokens follows => exact ⟨tokens, Or.inr ⟨_, rfl, rfl⟩⟩
  | refused tokens follows named =>
      refine ⟨tokens, Or.inl ⟨rfl, ?_⟩⟩
      intro error same
      cases same
      cases named
  | tooDeep tokens follows =>
      refine ⟨tokens, Or.inl ⟨rfl, ?_⟩⟩
      intro error same
      cases same

end Exchange.Sound

/-- When the earlier call has met a character that starts nothing, every reading of the later
one meets it again, and nothing changes. -/
def Exchange.Stops (earlier later : Exchange) : Prop :=
  ∀ error, earlier.outcome = .error (.unreadable error) → error.reason = .invalidCharacter →
    later.after = later.before ∧ (∀ reading ∈ later.taken, reading = .error error) ∧
      (later.call = .advance ∨ later.taken ≠ [] → later.outcome = .error (.unreadable error))

structure Orderly (text : List Char) (first : Token) (log : List Exchange) : Prop where
  /-- The readings of all calls, one block after the other, are those of the text. -/
  readings : .ok first :: log.flatMap Exchange.taken =
    (Scanner.ofText text).readings ((log.flatMap Exchange.taken).length + 1)
  /-- Each token that is read becomes current, and a failed reading leaves the current one. -/
  follows : ∀ exchange ∈ log, Follows exchange.before exchange.taken exchange.after
  /-- A call reads tokens only, or ends with a reading that fails, which is its failure. -/
  stops : ∀ exchange ∈ log, ∃ tokens : List Token,
    (exchange.taken = tokens.map .ok ∧ ∀ error, exchange.outcome ≠ .error (.unreadable error)) ∨
    ∃ error, exchange.taken = tokens.map .ok ++ [.error error] ∧
      exchange.outcome = .error (.unreadable error)
  /-- The position is that of a scanner after the same readings, and never falls. -/
  position : ∀ earlier exchange later, log = earlier ++ exchange :: later →
    exchange.before.position ≤ exchange.after.position ∧
    exchange.after.position = ((Scanner.ofText text).later
      (((earlier ++ [exchange]).flatMap Exchange.taken).length + 1)).position
  /-- A failure that is not lexical names the token that is still current. -/
  unconsumed : ∀ exchange ∈ log, ∀ error, exchange.outcome = .error error → error ≠ .tooDeep →
    error.lexError? = none → error.token? = some exchange.after.current
  /-- An expectation that is not met changes nothing. -/
  unmet : ∀ exchange ∈ log, ∀ complaint wanted error,
    exchange.call = .expect complaint wanted → exchange.outcome = .error error →
    error.lexError? = none → exchange.after = exchange.before
  /-- A character that starts nothing stops all the calls that follow. -/
  blocked : log.Pairwise Exchange.Stops
  /-- Whatever is taken for an operator is one. -/
  operators : ∀ exchange ∈ log, ∀ found, exchange.outcome ≠ .error (.noOperator found)

theorem Session.pairwise {limit : Nat} {cursor : Cursor} {calls : List Call} {log : List Exchange}
    (session : Session limit cursor calls log) : log.Pairwise Exchange.Stops := by
  induction session with
  | nil cursor => exact .nil
  | @cons exchange calls log sound rest ih =>
      refine .cons ?_ ih
      intro later member error failed invalid
      have blocked := sound.blocked failed invalid
      have behind := rest.sound later member
      obtain ⟨before, after, readings⟩ := rest.blocked blocked later member
      refine ⟨after.trans before.symm, readings, ?_⟩
      intro attempt
      rcases attempt with advances | visible
      · rw [← before] at blocked
        exact behind.advance_blocked blocked advances
      · obtain ⟨reading, more, shape⟩ := List.exists_cons_of_ne_nil visible
        have first : reading ∈ later.taken := by
          rw [shape]
          exact List.mem_cons_self
        rw [readings reading first] at first
        exact behind.outcome_of_failed first

theorem Session.orderly {limit : Nat} {text : List Char} {first : Token} {after : Scanner}
    {calls : List Call} {log : List Exchange}
    (read : (Scanner.ofText text).next = (.ok first, after))
    (session : Session limit (after.cursor first) calls log) : Orderly text first log := by
  constructor
  · rw [Scanner.readings, read]
    exact congrArg _ (session.readings rfl)
  · intro exchange member
    exact (session.sound exchange member).takes.follows
  · intro exchange member
    exact (session.sound exchange member).taken_or_failed
  · intro earlier exchange later split
    constructor
    · apply (session.sound exchange ?_).position_le
      rw [split]
      exact List.mem_append_right _ List.mem_cons_self
    · rw [session.place rfl split, Scanner.later, read]
      rfl
  · intro exchange member error failed limited structural
    exact (session.sound exchange member).named failed limited structural
  · intro exchange member complaint wanted error expects failed structural
    exact (session.sound exchange member).expect_unchanged failed structural expects
  · exact session.pairwise
  · intro exchange member found failed
    have named := (session.sound exchange member).named failed ParseError.noConfusion rfl
    cases named

theorem ofText_eq_ok {text : List Char} {cursor : Cursor}
    (started : Cursor.ofText text = .ok cursor) :
    ∃ after, (Scanner.ofText text).next = (.ok cursor.current, after) ∧
      cursor = after.cursor cursor.current := by
  have start : Cursor.mk .finish 0 (.ofText text) = (Scanner.ofText text).cursor .finish := rfl
  rw [Cursor.ofText, Cursor.ofFeed, start] at started
  cases step : (Scanner.ofText text).next with
  | mk outcome after =>
      cases outcome with
      | ok token =>
          rw [advance_ok step] at started
          cases started
          exact ⟨after, rfl, rfl⟩
      | error error =>
          rw [advance_error step] at started
          cases started

/-- A parser of a text that has read its first token, under any calls at proper levels, those
that fail included, has an orderly log: it reads the text token by token, never goes back,
leaves what it complains of unconsumed, stays where a character starts nothing, and never
fails but by its own errors or the limit on nesting. For the latter, one below the precedence
of a right-associative token is a level again. -/
theorem calls_follow_readings {text : List Char} {cursor : Cursor}
    (started : Cursor.ofText text = .ok cursor) (limit : Nat) (calls : List Call)
    (proper : .expression 0 ∉ calls) :
    (∃ log, Logs limit cursor calls log ∧ Orderly text cursor.current log) ∧
    ∀ token : Token, token.rightAssociative = true →
      ∃ level, level < negationPrecedence ∧ token.precedence = level + 1 := by
  obtain ⟨after, read, place⟩ := ofText_eq_ok started
  constructor
  · obtain ⟨log, session⟩ := exists_session limit proper after cursor.current
    refine ⟨log, ?_, session.orderly read⟩
    rw [place]
    exact session.logs
  · intro token right
    rcases token with op | _ | _ | value | _
    · cases op <;> cases right
      exact ⟨3, by decide, rfl⟩
    all_goals cases right

/-- In `(1..#` the run `1..` is refused and passed, an expectation is not met, and `#` stops
every further reading; the parenthesis stays current all along. -/
theorem calls_follow_readings_stopped :
    let text : List Char := ['(', '1', '.', '.', '#']
    let cursor : Cursor := ⟨.leftParen, 1, .refused ⟨.malformedNumber, ['1', '.', '.'], 1⟩ 4
      (.blocked ⟨.invalidCharacter, ['#'], 4⟩)⟩
    let calls : List Call := [.primary, .expect "closed" .rightParen, .advance, .whole]
    let stopped : Except ParseError (Option Expr) :=
      .error (.unreadable ⟨.invalidCharacter, ['#'], 4⟩)
    Cursor.ofText text = .ok cursor ∧
    (answers 9 cursor calls).map (fun answer => (answer.1, answer.2.current, answer.2.position)) =
      [(.error (.unreadable ⟨.malformedNumber, ['1', '.', '.'], 1⟩), .leftParen, 4),
        (.error (.expected "closed" .rightParen .leftParen), .leftParen, 4),
        (stopped, .leftParen, 4), (stopped, .leftParen, 4)] ∧
    ∃ log, Logs 9 cursor calls log ∧ Orderly text .leftParen log := by
  intro text cursor calls stopped
  have feed : Feed.ofText text = .token .leftParen 1
      (.refused ⟨.malformedNumber, ['1', '.', '.'], 1⟩ 4
        (.blocked ⟨.invalidCharacter, ['#'], 4⟩)) := by
    decide +kernel
  have started : Cursor.ofText text = .ok cursor := by
    rw [Cursor.ofText, feed]
    rfl
  exact ⟨started, rfl, (calls_follow_readings started 9 calls (by decide)).1⟩

end Parser

end Reckon
