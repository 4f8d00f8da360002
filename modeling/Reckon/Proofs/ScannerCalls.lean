import Reckon.Proofs.Pieces
import Reckon.Token.Scanner

/-!
A scanner under any sequence of calls, those that fail included. The scanner always
stands at a place of the text with the rest of the text before it, never inside a run
of digits and points, and never moves back. Each call but `drain` is one step of the
scanner or none, and a drain repeats one step, so the invariant is shown for one
reading and carried from call to call.
-/

namespace Reckon.Scanner

def reached (scanner : Scanner) (calls : List Call) : Scanner :=
  ((scanner.answers calls).map Prod.snd).getLastD scanner

theorem reached_cons (scanner : Scanner) (call : Call) (calls : List Call) :
    scanner.reached (call :: calls) = (scanner.answer call).2.reached calls := by
  simp only [reached, answers, List.map_cons, List.getLastD_cons]

inductive Reads (scanner : Scanner) : Except LexError Token × Scanner → Prop where
  | finish (ended : scanner.skipBlanks.rest = []) :
      Reads scanner (.ok .finish, { scanner.skipBlanks with finished := true })
  | number {c : Char} {left : List Char} (shape : scanner.skipBlanks.rest = c :: left)
      (digit : c.isDigit = true) : Reads scanner scanner.skipBlanks.number
  | symbol {c : Char} {left : List Char} {token : Token}
      (shape : scanner.skipBlanks.rest = c :: left) (reads : Token.ofSymbol? c = some token) :
      Reads scanner (.ok token, ⟨scanner.skipBlanks.position + 1, left, scanner.finished⟩)
  | invalid {c : Char} {left : List Char} (shape : scanner.skipBlanks.rest = c :: left)
      (other : c.isDigit = false) (strange : Token.ofSymbol? c = none) :
      Reads scanner
        (.error ⟨.invalidCharacter, [c], scanner.skipBlanks.position⟩, scanner.skipBlanks)

theorem reads_next (scanner : Scanner) : Reads scanner scanner.next := by
  unfold next token
  split
  · rename_i ended
    exact .finish ended
  · rename_i c left shape
    split
    · rename_i digit
      exact .number shape digit
    · rename_i other
      split
      · rename_i symbol reads
        exact .symbol shape reads
      · rename_i strange
        exact .invalid shape (by simpa using other) strange

structure Placed (text : List Char) (scanner : Scanner) : Prop where
  within : scanner.position ≤ text.length
  rest : scanner.rest = text.drop scanner.position
  seam : Apart (text.take scanner.position) scanner.rest
  ended : scanner.finished = true → scanner.rest = []

section Place

variable {text : List Char} {scanner : Scanner}

theorem placed_ofText (text : List Char) : Placed text (ofText text) := by
  constructor
  · exact Nat.zero_le _
  · rfl
  · intro c d last
    cases last
  · intro finished
    cases finished

theorem Placed.position_of_nil (placed : Placed text scanner) (ended : scanner.rest = []) :
    scanner.position = text.length := by
  have short := List.drop_eq_nil_iff.mp (placed.rest.symm.trans ended)
  exact Nat.le_antisymm placed.within short

/-- What stands before the scanner is passed, up to a place where no run is cut. -/
theorem Placed.pass (placed : Placed text scanner) {taken left : List Char}
    (shape : scanner.rest = taken ++ left) (seam : taken ≠ [] → Apart taken left) :
    Placed text ⟨scanner.position + taken.length, left, scanner.finished⟩ := by
  have behind : text.drop scanner.position = taken ++ left := placed.rest.symm.trans shape
  have sizes := congrArg List.length behind
  rw [List.length_drop, List.length_append] at sizes
  have within := placed.within
  constructor
  · simp only
    omega
  · rw [← List.drop_drop, behind, List.drop_left]
  · simp only [List.take_add, behind, List.take_left]
    by_cases nothing : taken = []
    · subst nothing
      rw [List.append_nil, ← List.nil_append left, ← shape]
      exact placed.seam
    · exact (seam nothing).append_left nothing
  · intro finished
    have none := placed.ended finished
    rw [shape] at none
    exact (List.append_eq_nil_iff.mp none).2

theorem Placed.skip (placed : Placed text scanner) {inRun : Char → Bool}
    (seam : Apart (scanner.rest.takeWhile inRun) (scanner.rest.dropWhile inRun)) :
    Placed text (scanner.skip inRun) :=
  placed.pass List.takeWhile_append_dropWhile.symm fun _ => seam

-- The last blank of a run is no digit and no point.
theorem Placed.skipBlanks (placed : Placed text scanner) : Placed text scanner.skipBlanks := by
  apply placed.skip
  intro c d last _ numeral
  have space := takeWhile_all isBlank scanner.rest c (List.mem_of_getLast? last)
  rw [isBlank_not_numeral space] at numeral
  cases numeral

theorem Placed.number (placed : Placed text scanner) : Placed text scanner.number.2 :=
  placed.skip (dropWhile_ends isNumeral scanner.rest).apart

theorem Placed.next (placed : Placed text scanner) : Placed text scanner.next.2 := by
  have start := placed.skipBlanks
  have step := reads_next scanner
  generalize scanner.next = result at step
  cases step with
  | finish ended => exact ⟨start.within, start.rest, start.seam, fun _ => ended⟩
  | number shape digit => exact start.number
  | @symbol c left token shape reads =>
      have seam := apart_single (ofSymbol?_apart reads).2.1 left
      exact start.pass (show scanner.skipBlanks.rest = [c] ++ left from shape) fun _ => seam
  | invalid shape other strange => exact start

end Place

theorem skip_position (scanner : Scanner) (inRun : Char → Bool) :
    scanner.position ≤ (scanner.skip inRun).position :=
  Nat.le_add_right _ _

theorem next_position (scanner : Scanner) : scanner.position ≤ scanner.next.2.position := by
  have start : scanner.position ≤ scanner.skipBlanks.position := scanner.skip_position isBlank
  have step := reads_next scanner
  generalize scanner.next = result at step
  cases step with
  | finish ended => exact start
  | number shape digit => exact Nat.le_trans start (scanner.skipBlanks.skip_position isNumeral)
  | symbol shape reads => exact Nat.le_succ_of_le start
  | invalid shape other strange => exact start

section Outcomes

variable {text : List Char} {scanner after : Scanner} {token : Token} {error : LexError}

/-- A token other than the end has been passed. -/
theorem next_token (read : scanner.next = (.ok token, after)) (open_ : token ≠ .finish) :
    scanner.position < after.position ∧ after.finished = scanner.finished := by
  have start : scanner.position ≤ scanner.skipBlanks.position := scanner.skip_position isBlank
  have step := reads_next scanner
  generalize result : scanner.next = found at step
  cases step with
  | finish ended =>
      cases result.symm.trans read
      exact absurd rfl open_
  | number shape digit =>
      have moved := congrArg Prod.snd (result.symm.trans read)
      subst moved
      have run : 0 < (scanner.skipBlanks.rest.takeWhile isNumeral).length := by
        rw [shape, List.takeWhile_cons_of_pos (isNumeral_of_isDigit digit)]
        exact Nat.succ_pos _
      exact ⟨Nat.lt_of_le_of_lt start (Nat.lt_add_of_pos_right run), rfl⟩
  | symbol shape reads =>
      cases result.symm.trans read
      exact ⟨Nat.lt_succ_of_le start, rfl⟩
  | invalid shape other strange => cases result.symm.trans read

/-- The end is reported where nothing is left. -/
theorem next_finish (read : scanner.next = (.ok .finish, after)) : after.rest = [] := by
  have step := reads_next scanner
  generalize result : scanner.next = found at step
  cases step with
  | finish ended =>
      cases result.symm.trans read
      exact ended
  | number shape digit =>
      exact absurd (congrArg Prod.fst (result.symm.trans read)) (readNumber_ne_finish _ _)
  | symbol shape reads =>
      cases result.symm.trans read
      exact absurd rfl (ofSymbol?_apart reads).2.2
  | invalid shape other strange => cases result.symm.trans read

theorem skipBlanks_skipBlanks (scanner : Scanner) :
    scanner.skipBlanks.skipBlanks = scanner.skipBlanks := by
  have ends := dropWhile_ends isBlank scanner.rest
  simp only [skipBlanks, skip, ends.takeWhile, ends.dropWhile, List.length_nil, Nat.add_zero]

/-- A character that starts nothing stays where it is, and is met again. -/
theorem next_invalid (failed : scanner.next = (.error error, after))
    (invalid : error.reason = .invalidCharacter) :
    after.next = (.error error, after) ∧ after.finished = scanner.finished ∧
      after.position = error.position ∧ ∃ c left, after.rest = c :: left ∧ error.text = [c] := by
  have step := reads_next scanner
  generalize result : scanner.next = found at step
  cases step with
  | finish ended => cases result.symm.trans failed
  | number shape digit =>
      have refused := congrArg Prod.fst (result.symm.trans failed)
      exact absurd invalid (readNumber_reason refused)
  | symbol shape reads => cases result.symm.trans failed
  | invalid shape other strange =>
      cases result.symm.trans failed
      refine ⟨?_, rfl, rfl, _, _, shape, rfl⟩
      rw [next, skipBlanks_skipBlanks]
      exact result

/-- A run of digits and points at a place of the text, as long as it can be to either
side. -/
structure MaximalRun (text : List Char) (position : Nat) (run : List Char) : Prop where
  numerals : ∀ c ∈ run, isNumeral c = true
  starts : Apart (text.take position) run
  ends : ∃ back, text.drop position = run ++ back ∧ Ends isNumeral back

theorem readNumber_error {run : List Char} {position : Nat}
    (refused : readNumber run position = .error error) :
    error.text = run ∧ error.position = position := by
  unfold readNumber at refused
  split at refused
  · cases refused
    exact ⟨rfl, rfl⟩
  · split at refused
    · cases refused
      exact ⟨rfl, rfl⟩
    · cases refused

/-- A run that is refused has been passed as a whole. -/
theorem number_failed (placed : Placed text scanner)
    (failed : scanner.number = (.error error, after)) :
    error.reason ≠ .invalidCharacter ∧ MaximalRun text error.position error.text ∧
      after.position = error.position + error.text.length := by
  have refused := congrArg Prod.fst failed
  have moved := congrArg Prod.snd failed
  obtain ⟨run, place⟩ := readNumber_error refused
  subst moved
  rw [run, place]
  refine ⟨readNumber_reason refused, ?_, rfl⟩
  constructor
  · exact takeWhile_all isNumeral scanner.rest
  · have seam := placed.seam
    rw [← List.takeWhile_append_dropWhile (p := isNumeral) (l := scanner.rest)] at seam
    exact seam.of_append_right
  · refine ⟨scanner.rest.dropWhile isNumeral, ?_, dropWhile_ends isNumeral scanner.rest⟩
    rw [List.takeWhile_append_dropWhile, placed.rest]

theorem next_refused (placed : Placed text scanner) (failed : scanner.next = (.error error, after))
    (other : error.reason ≠ .invalidCharacter) :
    MaximalRun text error.position error.text ∧
      after.position = error.position + error.text.length := by
  have step := reads_next scanner
  generalize result : scanner.next = found at step
  cases step with
  | finish ended => cases result.symm.trans failed
  | number shape digit => exact (number_failed placed.skipBlanks (result.symm.trans failed)).2
  | symbol shape reads => cases result.symm.trans failed
  | invalid shape digit strange =>
      cases result.symm.trans failed
      exact absurd rfl other

end Outcomes

inductive Passes : Scanner → List Token → Scanner → Prop where
  | nil (scanner : Scanner) : Passes scanner [] scanner
  | cons {scanner middle after : Scanner} {token : Token} {tokens : List Token}
      (read : scanner.next = (.ok token, middle)) (open_ : token ≠ .finish)
      (behind : Passes middle tokens after) : Passes scanner (token :: tokens) after

namespace Passes

variable {text : List Char} {scanner after : Scanner} {tokens : List Token}

theorem placed (passes : Passes scanner tokens after) (placed : Placed text scanner) :
    Placed text after := by
  induction passes with
  | nil scanner => exact placed
  | cons read open_ behind ih =>
      apply ih
      have next := placed.next
      rwa [read] at next

theorem position_le (passes : Passes scanner tokens after) :
    scanner.position + tokens.length ≤ after.position := by
  induction passes with
  | nil scanner => exact Nat.le_refl _
  | cons read open_ behind ih =>
      have first := (next_token read open_).1
      rw [List.length_cons]
      omega

theorem finished_eq (passes : Passes scanner tokens after) :
    after.finished = scanner.finished := by
  induction passes with
  | nil scanner => rfl
  | cons read open_ behind ih => exact ih.trans (next_token read open_).2

theorem finish_notMem (passes : Passes scanner tokens after) : .finish ∉ tokens := by
  induction passes with
  | nil scanner => exact List.not_mem_nil
  | cons read open_ behind ih =>
      intro member
      rcases List.mem_cons.mp member with same | later
      · exact open_ same.symm
      · exact ih later

end Passes

/-- Gathering passes tokens up to a last reading, which is the end or a failure. -/
theorem collect_cases (scanner : Scanner) :
    ∃ tokens middle, Passes scanner tokens middle ∧
      ((∃ after, middle.next = (.ok .finish, after) ∧
        scanner.collect = (.ok (tokens ++ [.finish]), after)) ∨
      ∃ error after, middle.next = (.error error, after) ∧
        scanner.collect = (.error error, after)) := by
  fun_induction collect scanner with
  | case1 scanner after step =>
      exact ⟨[], scanner, .nil scanner, Or.inl ⟨after, step, rfl⟩⟩
  | case2 scanner token after step open_ tail ih =>
      obtain ⟨tokens, middle, behind, last⟩ := ih
      refine ⟨token :: tokens, middle, .cons step open_ behind, ?_⟩
      rcases last with ⟨final, ended, gathered⟩ | ⟨error, final, failed, gathered⟩
      · exact Or.inl ⟨final, ended, by simp only [tail, gathered]; rfl⟩
      · exact Or.inr ⟨error, final, failed, by simp only [tail, gathered]; rfl⟩
  | case3 scanner error after step =>
      exact ⟨[], scanner, .nil scanner, Or.inr ⟨error, after, step, rfl⟩⟩

section Calls

variable {text : List Char} {scanner after : Scanner} {error : LexError}

theorem collect_placed (placed : Placed text scanner) :
    Placed text scanner.collect.2 ∧ scanner.position ≤ scanner.collect.2.position := by
  obtain ⟨tokens, middle, passes, last⟩ := collect_cases scanner
  have moved := Nat.le_trans (Nat.le_add_right _ _) passes.position_le
  have onward := Nat.le_trans moved middle.next_position
  have next := (passes.placed placed).next
  rcases last with ⟨final, read, gathered⟩ | ⟨error, final, read, gathered⟩
  · rw [read] at next onward
    rw [gathered]
    exact ⟨next, onward⟩
  · rw [read] at next onward
    rw [gathered]
    exact ⟨next, onward⟩

/-- One call keeps the place and does not move back. -/
theorem answer_placed (placed : Placed text scanner) (call : Call) :
    Placed text (scanner.answer call).2 ∧ scanner.position ≤ (scanner.answer call).2.position := by
  have next := And.intro placed.next scanner.next_position
  cases call with
  | next => exact next
  | step =>
      unfold answer next?
      by_cases finished : scanner.finished = true
      · simp only [finished, ↓reduceIte]
        exact ⟨placed, Nat.le_refl _⟩
      · simp only [finished]
        exact next
  | peek => exact ⟨placed, Nat.le_refl _⟩
  | skipBlanks => exact ⟨placed.skipBlanks, scanner.skip_position isBlank⟩
  | number => exact ⟨placed.number, scanner.skip_position isNumeral⟩
  | drain =>
      unfold answer drain
      by_cases finished : scanner.finished = true
      · simp only [finished, ↓reduceIte]
        exact ⟨placed, Nat.le_refl _⟩
      · simp only [finished]
        exact collect_placed placed

theorem reached_placed (placed : Placed text scanner) (calls : List Call) :
    Placed text (scanner.reached calls) := by
  induction calls generalizing scanner with
  | nil => exact placed
  | cons call calls ih =>
      rw [reached_cons]
      exact ih (answer_placed placed call).1

theorem ofOutcome_failed {α : Type} {succeed : α → Answer} {outcome : Except LexError α}
    (silent : ∀ value, succeed value ≠ .failed error)
    (failed : Answer.ofOutcome succeed outcome = .failed error) : outcome = .error error := by
  cases outcome with
  | ok value => exact absurd failed (silent value)
  | error found =>
      cases failed
      rfl

/-- A call that fails ends in a reading that fails, from where the tokens before it have
led. -/
theorem answer_failed (placed : Placed text scanner) {call : Call}
    (failed : scanner.answer call = (.failed error, after)) :
    ∃ middle, Placed text middle ∧ middle.finished = scanner.finished ∧
      (middle.next = (.error error, after) ∨ middle.number = (.error error, after)) := by
  have reading : ∀ {outcome : Except LexError Token},
      Answer.ofOutcome .token outcome = .failed error → outcome = .error error :=
    ofOutcome_failed fun _ => Answer.noConfusion
  have answered := congrArg Prod.fst failed
  have moved := congrArg Prod.snd failed
  cases call with
  | next => exact ⟨scanner, placed, rfl, Or.inl (Prod.ext (reading answered) moved)⟩
  | step =>
      unfold answer next? at answered moved
      by_cases finished : scanner.finished = true
      · simp only [finished, ↓reduceIte] at answered
        cases answered
      · simp only [finished] at answered moved
        exact ⟨scanner, placed, rfl, Or.inl (Prod.ext (reading answered) moved)⟩
  | peek => cases answered
  | skipBlanks => cases answered
  | number => exact ⟨scanner, placed, rfl, Or.inr (Prod.ext (reading answered) moved)⟩
  | drain =>
      unfold answer drain at answered moved
      by_cases finished : scanner.finished = true
      · simp only [finished, ↓reduceIte] at answered
        cases answered
      · simp only [finished] at answered moved
        obtain ⟨tokens, middle, passes, last⟩ := collect_cases scanner
        refine ⟨middle, passes.placed placed, passes.finished_eq, Or.inl ?_⟩
        rcases last with ⟨final, read, gathered⟩ | ⟨found, final, read, gathered⟩
        · simp only [gathered] at answered
          cases answered
        · simp only [gathered] at answered moved
          cases answered
          cases moved
          exact read

theorem answer_next {token : Token} (answered : scanner.answer .next = (.token token, after)) :
    scanner.next = (.ok token, after) := by
  have read := congrArg Prod.fst answered
  have moved := congrArg Prod.snd answered
  simp only [answer] at read moved
  cases outcome : scanner.next.1 with
  | ok found =>
      rw [outcome] at read
      cases read
      exact Prod.ext outcome moved
  | error error =>
      rw [outcome] at read
      cases read

-- Every token but the end takes at least one of the characters that are left.
theorem drain_bounded (placed : Placed text scanner) (unfinished : scanner.finished = false) :
    (∃ error after, scanner.answer .drain = (.failed error, after)) ∨
    ∃ tokens after, scanner.answer .drain = (.tokens (tokens ++ [.finish]), after) ∧
      .finish ∉ tokens ∧ tokens.length + 1 ≤ text.length - scanner.position + 1 := by
  have drained : scanner.answer .drain =
      (Answer.ofOutcome .tokens scanner.collect.1, scanner.collect.2) := by
    simp only [answer, drain, unfinished, Bool.false_eq_true, ↓reduceIte]
  obtain ⟨tokens, middle, passes, last⟩ := collect_cases scanner
  rcases last with ⟨final, read, gathered⟩ | ⟨error, final, read, gathered⟩
  · right
    refine ⟨tokens, final, ?_, passes.finish_notMem, ?_⟩
    · rw [drained, gathered]
      rfl
    · have moved := passes.position_le
      have within := (passes.placed placed).within
      omega
  · left
    refine ⟨error, final, ?_⟩
    rw [drained, gathered]
    rfl

def Call.atEnd (position : Nat) : Call → Answer
  | .next => .token .finish
  | .step => .exhausted
  | .peek => .char none
  | .skipBlanks => .done
  | .number => .failed ⟨.malformedNumber, [], position⟩
  | .drain => .tokens []

theorem answer_atEnd (ended : scanner.rest = []) (finished : scanner.finished = true)
    (call : Call) : scanner.answer call = (call.atEnd scanner.position, scanner) := by
  obtain ⟨position, rest, done⟩ := scanner
  simp only at ended finished
  subst ended
  subst finished
  cases call <;> rfl

theorem answers_fixed {calls : List Call} {answer : Call → Answer}
    (fixed : ∀ call ∈ calls, scanner.answer call = (answer call, scanner)) :
    scanner.answers calls = calls.map fun call => (answer call, scanner) := by
  induction calls with
  | nil => rfl
  | cons call calls ih =>
      have first := fixed call List.mem_cons_self
      have others := ih fun later member => fixed later (List.mem_cons_of_mem call member)
      simp only [answers, first, others, List.map_cons]

end Calls

structure KeepsPlace (text : List Char) (scanner : Scanner) : Prop where
  within : scanner.position ≤ text.length
  rest : scanner.rest = text.drop scanner.position
  forward : ∀ call, scanner.position ≤ (scanner.answer call).2.position
  ended : scanner.finished = true → scanner.position = text.length ∧
    ∀ more, scanner.answers more = more.map fun call => (call.atEnd text.length, scanner)
  moves : ∀ token after, scanner.answer .next = (.token token, after) → token ≠ .finish →
    scanner.position < after.position
  drains : scanner.finished = false →
    (∃ error after, scanner.answer .drain = (.failed error, after)) ∨
    ∃ tokens after, scanner.answer .drain = (.tokens (tokens ++ [.finish]), after) ∧
      .finish ∉ tokens ∧ tokens.length + 1 ≤ text.length - scanner.position + 1
  stuck : ∀ call error after, scanner.answer call = (.failed error, after) →
    error.reason = .invalidCharacter →
    after.position = error.position ∧ after.finished = scanner.finished ∧
    (∃ c, text[error.position]? = some c ∧ error.text = [c]) ∧
    ∀ count, after.answers (List.replicate count .next) =
      List.replicate count (.failed error, after)
  passed : ∀ call error after, scanner.answer call = (.failed error, after) →
    error.reason ≠ .invalidCharacter →
    MaximalRun text error.position error.text ∧
    after.position = error.position + error.text.length

/-- After any calls on a scanner of a text, whether they failed or not, the scanner stands at
a place of the text, and no call moves it back. Once the end has been reported, it stands at
the end and stays as it is, and every call has one answer for ever. A token other than the
end moves it forward, so a drain ends after as many tokens as there are characters left, with
the end behind them and not among them, or with an error. A character that starts nothing is
where the scanner stops, and reading again meets it again; a number that is refused is the
whole run at its place, and the scanner stops behind it. -/
theorem calls_keep_place (text : List Char) (calls : List Call) :
    KeepsPlace text ((ofText text).reached calls) := by
  let scanner := (ofText text).reached calls
  have placed : Placed text scanner := reached_placed (placed_ofText text) calls
  constructor
  case within => exact placed.within
  case rest => exact placed.rest
  case forward => exact fun call => (answer_placed placed call).2
  case ended =>
    intro finished
    have ended := placed.ended finished
    have position := placed.position_of_nil ended
    refine ⟨position, fun more => answers_fixed fun call _ => ?_⟩
    rw [← position]
    exact answer_atEnd ended finished call
  case moves =>
    intro token after answered open_
    exact (next_token (answer_next answered) open_).1
  case drains => exact drain_bounded placed
  case stuck =>
    intro call error after failed invalid
    obtain ⟨middle, place, same, reading⟩ := answer_failed placed failed
    have read : middle.next = (.error error, after) := by
      apply reading.resolve_right
      intro number
      exact (number_failed place number).1 invalid
    obtain ⟨again, finished, position, c, left, shape, culprit⟩ := next_invalid read invalid
    have standing := place.next
    rw [read] at standing
    refine ⟨position, finished.trans same, ⟨c, ?_, culprit⟩, ?_⟩
    · rw [← position, ← List.head?_drop, ← standing.rest, shape]
      rfl
    · intro count
      have fixed : ∀ call ∈ List.replicate count Call.next,
          after.answer call = (.failed error, after) := by
        intro call member
        rw [List.eq_of_mem_replicate member, answer, again]
        rfl
      rw [answers_fixed fixed, List.map_replicate]
  case passed =>
    intro call error after failed other
    obtain ⟨middle, place, _, reading⟩ := answer_failed placed failed
    rcases reading with read | read
    · exact next_refused place read other
    · exact (number_failed place read).2

/-- In ` 1..#` the first reading refuses the run `1..` and stops behind it, and every further
one stops at `#`. On the empty text, once the end has been reported, a number is refused
without moving. -/
theorem calls_keep_place_behind_failures :
    let text : List Char := [' ', '1', '.', '.', '#']
    let refused : LexError := ⟨.malformedNumber, ['1', '.', '.'], 1⟩
    let invalid : LexError := ⟨.invalidCharacter, ['#'], 4⟩
    let behind : Scanner := ⟨4, ['#'], false⟩
    (ofText text).answer .next = (.failed refused, behind) ∧
    MaximalRun text 1 ['1', '.', '.'] ∧
    (∀ count, behind.answers (List.replicate count .next) =
      List.replicate count (.failed invalid, behind)) ∧
    (ofText []).answers [.next, .number, .step] =
      [(.token .finish, ⟨0, [], true⟩),
        (.failed ⟨.malformedNumber, [], 0⟩, ⟨0, [], true⟩), (.exhausted, ⟨0, [], true⟩)] := by
  intro text refused invalid behind
  have first : (ofText text).answer .next = (.failed refused, behind) := by decide
  have second : behind.answer .next = (.failed invalid, behind) := by decide
  obtain ⟨run, _⟩ := (calls_keep_place text []).passed .next refused behind first (by decide)
  obtain ⟨_, _, _, met⟩ :=
    (calls_keep_place text [.next]).stuck .next invalid behind second rfl
  obtain ⟨_, rests⟩ := (calls_keep_place [] [.next]).ended rfl
  exact ⟨first, run, met, congrArg _ (rests [.number, .step])⟩

end Reckon.Scanner
