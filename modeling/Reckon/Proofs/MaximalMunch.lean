import Reckon.Proofs.Acceptance
import Reckon.Proofs.Pieces

/-!
The scanner reads exactly the texts that can be cut into pieces, and its tokens are
those of the pieces. On any other text it reads the pieces in front of the fault and
then reports the fault.
-/

namespace Reckon

open Piece

def Feed.outcome : Feed → Except LexError (List Token)
  | .finished _ => .ok [.finish]
  | .blocked error | .refused error _ _ => .error error
  | .token first _ rest => rest.outcome.map (first :: ·)

section Scanning

open Acceptance

variable {pieces : List Piece} {text back : List Char}

theorem collect_eq_outcome (scanner : Scanner) : scanner.collect.1 = scanner.feed.outcome := by
  fun_induction Scanner.collect scanner with
  | case1 scanner after step =>
      rw [Scanner.feed_eq, step]
      rfl
  | case2 scanner token after step open_ tail ih =>
      rw [Scanner.feed_eq, step]
      simp only [open_, ↓reduceIte, Feed.outcome, ← ih]
      rfl
  | case3 scanner error after step =>
      rw [Scanner.feed_eq, step]
      by_cases invalid : error.reason = .invalidCharacter <;> simp [invalid, Feed.outcome]

theorem tokenize_eq_outcome (text : List Char) : tokenize text = (Feed.ofText text).outcome :=
  collect_eq_outcome _

theorem outcome_behind {feed rest : Feed} {word : List Token}
    (left : behind? feed word = some rest) : feed.outcome = rest.outcome.map (word ++ ·) := by
  induction word generalizing feed with
  | nil =>
      rw [behind?_nil left]
      cases rest.outcome <;> rfl
  | cons token word ih =>
      obtain ⟨position, tail, rfl, behind⟩ := behind?_cons left
      rw [Feed.outcome, ih behind]
      cases rest.outcome <;> rfl

theorem outcome_failed {feed : Feed} {error : LexError}
    (fails : firstReading feed = .error error) : feed.outcome = .error error := by
  cases feed <;> cases fails <;> rfl

/-- A blank is passed over, and any other piece is the next reading. -/
theorem feed_piece (piece : Piece) (apart : Apart piece.text back) (position : Nat)
    (finished : Bool) (more : List Token) :
    behind? (Scanner.feed ⟨position, piece.text ++ back, finished⟩)
        (piece.token?.toList ++ more) =
      behind? (Scanner.feed ⟨position + piece.text.length, back, finished⟩) more := by
  cases piece with
  | blank c space =>
      exact congrArg (behind? · more) (Scanner.feed_blank position back finished space)
  | symbol c token reads =>
      change behind? (Scanner.feed ⟨position, c :: back, finished⟩) (token :: more) = _
      rw [Scanner.feed_symbol position back finished reads, behind?, if_pos rfl]
      rfl
  | number run decimal size literal value =>
      have ends := apart.ends (text_ne_nil _) literal.shape.2
      have taken := takeWhile_run literal.shape.2 ends
      have left := dropWhile_run literal.shape.2 ends
      have read : readNumber run position = .ok (.number (.finite false size)) := by
        simp only [readNumber, ofLiteral?_of_literal literal, value]
      obtain ⟨c, rest, rfl, digit⟩ := literal.shape.1
      change behind? (Scanner.feed ⟨position, c :: (rest ++ back), finished⟩)
        (.number (.finite false size) :: more) = _
      rw [List.cons_append] at taken left
      rw [Scanner.feed_number position (rest ++ back) finished digit, taken, left, read,
        Feed.ofReading, behind?, if_pos rfl]
      rfl

/-- The scanner reads the pieces of a text and comes to what follows the text. -/
theorem behind?_cuts (cuts : Cuts pieces text) (apart : Apart text back) (position : Nat)
    (finished : Bool) :
    behind? (Scanner.feed ⟨position, text ++ back, finished⟩) (tokens pieces) =
      some (Scanner.feed ⟨position + text.length, back, finished⟩) := by
  induction pieces generalizing text position with
  | nil =>
      obtain rfl := cuts.covers
      simp [written, tokens, behind?]
  | cons piece pieces ih =>
      obtain ⟨rest, rfl, seam, behind⟩ := cuts.uncons
      have split : tokens (piece :: pieces) = piece.token?.toList ++ tokens pieces := by
        cases piece <;> rfl
      rw [split, List.append_assoc, feed_piece piece (seam.append_right apart),
        ih behind apart.of_append, List.length_append, Nat.add_assoc]

theorem Unreadable.firstReading {reason : LexReason} {culprit : List Char}
    (unreadable : Unreadable reason culprit back) (position : Nat) (finished : Bool) :
    firstReading (Scanner.feed ⟨position, culprit ++ back, finished⟩) =
      .error ⟨reason, culprit, position⟩ := by
  have number : ∀ error : LexError, WholeRun culprit back →
      readNumber culprit position = .error error →
      Acceptance.firstReading (Scanner.feed ⟨position, culprit ++ back, finished⟩) =
        .error error := by
    intro error whole refused
    have taken := takeWhile_run whole.numerals whole.ends
    obtain ⟨c, rest, rfl, digit⟩ := whole.starts
    rw [List.cons_append] at taken ⊢
    rw [Scanner.feed_number position (rest ++ back) finished digit, taken, refused]
    rfl
  cases unreadable with
  | @character c visible other strange =>
      change Acceptance.firstReading (Scanner.feed ⟨position, c :: back, finished⟩) = _
      rw [Scanner.feed_invalid position back finished visible other strange]
      rfl
  | shape whole malformed =>
      refine number _ whole ?_
      simp only [readNumber, ofLiteral?_eq_none.mpr malformed]
  | range whole literal large =>
      refine number _ whole ?_
      simp only [readNumber, ofLiteral?_of_literal literal, large]

theorem tokenize_cuts (cuts : Cuts pieces text) :
    tokenize text = .ok (tokens pieces ++ [.finish]) := by
  have left := behind?_cuts cuts (apart_nil text) 0 false
  rw [List.append_nil, Scanner.feed_nil] at left
  rw [tokenize_eq_outcome]
  exact outcome_behind left

/-- Behind the tokens of what can be cut, the fault is the next reading. -/
theorem Fault.reached {error : LexError} (fault : Fault text error) :
    ∃ pieces rest, Cuts pieces (text.take error.position) ∧
      behind? (.ofText text) (tokens pieces) = some rest ∧ firstReading rest = .error error := by
  cases fault with
  | @behind reason front culprit back pieces cuts apart unreadable =>
      have seam : Apart front (culprit ++ back) := by
        obtain ⟨c, rest, rfl⟩ := List.exists_cons_of_ne_nil unreadable.ne_nil
        exact apart
      refine ⟨pieces, _, ?_, behind?_cuts cuts seam 0 false, ?_⟩
      · rwa [List.take_left]
      · rw [Nat.zero_add]
        exact unreadable.firstReading front.length false

theorem tokenize_fault {error : LexError} (fault : Fault text error) :
    tokenize text = .error error := by
  obtain ⟨pieces, rest, _, left, fails⟩ := fault.reached
  rw [tokenize_eq_outcome, outcome_behind left, outcome_failed fails]
  rfl

theorem tokenize_eq_ok (text : List Char) (tokens : List Token) :
    tokenize text = .ok tokens ↔
      ∃ pieces, Cuts pieces text ∧ .finish ∉ Piece.tokens pieces ∧
        tokens = Piece.tokens pieces ++ [.finish] := by
  constructor
  · intro read
    rcases cuts_or_fault text with ⟨pieces, cuts⟩ | ⟨error, fault⟩
    · rw [tokenize_cuts cuts] at read
      exact ⟨pieces, cuts, finish_notMem_tokens pieces, (Except.ok.inj read).symm⟩
    · rw [tokenize_fault fault] at read
      cases read
  · rintro ⟨pieces, cuts, _, rfl⟩
    exact tokenize_cuts cuts

theorem tokenize_eq_error (text : List Char) (error : LexError) :
    tokenize text = .error error ↔ Fault text error := by
  constructor
  · intro refused
    rcases cuts_or_fault text with ⟨pieces, cuts⟩ | ⟨found, fault⟩
    · rw [tokenize_cuts cuts] at refused
      cases refused
    · rw [tokenize_fault fault] at refused
      cases refused
      exact fault
  · exact tokenize_fault

theorem Fault.slice {error : LexError} (fault : Fault text error) :
    (text.drop error.position).take error.text.length = error.text := by
  cases fault with
  | behind pieces cuts apart unreadable => rw [List.drop_left, List.take_left]

/-- A text yields tokens exactly when it can be cut into pieces, and these are the tokens of
the pieces in order with one end behind them; the cutting is unique. A text yields an error
exactly when the error is its fault: the error's text stands at its position, it is a
character that starts nothing or a whole run, with the reason that the fault gives, and the
text before it yields the tokens that were read so far. -/
theorem tokenize_maximal_munch (text : List Char) :
    (∀ tokens, tokenize text = .ok tokens ↔
      ∃ pieces, Cuts pieces text ∧ .finish ∉ Piece.tokens pieces ∧
        tokens = Piece.tokens pieces ++ [.finish]) ∧
    (∀ pieces pieces', Cuts pieces text → Cuts pieces' text → pieces = pieces') ∧
    (∀ error, tokenize text = .error error ↔ Fault text error) ∧
    (∀ error, tokenize text = .error error →
      (text.drop error.position).take error.text.length = error.text ∧
      ∃ produced rest, behind? (.ofText text) produced = some rest ∧
        firstReading rest = .error error ∧
        tokenize (text.take error.position) = .ok (produced ++ [.finish])) := by
  refine ⟨tokenize_eq_ok text, fun _ _ => Cuts.unique, tokenize_eq_error text, ?_⟩
  intro error refused
  have fault := (tokenize_eq_error text error).mp refused
  obtain ⟨pieces, rest, cuts, left, fails⟩ := fault.reached
  exact ⟨fault.slice, Piece.tokens pieces, rest, left, fails, tokenize_cuts cuts⟩

/-- In `1 +2..3)` the run `2..3` is refused as a whole, behind the tokens of `1 +`. -/
theorem tokenize_maximal_munch_two_points :
    let text : List Char := ['1', ' ', '+', '2', '.', '.', '3', ')']
    let error : LexError := ⟨.malformedNumber, ['2', '.', '.', '3'], 3⟩
    let produced : List Token := [.number .one, .operator .add]
    tokenize text = .error error ∧ (text.drop 3).take 4 = error.text ∧
      tokenize ['1', ' ', '+'] = .ok (produced ++ [.finish]) ∧
      ∃ rest, behind? (.ofText text) produced = some rest ∧ firstReading rest = .error error := by
  intro text error produced
  have digit : Literal ['1'] ⟨1, 0⟩ := literal_of_ofLiteral? (by decide)
  have cuts : Cuts [.number ['1'] _ ⟨Nat.pow 2 52, 1022, by decide⟩ digit (by decide +kernel),
      .blank ' ' rfl, .symbol '+' _ rfl] ['1', ' ', '+'] := by
    have ends : Ends isNumeral [' ', '+'] := by intro c head; cases head; rfl
    exact Cuts.cons ends.apart (Cuts.cons (apart_single rfl _) (Cuts.cons (apart_nil _) Cuts.nil))
  have run : WholeRun ['2', '.', '.', '3'] [')'] :=
    ⟨⟨'2', _, rfl, rfl⟩, List.all_eq_true.mp rfl, by intro c head; cases head; rfl⟩
  have seam : Apart ['1', ' ', '+'] ['2', '.', '.', '3'] := by
    intro c d last _ numeral
    cases last
    cases numeral
  have fault : Fault text error :=
    .behind _ cuts seam (.shape run (ofLiteral?_eq_none.mp (by decide)))
  obtain ⟨_, _, faulty, located⟩ := tokenize_maximal_munch text
  obtain ⟨accepted, _⟩ := tokenize_maximal_munch ['1', ' ', '+']
  have refused := (faulty error).mpr fault
  have before := (accepted (produced ++ [.finish])).mpr
    ⟨_, cuts, finish_notMem_tokens _, rfl⟩
  obtain ⟨slice, read, rest, left, fails, front⟩ := located error refused
  obtain rfl : read = produced :=
    List.append_cancel_right (Except.ok.inj (front.symm.trans before))
  exact ⟨refused, slice, before, rest, left, fails⟩

end Scanning

end Reckon
