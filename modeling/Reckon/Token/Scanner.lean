import Reckon.Token.Basic

/-!
A scanner stands at a position of a text and reads one token at a time. Blanks
between tokens are skipped. A number is the longest run of digits and points,
and is accepted only as a whole: digits, or digits, one point and digits, with a
finite value. A run that is refused has been passed over; a character that
starts no token has not, so the scanner stays in front of it.

All the readings of a text in order: `Scanner.collect` gathers tokens up to the
end or the first failure. A `Feed` also goes on after failures, as a reader that
keeps asking for tokens does: a number that was refused has been passed over, so
readings follow it, while a character that starts no token is met again for ever.

`Scanner.answers` puts a scanner under a sequence of calls. Whatever a call answers, a
failure included, the next call finds the scanner that it left.
-/

namespace Reckon

inductive LexReason where
  | invalidCharacter
  | malformedNumber
  | outOfRange
  deriving DecidableEq, Repr

def LexReason.message : LexReason → String
  | .invalidCharacter => "invalid character"
  | .malformedNumber => "malformed number"
  | .outOfRange => "number out of range"

/-- What could not be read, and where it starts. -/
structure LexError where
  reason : LexReason
  text : List Char
  position : Nat
  deriving DecidableEq

def LexError.message (error : LexError) : String :=
  error.reason.message ++ " '" ++ String.ofList error.text ++ "' at position "
    ++ String.ofList (digitsOf error.position)

def isBlank (c : Char) : Bool :=
  c = ' ' || c = '\t' || c = '\r' || c = '\n'

def isNumeral (c : Char) : Bool :=
  c.isDigit || c = '.'

def readNumber (run : List Char) (position : Nat) : Except LexError Token :=
  match Decimal.ofLiteral? run with
  | none => .error ⟨.malformedNumber, run, position⟩
  | some decimal =>
      match decimal.nearest? with
      | none => .error ⟨.outOfRange, run, position⟩
      | some magnitude => .ok (.number (.finite false magnitude))

/-- `finished` is set once the end of the text has been reported. -/
structure Scanner where
  position : Nat
  rest : List Char
  finished : Bool
  deriving DecidableEq

namespace Scanner

def ofText (text : List Char) : Scanner := ⟨0, text, false⟩

def peek (scanner : Scanner) : Option Char := scanner.rest.head?

/-- Passes over the longest run of characters of a class. -/
def skip (scanner : Scanner) (inRun : Char → Bool) : Scanner :=
  { scanner with
    position := scanner.position + (scanner.rest.takeWhile inRun).length
    rest := scanner.rest.dropWhile inRun }

def skipBlanks (scanner : Scanner) : Scanner := scanner.skip isBlank

/-- Reads the run of digits and points at the present position, even an empty one. -/
def number (scanner : Scanner) : Except LexError Token × Scanner :=
  (readNumber (scanner.rest.takeWhile isNumeral) scanner.position, scanner.skip isNumeral)

/-- Reads the token that starts at the present position, where no blank stands. The
end of the text is a token too, any number of times. -/
def token (scanner : Scanner) : Except LexError Token × Scanner :=
  match scanner.rest with
  | [] => (.ok .finish, { scanner with finished := true })
  | c :: rest =>
      if c.isDigit then scanner.number
      else match Token.ofSymbol? c with
        | some token => (.ok token, { scanner with position := scanner.position + 1, rest })
        | none => (.error ⟨.invalidCharacter, [c], scanner.position⟩, scanner)

def next (scanner : Scanner) : Except LexError Token × Scanner :=
  scanner.skipBlanks.token

theorem skip_rest_length (scanner : Scanner) (inRun : Char → Bool) :
    (scanner.skip inRun).rest.length ≤ scanner.rest.length :=
  (List.dropWhile_suffix inRun).length_le

theorem number_shorter (scanner : Scanner) (c : Char) (rest : List Char)
    (shape : scanner.rest = c :: rest) (digit : c.isDigit) :
    scanner.number.2.rest.length < scanner.rest.length := by
  have run := (List.dropWhile_suffix isNumeral (l := rest)).length_le
  have numeral : isNumeral c = true := by simp [isNumeral, digit]
  simp only [number, skip, shape, List.dropWhile_cons, numeral, ↓reduceIte, List.length_cons]
  omega

/-- Whatever is read or refused shortens the text, except the end of the text and a
character that starts no token. -/
theorem token_shorter (scanner : Scanner) (moved : scanner.token.1 ≠ .ok .finish)
    (passed : ∀ error, scanner.token.1 = .error error → error.reason ≠ .invalidCharacter) :
    scanner.token.2.rest.length < scanner.rest.length := by
  unfold token at moved passed ⊢
  split
  · simp_all
  · rename_i c rest shape
    split
    · rename_i digit
      simpa [shape] using number_shorter scanner c rest shape digit
    · split <;> simp_all

theorem next_shorter (scanner : Scanner) (moved : scanner.next.1 ≠ .ok .finish)
    (passed : ∀ error, scanner.next.1 = .error error → error.reason ≠ .invalidCharacter) :
    scanner.next.2.rest.length < scanner.rest.length :=
  Nat.lt_of_lt_of_le (token_shorter scanner.skipBlanks moved passed)
    (skip_rest_length scanner isBlank)

end Scanner

inductive Feed where
  | finished (position : Nat)
  | blocked (error : LexError)
  | token (token : Token) (position : Nat) (rest : Feed)
  | refused (error : LexError) (position : Nat) (rest : Feed)
  deriving DecidableEq

/-- The number of readings before the feed comes to its end. -/
def Feed.length : Feed → Nat
  | .finished _ | .blocked _ => 0
  | .token _ _ rest | .refused _ _ rest => rest.length + 1

namespace Scanner

/-- Positions are those of the scanner after the reading. -/
def feed (scanner : Scanner) : Feed :=
  match _step : scanner.next with
  | (.ok token, after) =>
      if token = .finish then .finished after.position
      else .token token after.position after.feed
  | (.error error, after) =>
      if error.reason = .invalidCharacter then .blocked error
      else .refused error after.position after.feed
termination_by scanner.rest.length
decreasing_by
  all_goals
    have shorter := scanner.next_shorter
    simp_all

/-- The tokens up to and including the end of the text, or the failure met first. -/
def collect (scanner : Scanner) : Except LexError (List Token) × Scanner :=
  match _step : scanner.next with
  | (.ok token, after) =>
      if token = .finish then (.ok [.finish], after)
      else
        let tail := after.collect
        (tail.1.map (token :: ·), tail.2)
  | (.error error, after) => (.error error, after)
termination_by scanner.rest.length
decreasing_by
  have shorter := scanner.next_shorter
  simp_all

/-- Like `next`, but `none` once the end of the text has been reported. -/
def next? (scanner : Scanner) : Option (Except LexError Token) × Scanner :=
  if scanner.finished then (none, scanner)
  else (some scanner.next.1, scanner.next.2)

/-- The tokens still to come; none once the end of the text has been reported. -/
def drain (scanner : Scanner) : Except LexError (List Token) × Scanner :=
  if scanner.finished then (.ok [], scanner) else scanner.collect

end Scanner

def tokenize (text : List Char) : Except LexError (List Token) :=
  (Scanner.ofText text).collect.1

def Feed.ofText (text : List Char) : Feed :=
  (Scanner.ofText text).feed

namespace Scanner

inductive Call where
  | next
  | step
  | peek
  | skipBlanks
  | number
  | drain
  deriving DecidableEq, Repr

inductive Answer where
  | token (token : Token)
  | tokens (tokens : List Token)
  | char (c : Option Char)
  | done
  | exhausted
  | failed (error : LexError)
  deriving DecidableEq

def Answer.ofOutcome {α : Type} (succeed : α → Answer) : Except LexError α → Answer
  | .ok a => succeed a
  | .error error => .failed error

/-- `step` is `next` for a caller that stops at the end of the text. -/
def answer (scanner : Scanner) : Call → Answer × Scanner
  | .next => (.ofOutcome .token scanner.next.1, scanner.next.2)
  | .step =>
      match scanner.next? with
      | (none, after) => (.exhausted, after)
      | (some outcome, after) => (.ofOutcome .token outcome, after)
  | .peek => (.char scanner.peek, scanner)
  | .skipBlanks => (.done, scanner.skipBlanks)
  | .number => (.ofOutcome .token scanner.number.1, scanner.number.2)
  | .drain =>
      let (outcome, after) := scanner.drain
      (.ofOutcome .tokens outcome, after)

def answers (scanner : Scanner) : List Call → List (Answer × Scanner)
  | [] => []
  | call :: rest =>
      let first := scanner.answer call
      first :: first.2.answers rest

end Scanner

end Reckon
