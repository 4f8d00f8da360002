import Reckon.Token.Scanner

/-!
What the readings of a text are, character by character, and the tokens that a
feed without failures shows.
-/

namespace Reckon

def Feed.tokens? : Feed → Option (List Token)
  | .finished _ => some [.finish]
  | .token first _ rest => if first = .finish then none else rest.tokens?.map (first :: ·)
  | .blocked _ | .refused _ _ _ => none

theorem ofSymbol?_eq_some {c : Char} {token : Token} (reads : Token.ofSymbol? c = some token) :
    (c = '(' ∧ token = .leftParen) ∨ (c = ')' ∧ token = .rightParen) ∨
      ∃ op : Operator, c = op.symbol ∧ token = .operator op := by
  unfold Token.ofSymbol? at reads
  split at reads
  · exact Or.inl ⟨rfl, (Option.some.inj reads).symm⟩
  · exact Or.inr (Or.inl ⟨rfl, (Option.some.inj reads).symm⟩)
  · obtain ⟨op, found, rfl⟩ := Option.map_eq_some_iff.mp reads
    have symbol := List.find?_some found
    exact Or.inr (Or.inr ⟨op, (of_decide_eq_true symbol).symm, rfl⟩)

theorem ofSymbol?_symbol (op : Operator) : Token.ofSymbol? op.symbol = some (.operator op) := by
  cases op <;> decide

/-- A symbol is neither a blank nor part of a number, and no symbol stands for the end. -/
theorem ofSymbol?_apart {c : Char} {token : Token} (reads : Token.ofSymbol? c = some token) :
    isBlank c = false ∧ isNumeral c = false ∧ token ≠ .finish := by
  rcases ofSymbol?_eq_some reads with ⟨rfl, rfl⟩ | ⟨rfl, rfl⟩ | ⟨op, rfl, rfl⟩
  · decide
  · decide
  · cases op <;> decide

theorem isNumeral_of_isDigit {c : Char} (digit : c.isDigit) : isNumeral c := by
  simp [isNumeral, digit]

theorem isNumeral_not_blank {c : Char} (numeral : isNumeral c) : isBlank c = false := by
  by_cases blank : isBlank c = true
  · simp only [isBlank, Bool.or_eq_true, decide_eq_true_eq] at blank
    rcases blank with ((rfl | rfl) | rfl) | rfl <;> exact absurd numeral (by decide)
  · simpa using blank

/-- What the readings of a text are made of: the end is no token among others, and
numbers are finite and not negative. -/
def Feed.WellFormed : Feed → Prop
  | .finished _ | .blocked _ => True
  | .token first _ rest =>
      first ≠ .finish ∧ (∀ value, first = .number value → ∃ size, value = .finite false size) ∧
        rest.WellFormed
  | .refused _ _ rest => rest.WellFormed

def Feed.ofReading (outcome : Except LexError Token) (position : Nat) (rest : Feed) : Feed :=
  match outcome with
  | .ok read => .token read position rest
  | .error error => .refused error position rest

theorem readNumber_eq_ok {run : List Char} {position : Nat} {token : Token}
    (read : readNumber run position = .ok token) :
    ∃ size, token = .number (.finite false size) := by
  unfold readNumber at read
  split at read
  · cases read
  · split at read
    · cases read
    · cases read
      exact ⟨_, rfl⟩

theorem readNumber_ne_finish (run : List Char) (position : Nat) :
    readNumber run position ≠ .ok .finish := by
  intro read
  obtain ⟨size, same⟩ := readNumber_eq_ok read
  cases same

theorem readNumber_reason {run : List Char} {position : Nat} {error : LexError}
    (refused : readNumber run position = .error error) : error.reason ≠ .invalidCharacter := by
  unfold readNumber at refused
  split at refused
  · cases refused; simp
  · split at refused
    · cases refused; simp
    · cases refused

namespace Scanner

variable (position : Nat) (rest : List Char) (finished : Bool)

theorem feed_eq (scanner : Scanner) :
    scanner.feed =
      match scanner.next with
      | (.ok token, after) =>
          if token = .finish then .finished after.position
          else .token token after.position after.feed
      | (.error error, after) =>
          if error.reason = .invalidCharacter then .blocked error
          else .refused error after.position after.feed := by
  rw [feed]
  split <;> rename_i step <;> simp [step]

theorem feed_nil : feed ⟨position, [], finished⟩ = .finished position := by
  rw [feed_eq]
  rfl

/-- A blank in front only moves the position. -/
theorem feed_blank {c : Char} (blank : isBlank c) :
    feed ⟨position, c :: rest, finished⟩ = feed ⟨position + 1, rest, finished⟩ := by
  have same : next ⟨position, c :: rest, finished⟩ = next ⟨position + 1, rest, finished⟩ := by
    simp only [next, skipBlanks, skip, List.takeWhile_cons, List.dropWhile_cons, blank, ↓reduceIte,
      List.length_cons]
    congr 2
    omega
  rw [feed_eq, same, ← feed_eq]

theorem next_cons {c : Char} (visible : isBlank c = false) :
    next ⟨position, c :: rest, finished⟩ = token ⟨position, c :: rest, finished⟩ := by
  simp [next, skipBlanks, skip, visible]

theorem feed_symbol {c : Char} {symbol : Token} (reads : Token.ofSymbol? c = some symbol) :
    feed ⟨position, c :: rest, finished⟩ =
      .token symbol (position + 1) (feed ⟨position + 1, rest, finished⟩) := by
  obtain ⟨visible, apart, open_⟩ := ofSymbol?_apart reads
  have digit : c.isDigit = false := by
    simp only [isNumeral, Bool.or_eq_false_iff] at apart
    exact apart.1
  rw [feed_eq, next_cons position rest finished visible]
  simp [token, digit, reads, open_]

-- A digit starts a run, which is read or refused as a whole.
theorem feed_number {c : Char} (digit : c.isDigit) :
    feed ⟨position, c :: rest, finished⟩ =
      .ofReading (readNumber ((c :: rest).takeWhile isNumeral) position)
        (position + ((c :: rest).takeWhile isNumeral).length)
        (feed ⟨position + ((c :: rest).takeWhile isNumeral).length,
          (c :: rest).dropWhile isNumeral, finished⟩) := by
  have visible := isNumeral_not_blank (isNumeral_of_isDigit digit)
  rw [feed_eq, next_cons position rest finished visible]
  simp only [token, digit, ↓reduceIte, number, skip]
  cases outcome : readNumber ((c :: rest).takeWhile isNumeral) position with
  | ok read =>
      have open_ : read ≠ .finish := by
        rintro rfl
        exact readNumber_ne_finish _ position outcome
      simp [open_, Feed.ofReading]
  | error error =>
      have refused := readNumber_reason outcome
      simp [refused, Feed.ofReading]

/-- What starts no token blocks everything behind it. -/
theorem feed_invalid {c : Char} (visible : isBlank c = false) (digit : c.isDigit = false)
    (reads : Token.ofSymbol? c = none) :
    feed ⟨position, c :: rest, finished⟩ = .blocked ⟨.invalidCharacter, [c], position⟩ := by
  rw [feed_eq, next_cons position rest finished visible]
  simp [token, digit, reads]

theorem number_value {run : List Char} {position : Nat} {value : Double}
    (read : readNumber run position = .ok (.number value)) :
    ∃ size, value = .finite false size := by
  obtain ⟨size, same⟩ := readNumber_eq_ok read
  exact ⟨size, Token.number.inj same⟩

theorem next_value {scanner after : Scanner} {value : Double}
    (read : scanner.next = (.ok (.number value), after)) :
    ∃ size, value = .finite false size := by
  unfold next token at read
  split at read
  · cases read
  · split at read
    · exact number_value (congrArg Prod.fst read)
    · split at read
      · rename_i symbol reads
        obtain rfl : symbol = .number value := by
          simpa using congrArg Prod.fst read
        rcases ofSymbol?_eq_some reads with ⟨_, same⟩ | ⟨_, same⟩ | ⟨op, _, same⟩ <;> cases same
      · cases read

theorem feed_wellFormed (scanner : Scanner) : scanner.feed.WellFormed := by
  fun_induction feed scanner with
  | case1 scanner after step => trivial
  | case2 scanner token after step open_ ih =>
      refine ⟨open_, ?_, ih⟩
      rintro value rfl
      exact next_value step
  | case3 scanner error after step invalid => trivial
  | case4 scanner error after step other ih => exact ih

end Scanner

end Reckon
