import Reckon.Expr.Grammar
import Reckon.Proofs.Readings

/-!
Two ways to cut a text into tokens. The scanner takes the longest run of digits
and points and then asks whether it is a number. The grammar takes the longest
number. They differ only in what they refuse and when: where the run is no number,
the grammar is left in front of a point, which starts nothing.
-/

namespace Reckon

section Runs

variable {inRun : Char → Bool} {run rest : List Char}

def Ends (inRun : Char → Bool) (rest : List Char) : Prop :=
  ∀ c, rest.head? = some c → inRun c = false

theorem ends_nil (inRun : Char → Bool) : Ends inRun [] := by
  intro c head
  cases head

theorem mark_ends (mark : Char) (text : List Char) : Ends (· != mark) (mark :: text) := by
  intro c head
  cases head
  exact bne_self_eq_false mark

theorem Ends.takeWhile (ends : Ends inRun rest) : rest.takeWhile inRun = [] := by
  cases rest with
  | nil => rfl
  | cons c rest => simp [ends c rfl]

theorem Ends.dropWhile (ends : Ends inRun rest) : rest.dropWhile inRun = rest := by
  cases rest with
  | nil => rfl
  | cons c rest => simp [ends c rfl]

theorem takeWhile_run (all : ∀ c ∈ run, inRun c = true) (ends : Ends inRun rest) :
    (run ++ rest).takeWhile inRun = run := by
  rw [List.takeWhile_append_of_pos all, ends.takeWhile, List.append_nil]

theorem dropWhile_run (all : ∀ c ∈ run, inRun c = true) (ends : Ends inRun rest) :
    (run ++ rest).dropWhile inRun = rest := by
  rw [List.dropWhile_append_of_pos all, ends.dropWhile]

theorem dropWhile_ends (inRun : Char → Bool) (text : List Char) :
    Ends inRun (text.dropWhile inRun) := by
  intro c head
  have stop := List.head?_dropWhile_not inRun text
  simpa [head] using stop

theorem takeWhile_all (inRun : Char → Bool) (text : List Char) :
    ∀ c ∈ text.takeWhile inRun, inRun c = true :=
  List.all_eq_true.mp List.all_takeWhile

end Runs

theorem symbol_ends {c : Char} {symbol : Token} (reads : Token.ofSymbol? c = some symbol)
    (rest : List Char) : Ends isNumeral (c :: rest) := by
  intro d head
  cases head
  exact (ofSymbol?_apart reads).2.1

namespace Decimal

variable {whole fraction : List Char}

theorem point_ends (text : List Char) : Ends Char.isDigit ('.' :: text) := by
  intro c head
  cases head
  decide

theorem ofLiteral?_whole (digits : ∀ c ∈ whole, c.isDigit = true) (some_ : whole ≠ []) :
    ofLiteral? whole = some ⟨ofDigits whole, 0⟩ := by
  have taken := takeWhile_run digits (ends_nil _)
  have left := dropWhile_run digits (ends_nil _)
  rw [List.append_nil] at taken left
  simp [ofLiteral?, taken, left, some_]

theorem ofLiteral?_point (digits : ∀ c ∈ whole, c.isDigit = true) (some_ : whole ≠ []) :
    ofLiteral? (whole ++ '.' :: fraction) =
      if fraction = [] ∨ fraction.all Char.isDigit = false then none
      else some ⟨ofDigits (whole ++ fraction), -fraction.length⟩ := by
  have taken := takeWhile_run digits (point_ends fraction)
  have left := dropWhile_run digits (point_ends fraction)
  simp [ofLiteral?, taken, left, some_]

end Decimal

section Numbers

variable {whole rest : List Char}

theorem digits_numerals (digits : ∀ c ∈ whole, c.isDigit = true) :
    ∀ c ∈ whole, isNumeral c = true :=
  fun c member => isNumeral_of_isDigit (digits c member)

theorem numerals_end (ends : Ends Char.isDigit rest) (noPoint : ∀ behind, rest ≠ '.' :: behind) :
    Ends isNumeral rest := by
  intro c head
  obtain ⟨tail, rfl⟩ : ∃ tail, rest = c :: tail := by
    cases rest with
    | nil => cases head
    | cons first tail => cases head; exact ⟨tail, rfl⟩
  have other : c ≠ '.' := by
    rintro rfl
    exact noPoint tail rfl
  simp [isNumeral, ends c rfl, other]

theorem numberSplit_whole (digits : ∀ c ∈ whole, c.isDigit = true) (ends : Ends Char.isDigit rest)
    (noPoint : ∀ behind, rest ≠ '.' :: behind) :
    Grammar.numberSplit (whole ++ rest) = (whole, rest) := by
  unfold Grammar.numberSplit
  simp only [takeWhile_run digits ends, dropWhile_run digits ends]

theorem numberSplit_point (digits : ∀ c ∈ whole, c.isDigit = true) {fraction : List Char}
    (places : ∀ c ∈ fraction, c.isDigit = true) (ends : Ends Char.isDigit rest) :
    Grammar.numberSplit (whole ++ '.' :: (fraction ++ rest)) =
      if fraction = [] then (whole, '.' :: (fraction ++ rest))
      else (whole ++ '.' :: fraction, rest) := by
  unfold Grammar.numberSplit
  simp only [takeWhile_run digits (Decimal.point_ends _),
    dropWhile_run digits (Decimal.point_ends _), takeWhile_run places ends,
    dropWhile_run places ends]

theorem numeral_run_point (rest : List Char) (digits : ∀ c ∈ whole, c.isDigit = true) {fraction : List Char}
    (places : ∀ c ∈ fraction, c.isDigit = true) :
    (whole ++ '.' :: (fraction ++ rest)).takeWhile isNumeral =
        whole ++ '.' :: (fraction ++ rest.takeWhile isNumeral) ∧
      (whole ++ '.' :: (fraction ++ rest)).dropWhile isNumeral = rest.dropWhile isNumeral := by
  have point : isNumeral '.' = true := by decide
  constructor
  · rw [List.takeWhile_append_of_pos (digits_numerals digits), List.takeWhile_cons_of_pos point,
      List.takeWhile_append_of_pos (digits_numerals places)]
  · rw [List.dropWhile_append_of_pos (digits_numerals digits), List.dropWhile_cons_of_pos point,
      List.dropWhile_append_of_pos (digits_numerals places)]

-- A text either has no point where digits end, or a point, digits and no further digit.
theorem after_digits (ends : Ends Char.isDigit rest) :
    (∀ behind, rest ≠ '.' :: behind) ∨
      ∃ fraction tail, rest = '.' :: (fraction ++ tail) ∧
        (∀ c ∈ fraction, c.isDigit = true) ∧ Ends Char.isDigit tail := by
  by_cases point : ∃ behind, rest = '.' :: behind
  · obtain ⟨behind, rfl⟩ := point
    refine Or.inr ⟨behind.takeWhile Char.isDigit, behind.dropWhile Char.isDigit, by simp, ?_, ?_⟩
    · exact takeWhile_all _ behind
    · exact dropWhile_ends _ behind
  · exact Or.inl fun behind same => point ⟨behind, same⟩

/-- Behind the digits that a number starts with, the grammar's number is the scanner's run,
or else the run is refused and the grammar is left in front of a point. -/
theorem numberSplit_run (digits : ∀ c ∈ whole, c.isDigit = true) (some_ : whole ≠ [])
    (ends : Ends Char.isDigit rest) :
    Grammar.numberSplit (whole ++ rest) =
      ((whole ++ rest).takeWhile isNumeral, (whole ++ rest).dropWhile isNumeral) ∨
    (Decimal.ofLiteral? ((whole ++ rest).takeWhile isNumeral) = none ∧
      ∃ behind, (Grammar.numberSplit (whole ++ rest)).2 = '.' :: behind) := by
  rcases after_digits ends with noPoint | ⟨fraction, tail, rfl, places, ending⟩
  · have numerals := digits_numerals digits
    have stops := numerals_end ends noPoint
    rw [numberSplit_whole digits ends noPoint, takeWhile_run numerals stops,
      dropWhile_run numerals stops]
    exact Or.inl rfl
  · obtain ⟨taken, left⟩ := numeral_run_point tail digits places
    rw [numberSplit_point digits places ending, taken, left,
      Decimal.ofLiteral?_point digits some_]
    by_cases point : ∃ behind, tail = '.' :: behind
    · obtain ⟨behind, rfl⟩ := point
      refine Or.inr ⟨?_, ?_⟩
      · have second : isNumeral '.' = true := by decide
        have other : Char.isDigit '.' = false := by decide
        simp [List.takeWhile_cons_of_pos second, other]
      · split
        · exact ⟨_, rfl⟩
        · exact ⟨_, rfl⟩
    · have stops := numerals_end ending fun behind same => point ⟨behind, same⟩
      rw [stops.takeWhile, stops.dropWhile, List.append_nil]
      by_cases empty : fraction = []
      · exact Or.inr ⟨by simp [empty], by simp [empty]⟩
      · exact Or.inl (by simp [empty])

theorem numberSplit_digit {c : Char} (digit : c.isDigit = true) (rest : List Char) :
    Grammar.numberSplit (c :: rest) =
      ((c :: rest).takeWhile isNumeral, (c :: rest).dropWhile isNumeral) ∨
    (Decimal.ofLiteral? ((c :: rest).takeWhile isNumeral) = none ∧
      ∃ behind, (Grammar.numberSplit (c :: rest)).2 = '.' :: behind) := by
  have starts : (c :: rest).takeWhile Char.isDigit ≠ [] := by simp [digit]
  have split := numberSplit_run (takeWhile_all Char.isDigit (c :: rest)) starts
    (dropWhile_ends Char.isDigit (c :: rest))
  rwa [List.takeWhile_append_dropWhile] at split

end Numbers

/-- The tokens of a feed without the end, read leniently: a number that is out of range
is infinite. -/
def Feed.lexemes? : Feed → Option (List Token)
  | .finished _ => some []
  | .blocked _ => none
  | .token first _ rest => rest.lexemes?.map (first :: ·)
  | .refused error _ rest =>
      if error.reason = .outOfRange then rest.lexemes?.map (.number (.infinity false) :: ·)
      else none

theorem lexemesWithin?_point (steps : Nat) (rest : List Char) :
    Grammar.lexemesWithin? steps ('.' :: rest) = none := by
  cases steps with
  | zero => rfl
  | succ steps =>
      have visible : isBlank '.' = false := by decide
      have other : Char.isDigit '.' = false := by decide
      have reads : Token.ofSymbol? '.' = none := by decide
      simp [Grammar.lexemesWithin?, visible, other, reads]

theorem lexemes?_ofReading (run : List Char) (position after : Nat) (rest : Feed) :
    (Feed.ofReading (readNumber run position) after rest).lexemes? =
      (Decimal.ofLiteral? run).bind fun decimal =>
        rest.lexemes?.map (.number (.ofDecimal false decimal) :: ·) := by
  unfold readNumber
  cases Decimal.ofLiteral? run with
  | none => simp [Feed.ofReading, Feed.lexemes?]
  | some decimal =>
      cases nearest : decimal.nearest? <;>
        simp [Feed.ofReading, Feed.lexemes?, Double.ofDecimal, nearest]

/-- The grammar's tokens are the scanner's readings, read leniently. -/
theorem lexemesWithin?_eq (steps : Nat) : ∀ (text : List Char) (position : Nat),
    text.length ≤ steps →
    Grammar.lexemesWithin? steps text = (Scanner.feed ⟨position, text, false⟩).lexemes? := by
  induction steps with
  | zero =>
      intro text position enough
      obtain rfl : text = [] := List.eq_nil_of_length_eq_zero (Nat.le_zero.mp enough)
      rw [Scanner.feed_nil]
      rfl
  | succ steps ih =>
      intro text position enough
      cases text with
      | nil =>
          rw [Scanner.feed_nil]
          rfl
      | cons c rest =>
          simp only [List.length_cons, Nat.add_le_add_iff_right] at enough
          simp only [Grammar.lexemesWithin?]
          by_cases blank : isBlank c = true
          · rw [Scanner.feed_blank position rest false blank]
            simp only [blank, ↓reduceIte]
            exact ih rest (position + 1) enough
          by_cases digit : c.isDigit = true
          · rw [Scanner.feed_number position rest false digit, lexemes?_ofReading]
            simp only [blank, Bool.false_eq_true, ↓reduceIte, digit]
            rcases numberSplit_digit digit rest with split | ⟨refused, behind, split⟩
            · have shorter : ((c :: rest).dropWhile isNumeral).length ≤ steps := by
                rw [List.dropWhile_cons_of_pos (isNumeral_of_isDigit digit)]
                exact Nat.le_trans (List.dropWhile_suffix isNumeral).length_le enough
              simp only [split, ← ih _ _ shorter]
              cases Decimal.ofLiteral? ((c :: rest).takeWhile isNumeral) with
              | none => rfl
              | some decimal => cases Grammar.lexemesWithin? steps _ <;> rfl
            · simp only [refused, split, lexemesWithin?_point]
              cases Decimal.ofLiteral? (Grammar.numberSplit (c :: rest)).1 <;> rfl
          · cases reads : Token.ofSymbol? c with
            | none =>
                rw [Scanner.feed_invalid position rest false (by simpa using blank)
                  (by simpa using digit) reads]
                simp [blank, digit, Feed.lexemes?]
            | some symbol =>
                rw [Scanner.feed_symbol position rest false reads]
                simp only [blank, digit, Bool.false_eq_true, ↓reduceIte, Feed.lexemes?,
                  ← ih rest (position + 1) enough]
                cases Grammar.lexemesWithin? steps rest <;> rfl

end Reckon
