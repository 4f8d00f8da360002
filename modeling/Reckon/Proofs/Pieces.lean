import Reckon.Proofs.Lexemes

/-!
Texts as pieces. A text is cut into blanks, symbols, and the literals of numbers, so
that no run of digits and points is cut in two; there is at most one such cutting.
A text that has none has a fault: what stands before it can be cut, and what stands
there is a character that starts nothing, or a whole run that is no literal or has no
finite value. Nothing here looks at the scanner.
-/

namespace Reckon

section Seams

variable {front back first second : List Char}

/-- No run of digits and points goes on across the seam of two texts. -/
def Apart (front back : List Char) : Prop :=
  ∀ c d, front.getLast? = some c → back.head? = some d → isNumeral c = true → isNumeral d = false

theorem apart_nil (front : List Char) : Apart front [] := by
  intro c d _ none
  cases none

theorem apart_single {c : Char} (other : isNumeral c = false) (back : List Char) :
    Apart [c] back := by
  intro d e last _ numeral
  cases last
  exact absurd numeral (by simp [other])

theorem isBlank_not_numeral {c : Char} (space : isBlank c = true) : isNumeral c = false := by
  cases numeral : isNumeral c with
  | false => rfl
  | true =>
      rw [isNumeral_not_blank numeral] at space
      cases space

theorem Ends.apart (ends : Ends isNumeral back) : Apart front back :=
  fun _ d _ head _ => ends d head

theorem Apart.of_append (apart : Apart (first ++ second) back) : Apart second back := by
  intro c d last head
  exact apart c d (by simp [List.getLast?_append, last]) head

theorem Apart.append_left (apart : Apart second back) (visible : second ≠ []) :
    Apart (first ++ second) back := by
  intro c d last head
  rw [List.getLast?_append, List.getLast?_eq_some_getLast visible] at last
  exact apart c d (List.getLast?_eq_some_getLast visible ▸ last) head

theorem Apart.of_append_right (apart : Apart front (first ++ second)) : Apart front first := by
  intro c d last head
  exact apart c d last (by simp [List.head?_append, head])

theorem Apart.append_right (apart : Apart front first) (apart' : Apart (front ++ first) second) :
    Apart front (first ++ second) := by
  cases first with
  | nil => simpa using apart'
  | cons d rest => exact fun c e last head => apart c e last head

theorem Apart.ends (apart : Apart front back) (visible : front ≠ [])
    (numerals : ∀ c ∈ front, isNumeral c = true) : Ends isNumeral back := by
  intro d head
  have last := List.getLast?_eq_some_getLast visible
  exact apart _ d last head (numerals _ (List.getLast_mem visible))

end Seams

inductive Literal : List Char → Decimal → Prop where
  | whole {digits : List Char} (visible : digits ≠ [])
      (all : ∀ c ∈ digits, c.isDigit = true) :
      Literal digits ⟨ofDigits digits, 0⟩
  | fraction {digits places : List Char} (visible : digits ≠ [])
      (all : ∀ c ∈ digits, c.isDigit = true) (visible' : places ≠ [])
      (all' : ∀ c ∈ places, c.isDigit = true) :
      Literal (digits ++ '.' :: places) ⟨ofDigits (digits ++ places), -places.length⟩

section Literals

variable {run : List Char} {decimal : Decimal}

theorem ofLiteral?_of_literal (literal : Literal run decimal) :
    Decimal.ofLiteral? run = some decimal := by
  cases literal with
  | whole visible all => exact Decimal.ofLiteral?_whole all visible
  | fraction visible all visible' all' =>
      rw [Decimal.ofLiteral?_point all visible, if_neg]
      rw [not_or, Bool.not_eq_false, List.all_eq_true]
      exact ⟨visible', all'⟩

theorem literal_of_ofLiteral? (read : Decimal.ofLiteral? run = some decimal) :
    Literal run decimal := by
  have digits := takeWhile_all Char.isDigit run
  have split := List.takeWhile_append_dropWhile (p := Char.isDigit) (l := run)
  simp only [Decimal.ofLiteral?] at read
  split at read
  · rename_i nothing
    rw [nothing, List.append_nil] at split
    split at read
    · cases read
    · rename_i visible
      cases read
      have literal := Literal.whole visible digits
      rwa [split] at literal ⊢
  · rename_i places point
    rw [point] at split
    split at read
    · cases read
    · rename_i shape
      rw [not_or, not_or, Bool.not_eq_true', Bool.not_eq_false, List.all_eq_true] at shape
      cases read
      have literal := Literal.fraction shape.1 digits shape.2.1 shape.2.2
      rwa [split] at literal
  · cases read

theorem ofLiteral?_eq_some : Decimal.ofLiteral? run = some decimal ↔ Literal run decimal :=
  ⟨literal_of_ofLiteral?, ofLiteral?_of_literal⟩

theorem ofLiteral?_eq_none : Decimal.ofLiteral? run = none ↔ ¬ ∃ decimal, Literal run decimal := by
  rw [Option.eq_none_iff_forall_ne_some, not_exists]
  exact forall_congr' fun decimal => not_congr ofLiteral?_eq_some

/-- A literal is a run: it starts with a digit and holds digits and points only. -/
theorem Literal.shape (literal : Literal run decimal) :
    (∃ c rest, run = c :: rest ∧ c.isDigit = true) ∧ ∀ c ∈ run, isNumeral c = true := by
  cases literal with
  | whole visible all =>
      obtain ⟨c, rest, rfl⟩ := List.exists_cons_of_ne_nil visible
      exact ⟨⟨c, rest, rfl, all c List.mem_cons_self⟩, digits_numerals all⟩
  | @fraction digits places visible all visible' all' =>
      obtain ⟨c, rest, rfl⟩ := List.exists_cons_of_ne_nil visible
      refine ⟨⟨c, rest ++ '.' :: places, rfl, all c List.mem_cons_self⟩, ?_⟩
      intro d member
      rcases List.mem_append.mp member with before | behind
      · exact digits_numerals all d before
      · rcases List.mem_cons.mp behind with rfl | after
        · decide
        · exact digits_numerals all' d after

end Literals

inductive Piece where
  | blank (c : Char) (space : isBlank c = true)
  | symbol (c : Char) (token : Token) (reads : Token.ofSymbol? c = some token)
  | number (run : List Char) (decimal : Decimal) (size : Magnitude)
      (literal : Literal run decimal) (value : decimal.nearest? = some size)

namespace Piece

def text : Piece → List Char
  | .blank c _ | .symbol c _ _ => [c]
  | .number run _ _ _ _ => run

def token? : Piece → Option Token
  | .blank _ _ => none
  | .symbol _ token _ => some token
  | .number _ _ size _ _ => some (.number (.finite false size))

inductive Kind where
  | blank | symbol | number
  deriving DecidableEq

def Kind.ofChar (c : Char) : Kind :=
  if isBlank c then .blank else if isNumeral c then .number else .symbol

def kind : Piece → Kind
  | .blank _ _ => .blank
  | .symbol _ _ _ => .symbol
  | .number _ _ _ _ _ => .number

def written (pieces : List Piece) : List Char := pieces.flatMap text

def tokens (pieces : List Piece) : List Token := pieces.filterMap token?

theorem text_ne_nil (piece : Piece) : piece.text ≠ [] := by
  cases piece with
  | blank | symbol => exact List.cons_ne_nil _ _
  | number run decimal size literal value =>
      obtain ⟨c, rest, rfl, _⟩ := literal.shape.1
      exact List.cons_ne_nil c rest

theorem written_ne_nil {pieces : List Piece} (visible : pieces ≠ []) : written pieces ≠ [] := by
  obtain ⟨piece, rest, rfl⟩ := List.exists_cons_of_ne_nil visible
  simp [written, piece.text_ne_nil]

theorem finish_notMem_tokens (pieces : List Piece) : .finish ∉ tokens pieces := by
  intro member
  obtain ⟨piece, _, reads⟩ := List.mem_filterMap.mp member
  cases piece with
  | blank | number => cases reads
  | symbol c token found =>
      cases reads
      exact (ofSymbol?_apart found).2.2 rfl

end Piece

open Piece

structure Cuts (pieces : List Piece) (text : List Char) : Prop where
  covers : written pieces = text
  maximal : ∀ before after, pieces = before ++ after → Apart (written before) (written after)

section Cutting

variable {piece : Piece} {pieces : List Piece} {text rest : List Char}

theorem Cuts.nil : Cuts [] [] := by
  refine ⟨rfl, ?_⟩
  intro before after shape
  obtain ⟨rfl, rfl⟩ := List.nil_eq_append_iff.mp shape
  exact apart_nil _

theorem Cuts.cons (apart : Apart piece.text rest) (cuts : Cuts pieces rest) :
    Cuts (piece :: pieces) (piece.text ++ rest) := by
  obtain ⟨rfl, maximal⟩ := cuts
  refine ⟨rfl, ?_⟩
  intro before after shape
  rcases List.cons_eq_append_iff.mp shape with ⟨rfl, rfl⟩ | ⟨more, rfl, rfl⟩
  · intro c d last
    cases last
  · by_cases nothing : more = []
    · subst nothing
      simpa [written] using apart
    · exact (maximal more after rfl).append_left (written_ne_nil nothing)

theorem Cuts.uncons (cuts : Cuts (piece :: pieces) text) :
    ∃ rest, text = piece.text ++ rest ∧ Apart piece.text rest ∧ Cuts pieces rest := by
  obtain ⟨rfl, maximal⟩ := cuts
  refine ⟨written pieces, rfl, ?_, rfl, ?_⟩
  · simpa [written] using maximal [piece] pieces rfl
  · intro before after shape
    exact (maximal (piece :: before) after (by rw [shape]; rfl)).of_append

theorem Cuts.append {pieces' : List Piece} {back : List Char} (cuts : Cuts pieces text)
    (cuts' : Cuts pieces' back) (apart : Apart text back) :
    Cuts (pieces ++ pieces') (text ++ back) := by
  induction pieces generalizing text with
  | nil =>
      obtain rfl := cuts.covers
      exact cuts'
  | cons piece pieces ih =>
      obtain ⟨rest, rfl, seam, behind⟩ := cuts.uncons
      rw [List.cons_append, List.append_assoc]
      exact (ih behind apart.of_append).cons (seam.append_right apart)

/-- The first character of a text tells what kind of piece comes first. -/
theorem Piece.kind_eq (piece : Piece) {c : Char} {rest more : List Char}
    (shape : piece.text ++ rest = c :: more) : piece.kind = Kind.ofChar c := by
  cases piece with
  | blank c' space =>
      cases shape
      simp [kind, Kind.ofChar, space]
  | symbol c' token reads =>
      cases shape
      obtain ⟨visible, apart, _⟩ := ofSymbol?_apart reads
      simp [kind, Kind.ofChar, visible, apart]
  | number run decimal size literal value =>
      obtain ⟨d, tail, rfl, digit⟩ := literal.shape.1
      cases shape
      have numeral := isNumeral_of_isDigit digit
      simp [kind, Kind.ofChar, isNumeral_not_blank numeral, numeral]

-- A run ends where the digits and points end, so the text determines its first piece.
theorem Piece.first_unique {first second : Piece} {rest rest' : List Char}
    (apart : Apart first.text rest) (apart' : Apart second.text rest')
    (same : first.text ++ rest = second.text ++ rest') : first = second := by
  have kinds : first.kind = second.kind := by
    obtain ⟨c, more, shape⟩ := List.exists_cons_of_ne_nil
      (List.append_ne_nil_of_left_ne_nil first.text_ne_nil rest)
    rw [first.kind_eq shape, second.kind_eq (same ▸ shape)]
  cases first with
  | blank c space =>
      cases second with
      | blank c' space' => cases same; rfl
      | symbol | number => cases kinds
  | symbol c token reads =>
      cases second with
      | symbol c' token' reads' =>
          cases same
          cases reads.symm.trans reads'
          rfl
      | blank | number => cases kinds
  | number run decimal size literal value =>
      cases second with
      | blank | symbol => cases kinds
      | number run' decimal' size' literal' value' =>
          have taken := takeWhile_run literal.shape.2
            (apart.ends (text_ne_nil _) literal.shape.2)
          have taken' := takeWhile_run literal'.shape.2
            (apart'.ends (text_ne_nil _) literal'.shape.2)
          simp only [text] at same
          obtain rfl : run = run' := by rw [← taken, same, taken']
          cases (ofLiteral?_of_literal literal).symm.trans (ofLiteral?_of_literal literal')
          cases value.symm.trans value'
          rfl

/-- A text has at most one cutting. -/
theorem Cuts.unique {pieces' : List Piece} (cuts : Cuts pieces text) (cuts' : Cuts pieces' text) :
    pieces = pieces' := by
  induction pieces generalizing pieces' text with
  | nil =>
      cases pieces' with
      | nil => rfl
      | cons piece more =>
          exact absurd (cuts'.covers.trans cuts.covers.symm) (written_ne_nil (by simp))
  | cons piece more ih =>
      cases pieces' with
      | nil => exact absurd (cuts.covers.trans cuts'.covers.symm) (written_ne_nil (by simp))
      | cons piece' more' =>
          obtain ⟨rest, rfl, apart, behind⟩ := cuts.uncons
          obtain ⟨rest', same, apart', behind'⟩ := cuts'.uncons
          obtain rfl := Piece.first_unique apart apart' same
          obtain rfl := List.append_cancel_left same
          rw [ih behind behind']

end Cutting

structure WholeRun (run back : List Char) : Prop where
  starts : ∃ c rest, run = c :: rest ∧ c.isDigit = true
  numerals : ∀ c ∈ run, isNumeral c = true
  ends : Ends isNumeral back

/-- What cannot be read, in front of `back`: a character that is no blank, no digit and no
symbol, or a whole run that is no literal or whose decimal rounds to infinity. -/
inductive Unreadable : LexReason → List Char → (back : List Char) → Prop where
  | character {c : Char} (visible : isBlank c = false) (other : c.isDigit = false)
      (strange : Token.ofSymbol? c = none) (back : List Char) :
      Unreadable .invalidCharacter [c] back
  | shape {run back : List Char} (whole : WholeRun run back)
      (malformed : ¬ ∃ decimal, Literal run decimal) : Unreadable .malformedNumber run back
  | range {run back : List Char} {decimal : Decimal} (whole : WholeRun run back)
      (literal : Literal run decimal) (large : decimal.nearest? = none) :
      Unreadable .outOfRange run back

inductive Fault : List Char → LexError → Prop where
  | behind {reason : LexReason} {front culprit back : List Char} (pieces : List Piece)
      (cuts : Cuts pieces front) (apart : Apart front culprit)
      (unreadable : Unreadable reason culprit back) :
      Fault (front ++ (culprit ++ back)) ⟨reason, culprit, front.length⟩

section Faults

variable {reason : LexReason} {culprit back rest : List Char}

theorem Unreadable.ne_nil (unreadable : Unreadable reason culprit back) : culprit ≠ [] := by
  cases unreadable with
  | character => exact List.cons_ne_nil _ _
  | shape whole | range whole =>
      obtain ⟨c, more, rfl, _⟩ := whole.starts
      exact List.cons_ne_nil c more

/-- A piece in front moves the place of an error. -/
theorem Fault.cons {piece : Piece} {error : LexError} (apart : Apart piece.text rest)
    (fault : Fault rest error) :
    Fault (piece.text ++ rest) { error with position := piece.text.length + error.position } := by
  cases fault with
  | @behind reason front culprit back pieces cuts seam unreadable =>
      have first : Apart (piece.text ++ front) culprit := by
        by_cases nothing : front = []
        · subst nothing
          rw [List.append_nil]
          exact Apart.of_append_right apart
        · exact seam.append_left nothing
      have fault :=
        Fault.behind (piece :: pieces) (cuts.cons apart.of_append_right) first unreadable
      rwa [List.append_assoc, List.length_append] at fault

-- A digit starts a whole run, which is a number or else cannot be read.
theorem run_piece_or_unreadable {c : Char} (digit : c.isDigit = true) (rest : List Char) :
    (∃ (piece : Piece) (back : List Char), c :: rest = piece.text ++ back ∧ Apart piece.text back) ∨
      ∃ reason culprit back, c :: rest = culprit ++ back ∧ Unreadable reason culprit back := by
  have numeral := isNumeral_of_isDigit digit
  have split := (List.takeWhile_append_dropWhile (p := isNumeral) (l := c :: rest)).symm
  have starts : ∃ d more, (c :: rest).takeWhile isNumeral = d :: more ∧ d.isDigit = true :=
    ⟨c, rest.takeWhile isNumeral, List.takeWhile_cons_of_pos numeral, digit⟩
  have whole : WholeRun ((c :: rest).takeWhile isNumeral) ((c :: rest).dropWhile isNumeral) :=
    ⟨starts, takeWhile_all _ _, dropWhile_ends _ _⟩
  cases read : Decimal.ofLiteral? ((c :: rest).takeWhile isNumeral) with
  | none => exact Or.inr ⟨_, _, _, split, .shape whole (ofLiteral?_eq_none.mp read)⟩
  | some decimal =>
      have literal := literal_of_ofLiteral? read
      cases value : decimal.nearest? with
      | none => exact Or.inr ⟨_, _, _, split, .range whole literal value⟩
      | some size => exact Or.inl ⟨.number _ decimal size literal value, _, split, whole.ends.apart⟩

theorem piece_or_unreadable (c : Char) (rest : List Char) :
    (∃ (piece : Piece) (back : List Char), c :: rest = piece.text ++ back ∧ Apart piece.text back) ∨
      ∃ reason culprit back, c :: rest = culprit ++ back ∧ Unreadable reason culprit back := by
  by_cases digit : c.isDigit = true
  · exact run_piece_or_unreadable digit rest
  by_cases space : isBlank c = true
  · exact Or.inl ⟨.blank c space, rest, rfl, apart_single (isBlank_not_numeral space) rest⟩
  cases reads : Token.ofSymbol? c with
  | none =>
      exact Or.inr ⟨_, [c], rest, rfl, .character (by simpa using space) (by simpa using digit)
        reads rest⟩
  | some token =>
      exact Or.inl ⟨.symbol c token reads, rest, rfl, apart_single (ofSymbol?_apart reads).2.1 rest⟩

/-- Every text can be cut or has a fault. -/
theorem cuts_or_fault (text : List Char) :
    (∃ pieces, Cuts pieces text) ∨ ∃ error, Fault text error := by
  induction length : text.length using Nat.strongRecOn generalizing text with
  | ind total ih =>
  cases text with
  | nil => exact Or.inl ⟨[], Cuts.nil⟩
  | cons c rest =>
      rcases piece_or_unreadable c rest with ⟨piece, back, shape, apart⟩ |
        ⟨reason, culprit, back, shape, unreadable⟩
      · have shorter : back.length < total := by
          have visible := List.length_pos_iff.mpr piece.text_ne_nil
          rw [shape, List.length_append] at length
          omega
        rw [shape]
        rcases ih back.length shorter back rfl with ⟨pieces, cuts⟩ | ⟨error, fault⟩
        · exact Or.inl ⟨piece :: pieces, cuts.cons apart⟩
        · exact Or.inr ⟨_, fault.cons apart⟩
      · rw [shape]
        exact Or.inr ⟨_, Fault.behind [] Cuts.nil (fun _ _ last => nomatch last) unreadable⟩

end Faults

end Reckon
