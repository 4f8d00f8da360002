import Reckon.Proofs.MaximalMunch

/-!
Blanks between pieces never matter. Put anywhere but inside a run of digits and
points, they change no token and no tree, and only move the places of the errors
that are met behind them.

The parser is shown to depend on its readings alone: on two feeds with the same
tokens, and with errors that correspond, it does the same step after step and meets
corresponding errors.
-/

namespace Reckon

def LexError.shift (seam distance : Nat) (error : LexError) : LexError :=
  if error.position < seam then error else { error with position := error.position + distance }

theorem LexError.shift_before {seam distance position : Nat} (reason : LexReason)
    (culprit : List Char) (before : position < seam) :
    shift seam distance ⟨reason, culprit, position⟩ = ⟨reason, culprit, position⟩ :=
  if_pos before

theorem LexError.shift_behind {seam distance : Nat} (reason : LexReason) (culprit : List Char)
    (offset : Nat) :
    shift seam distance ⟨reason, culprit, seam + offset⟩ =
      ⟨reason, culprit, seam + distance + offset⟩ := by
  rw [shift, if_neg (Nat.not_lt.mpr (Nat.le_add_right seam offset)), Nat.add_right_comm]

def ParseError.relocate (move : LexError → LexError) : ParseError → ParseError
  | .unreadable error => .unreadable (move error)
  | error => error

/-- The same readings, with errors that have moved. Positions behind tokens are free. -/
inductive Feed.Alike (move : LexError → LexError) : Feed → Feed → Prop where
  | finished (position position' : Nat) : Alike move (.finished position) (.finished position')
  | blocked (error : LexError) : Alike move (.blocked error) (.blocked (move error))
  | token (first : Token) (position position' : Nat) {rest rest' : Feed}
      (behind : Alike move rest rest') :
      Alike move (.token first position rest) (.token first position' rest')
  | refused (error : LexError) (position position' : Nat) {rest rest' : Feed}
      (behind : Alike move rest rest') :
      Alike move (.refused error position rest) (.refused (move error) position' rest')

namespace Feed.Alike

variable {move : LexError → LexError} {feed feed' : Feed}

theorem length_eq (alike : Alike move feed feed') : feed'.length = feed.length := by
  induction alike with
  | finished | blocked => rfl
  | token _ _ _ _ ih | refused _ _ _ _ ih => simp only [Feed.length, ih]

theorem outcome_eq (alike : Alike move feed feed') :
    feed'.outcome = feed.outcome.mapError move := by
  induction alike with
  | finished | blocked | refused => rfl
  | @token first _ _ rest rest' behind ih =>
      simp only [Feed.outcome, ih]
      cases rest.outcome <;> rfl

end Feed.Alike

namespace Parser

structure AlikeCursors (move : LexError → LexError) (cursor cursor' : Cursor) : Prop where
  current : cursor'.current = cursor.current
  feed : cursor.feed.Alike move cursor'.feed

inductive AlikeResults (move : LexError → LexError) {α : Type} :
    EStateM.Result ParseError Cursor α → EStateM.Result ParseError Cursor α → Prop where
  | ok (value : α) {cursor cursor' : Cursor} (alike : AlikeCursors move cursor cursor') :
      AlikeResults move (.ok value cursor) (.ok value cursor')
  | error (error : ParseError) (cursor cursor' : Cursor) :
      AlikeResults move (.error error cursor) (.error (error.relocate move) cursor')

def Steady (move : LexError → LexError) {α : Type} (parser : Parser α) : Prop :=
  ∀ cursor cursor', AlikeCursors move cursor cursor' →
    AlikeResults move (parser cursor) (parser cursor')

section Steadiness

variable {move : LexError → LexError} {α β : Type}

theorem steady_pure (value : α) : Steady move (pure value : Parser α) :=
  fun _ _ alike => .ok value alike

theorem steady_throw {error : ParseError} (settled : error.relocate move = error) :
    Steady move (throw error : Parser α) := by
  intro cursor cursor' _
  have failed : AlikeResults move (.error error cursor : EStateM.Result _ _ α)
      (.error (error.relocate move) cursor') := .error error cursor cursor'
  rwa [settled] at failed

theorem steady_bind {parser : Parser α} {next : α → Parser β} (first : Steady move parser)
    (second : ∀ value, Steady move (next value)) : Steady move (parser >>= next) := by
  intro cursor cursor' alike
  have results := first cursor cursor' alike
  generalize read : parser cursor = result at results
  generalize read' : parser cursor' = result' at results
  cases results with
  | ok value after =>
      rw [bind_ok read, bind_ok read']
      exact second value _ _ after
  | error error after after' =>
      rw [bind_error read, bind_error read']
      exact .error error after after'

theorem steady_advance : Steady move advance := by
  rintro ⟨current, position, feed⟩ ⟨current', position', feed'⟩ ⟨same, alike⟩
  cases same
  cases alike with
  | finished behind behind' => exact .ok () ⟨rfl, .finished behind behind'⟩
  | blocked error => exact .error (.unreadable error) _ _
  | token first behind behind' rest => exact .ok () ⟨rfl, rest⟩
  | refused error behind behind' rest => exact .error (.unreadable error) _ _

theorem steady_current : Steady move current := by
  intro cursor cursor' alike
  have result : AlikeResults move (current cursor) (.ok cursor.current cursor') :=
    .ok cursor.current alike
  rwa [← alike.current] at result

theorem steady_expect (complaint : String) (wanted : TokenKind) :
    Steady move (expect complaint wanted) := by
  refine steady_bind steady_current fun found => ?_
  split
  · exact steady_advance
  · exact steady_throw rfl

section Inner

variable {expression : (least : Nat) → Parser Expr}

theorem steady_primaryWith (inner : ∀ least, Steady move (expression least)) :
    Steady move (primaryWith expression) := by
  refine steady_bind steady_current fun found => ?_
  split
  · exact steady_bind steady_advance fun _ => steady_bind (inner _) fun _ => steady_pure _
  · exact steady_bind steady_advance fun _ => steady_pure _
  · refine steady_bind steady_advance fun _ => steady_bind (inner 1) fun _ => ?_
    exact steady_bind (steady_expect _ _) fun _ => steady_pure _
  · exact steady_throw rfl

theorem steady_chainWith (inner : ∀ least, Steady move (expression least)) (least steps : Nat)
    (left : Expr) : Steady move (chainWith expression least steps left) := by
  induction steps generalizing left with
  | zero => exact steady_pure left
  | succ steps ih =>
      refine steady_bind steady_current fun found => ?_
      split
      · refine steady_bind steady_advance fun _ => steady_bind (inner _) fun right => ?_
        split
        · exact ih _
        · exact steady_throw rfl
      · exact steady_pure left

end Inner

theorem steady_expressionWithin (steps limit least : Nat) :
    Steady move (expressionWithin steps limit least) := by
  induction limit generalizing least with
  | zero => exact steady_throw rfl
  | succ limit ih =>
      exact steady_bind (steady_primaryWith ih) fun left => steady_chainWith ih least steps left

-- The steps are counted from the length of the feed, which is the same on both sides.
theorem steady_expression (limit least : Nat) : Steady move (expression limit least) := by
  intro cursor cursor' alike
  change AlikeResults move (expressionWithin (cursor.feed.length + 1) limit least cursor)
    (expressionWithin (cursor'.feed.length + 1) limit least cursor')
  rw [alike.feed.length_eq]
  exact steady_expressionWithin _ limit least cursor cursor' alike

theorem steady_whole (limit : Nat) : Steady move (whole limit) := by
  refine steady_bind (steady_expression limit 1) fun tree => ?_
  refine steady_bind steady_current fun found => ?_
  split
  · exact steady_pure tree
  · exact steady_throw rfl

end Steadiness

end Parser

/-- The parser depends on its readings alone. -/
theorem parseFeed_alike {move : LexError → LexError} {feed feed' : Feed}
    (alike : feed.Alike move feed') (limit : Nat) :
    parseFeed limit feed' = (parseFeed limit feed).mapError (·.relocate move) := by
  have start : Parser.AlikeCursors move ⟨.finish, 0, feed⟩ ⟨.finish, 0, feed'⟩ := ⟨rfl, alike⟩
  have first := Parser.steady_advance _ _ start
  unfold parseFeed Cursor.ofFeed
  generalize Parser.advance ⟨.finish, 0, feed⟩ = result at first
  generalize Parser.advance ⟨.finish, 0, feed'⟩ = result' at first
  cases first with
  | error error after after' => rfl
  | @ok _ after after' cursors =>
      have read := Parser.steady_whole limit _ _ cursors
      change (Parser.whole limit).outcome after' =
        ((Parser.whole limit).outcome after).mapError (·.relocate move)
      unfold Parser.outcome
      generalize Parser.whole limit after = result at read
      generalize Parser.whole limit after' = result' at read
      cases read <;> rfl

section Blanks

variable {move : LexError → LexError} {text back back' : List Char} {finished : Bool}

theorem Apart.takeWhile {c : Char} (numeral : isNumeral c = true) (apart : Apart (c :: text) back) :
    (c :: text ++ back).takeWhile isNumeral = (c :: text).takeWhile isNumeral ∧
      (c :: text ++ back).dropWhile isNumeral = (c :: text).dropWhile isNumeral ++ back := by
  induction text generalizing c with
  | nil =>
      have ends := apart.ends (List.cons_ne_nil c []) (by simpa using numeral)
      simp [numeral, ends.takeWhile, ends.dropWhile]
  | cons d rest ih =>
      by_cases more : isNumeral d = true
      · have behind := ih more (Apart.of_append (show Apart ([c] ++ d :: rest) back from apart))
        simp only [List.cons_append] at behind ⊢
        rw [List.takeWhile_cons_of_pos numeral, List.takeWhile_cons_of_pos numeral,
          List.dropWhile_cons_of_pos numeral, List.dropWhile_cons_of_pos numeral, behind.1,
          behind.2]
        exact ⟨rfl, rfl⟩
      · simp [numeral, more]

theorem ofReading_alike {position position' : Nat} {run : List Char} {rest rest' : Feed}
    (moved : ∀ reason, move ⟨reason, run, position⟩ = ⟨reason, run, position'⟩)
    (behind behind' : Nat) (alike : rest.Alike move rest') :
    Feed.Alike move (.ofReading (readNumber run position) behind rest)
      (.ofReading (readNumber run position') behind' rest') := by
  unfold readNumber
  split
  · rw [← moved]
    exact .refused _ _ _ alike
  · split
    · rw [← moved]
      exact .refused _ _ _ alike
    · exact .token _ _ _ alike

/-- A text is read in the same way wherever it stands and whatever follows it, as long as
no run goes on into what follows. -/
theorem feed_alike (position position' : Nat) (apart : Apart text back) (apart' : Apart text back')
    (moved : ∀ reason culprit offset, offset < text.length →
      move ⟨reason, culprit, position + offset⟩ = ⟨reason, culprit, position' + offset⟩)
    (behind : Feed.Alike move (Scanner.feed ⟨position + text.length, back, finished⟩)
      (Scanner.feed ⟨position' + text.length, back', finished⟩)) :
    Feed.Alike move (Scanner.feed ⟨position, text ++ back, finished⟩)
      (Scanner.feed ⟨position', text ++ back', finished⟩) := by
  induction length : text.length using Nat.strongRecOn generalizing text position position' with
  | ind total ih =>
  cases text with
  | nil => exact behind
  | cons c rest =>
      -- Whatever is read first, what is left of the text is shorter.
      have next : ∀ first left, c :: rest = first ++ left → first ≠ [] →
          Feed.Alike move (Scanner.feed ⟨position + first.length, left ++ back, finished⟩)
            (Scanner.feed ⟨position' + first.length, left ++ back', finished⟩) := by
        intro first left shape visible
        rw [shape] at apart apart' length behind moved
        rw [List.length_append] at length behind moved
        have shorter := List.length_pos_iff.mpr visible
        refine ih left.length (by omega) _ _ apart.of_append apart'.of_append ?_ ?_ rfl
        · intro reason culprit offset inside
          rw [Nat.add_assoc, Nat.add_assoc]
          exact moved reason culprit (first.length + offset) (by omega)
        · rwa [Nat.add_assoc, Nat.add_assoc]
      have here : ∀ reason culprit,
          move ⟨reason, culprit, position⟩ = ⟨reason, culprit, position'⟩ :=
        fun reason culprit => moved reason culprit 0 (Nat.succ_pos _)
      simp only [List.cons_append]
      by_cases space : isBlank c = true
      · rw [Scanner.feed_blank position _ finished space,
          Scanner.feed_blank position' _ finished space]
        exact next [c] rest rfl (List.cons_ne_nil c [])
      by_cases digit : c.isDigit = true
      · have numeral := isNumeral_of_isDigit digit
        obtain ⟨taken, left⟩ := apart.takeWhile numeral
        obtain ⟨taken', left'⟩ := apart'.takeWhile numeral
        simp only [List.cons_append] at taken left taken' left'
        rw [Scanner.feed_number position _ finished digit,
          Scanner.feed_number position' _ finished digit, taken, left, taken', left']
        refine ofReading_alike (fun reason => here reason _) _ _ (next _ _ ?_ ?_)
        · rw [List.takeWhile_append_dropWhile]
        · rw [List.takeWhile_cons_of_pos numeral]
          exact List.cons_ne_nil c _
      cases reads : Token.ofSymbol? c with
      | some symbol =>
          rw [Scanner.feed_symbol position _ finished reads,
            Scanner.feed_symbol position' _ finished reads]
          exact .token symbol _ _ (next [c] rest rfl (List.cons_ne_nil c []))
      | none =>
          have visible : isBlank c = false := by simpa using space
          have other : c.isDigit = false := by simpa using digit
          rw [Scanner.feed_invalid position _ finished visible other reads,
            Scanner.feed_invalid position' _ finished visible other reads, ← here]
          exact .blocked _

theorem feed_blanks {blanks : List Char} (spaces : ∀ c ∈ blanks, isBlank c = true)
    (position : Nat) :
    Scanner.feed ⟨position, blanks ++ back, finished⟩ =
      Scanner.feed ⟨position + blanks.length, back, finished⟩ := by
  induction blanks generalizing position with
  | nil => rfl
  | cons c rest ih =>
      obtain ⟨space, others⟩ := List.forall_mem_cons.mp spaces
      rw [List.cons_append, Scanner.feed_blank position _ finished space, ih others,
        List.length_cons, Nat.add_right_comm, Nat.add_assoc]

theorem Apart.insert_blanks {front blanks : List Char} (apart : Apart front back)
    (spaces : ∀ c ∈ blanks, isBlank c = true) : Apart front (blanks ++ back) := by
  cases blanks with
  | nil => exact apart
  | cons c rest =>
      intro d e _ head _
      cases head
      exact isBlank_not_numeral (spaces c List.mem_cons_self)

/-- Blanks between two texts move what is read behind them, and nothing else. -/
theorem ofText_alike {front blanks : List Char} (apart : Apart front back)
    (spaces : ∀ c ∈ blanks, isBlank c = true) :
    Feed.Alike (LexError.shift front.length blanks.length) (.ofText (front ++ back))
      (.ofText (front ++ blanks ++ back)) := by
  have last : Feed.Alike (LexError.shift front.length blanks.length)
      (Scanner.feed ⟨front.length + back.length, [], false⟩)
      (Scanner.feed ⟨front.length + blanks.length + back.length, [], false⟩) := by
    rw [Scanner.feed_nil, Scanner.feed_nil]
    exact .finished _ _
  have behind := feed_alike front.length (front.length + blanks.length) (apart_nil back)
    (apart_nil back) (fun reason culprit offset _ => LexError.shift_behind reason culprit offset)
    last
  rw [List.append_nil] at behind
  rw [List.append_assoc]
  refine feed_alike 0 0 apart (apart.insert_blanks spaces) ?_ ?_
  · intro reason culprit offset inside
    rw [Nat.zero_add]
    exact LexError.shift_before reason culprit inside
  · rwa [feed_blanks spaces, Nat.zero_add]

end Blanks

/-- Blanks between two texts that no run of digits and points joins change neither the
tokens nor the tree. An error keeps its text and reason, its place when it is met before
the blanks, and is met later by their number otherwise; a parser's error is the same but
for the place of the scanner's error in it. A limit on nesting makes no difference. -/
theorem blanks_between (front blanks back : List Char) (apart : Apart front back)
    (spaces : ∀ c ∈ blanks, isBlank c = true) :
    tokenize (front ++ blanks ++ back) =
      (tokenize (front ++ back)).mapError (·.shift front.length blanks.length) ∧
    parse (front ++ blanks ++ back) =
      (parse (front ++ back)).mapError (·.relocate (·.shift front.length blanks.length)) ∧
    ∀ limit, parseWithin limit (front ++ blanks ++ back) =
      (parseWithin limit (front ++ back)).mapError
        (·.relocate (·.shift front.length blanks.length)) := by
  have alike := ofText_alike apart spaces
  refine ⟨?_, ?_, ?_⟩
  · rw [tokenize_eq_outcome, tokenize_eq_outcome]
    exact alike.outcome_eq
  · unfold parse
    rw [alike.length_eq]
    exact parseFeed_alike alike _
  · intro limit
    exact parseFeed_alike alike limit

/-- The blanks in `(- 1..` move the place of the refused run from two to four. -/
theorem blanks_between_refused :
    parse ['(', '-', '1', '.', '.'] = .error (.unreadable ⟨.malformedNumber, ['1', '.', '.'], 2⟩) ∧
    parse ['(', '-', ' ', '\t', '1', '.', '.'] =
      .error (.unreadable ⟨.malformedNumber, ['1', '.', '.'], 4⟩) := by
  have apart : Apart ['(', '-'] ['1', '.', '.'] := by
    intro c d last _ numeral
    cases last
    cases numeral
  have joined : parse ['(', '-', '1', '.', '.'] =
      .error (.unreadable ⟨.malformedNumber, ['1', '.', '.'], 2⟩) := by
    have read : Feed.ofText ['(', '-', '1', '.', '.'] =
        .token .leftParen 1 (.token (.operator .subtract) 2
          (.refused ⟨.malformedNumber, ['1', '.', '.'], 2⟩ 5 (.finished 5))) := by
      decide +kernel
    rw [parse, read]
    rfl
  have spaces : ∀ c ∈ [' ', '\t'], isBlank c = true := List.all_eq_true.mp rfl
  have spaced := (blanks_between ['(', '-'] [' ', '\t'] ['1', '.', '.'] apart spaces).2.1
  exact ⟨joined, spaced.trans (congrArg _ joined)⟩

end Reckon
