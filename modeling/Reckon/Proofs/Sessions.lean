import Reckon.CommandLine.Run
import Reckon.Proofs.FrontEnds

/-!
A session is its lines, one after the other. What it prints is what runs for the single
expressions print, up to the first line that asks to leave; at a terminal a prompt stands
before each reading, and nothing else is different. The report on a file with the same
lines counts the same expressions and the same failures.
-/

namespace Reckon

namespace Text

/-- A text as lines: a line feed ends each of them, and only the last one may lack it. -/
inductive Lines : List Char → List (List Char) → Prop where
  | none : Lines [] []
  | last {line : List Char} (visible : line ≠ []) (within : '\n' ∉ line) : Lines line [line]
  | ended {line rest : List Char} {lines : List (List Char)} (within : '\n' ∉ line)
      (more : Lines rest lines) : Lines (line ++ '\n' :: rest) (line :: lines)

theorem sessionLines_last {line : List Char} (visible : line ≠ []) (within : '\n' ∉ line) :
    sessionLines line = [line] := by
  simp [sessionLines, List.splitOn_eq_singleton within, visible]

theorem sessionLines_ended {line : List Char} (within : '\n' ∉ line) (rest : List Char) :
    sessionLines (line ++ '\n' :: rest) = line :: sessionLines rest := by
  obtain ⟨first, more, shape⟩ := List.exists_cons_of_ne_nil (List.splitOn_ne_nil '\n' rest)
  simp only [sessionLines, List.splitOn_append_cons_self_of_not_mem within, shape,
    List.getLast?_cons_cons, List.dropLast_cons_cons]
  split <;> rfl

theorem Lines.sessionLines_eq {text : List Char} {lines : List (List Char)}
    (read : Lines text lines) : sessionLines text = lines := by
  induction read with
  | none => rfl
  | last visible within => exact sessionLines_last visible within
  | ended within more ih => rw [sessionLines_ended within, ih]

theorem exists_lines (text : List Char) : ∃ lines, Lines text lines := by
  induction text with
  | nil => exact ⟨[], .none⟩
  | cons c text ih =>
      obtain ⟨lines, read⟩ := ih
      by_cases feed : c = '\n'
      · subst feed
        exact ⟨[] :: lines, .ended List.not_mem_nil read⟩
      · have longer {line : List Char} (within : '\n' ∉ line) : '\n' ∉ c :: line := by
          simpa [Ne.symm feed] using within
        cases read with
        | none => exact ⟨[[c]], .last (List.cons_ne_nil _ _) (longer List.not_mem_nil)⟩
        | last visible within => exact ⟨_, .last (List.cons_ne_nil _ _) (longer within)⟩
        | ended within more => exact ⟨_, .ended (longer within) more⟩

/-- Every text has its lines, and no others. -/
theorem lines_iff (text : List Char) (lines : List (List Char)) :
    Lines text lines ↔ lines = sessionLines text := by
  constructor
  · intro read
    exact read.sessionLines_eq.symm
  · rintro rfl
    obtain ⟨lines, read⟩ := exists_lines text
    rwa [read.sessionLines_eq]

end Text

section Answers

def answeredLines (lines : List (List Char)) : List (List Char) :=
  lines.takeWhile fun line => !asksToLeave line

def readLines (lines : List (List Char)) : List (List Char) :=
  lines.take ((answeredLines lines).length + 1)

def expressionsOn (lines : List (List Char)) : List String :=
  ((lines.map Text.strip).filter (· ≠ [])).map String.ofList

/-- What is printed after each reading; after the last one that is nothing. -/
def printedTexts (limits : Limits) (showTree : Bool) (lines : List (List Char)) : List String :=
  (answeredLines lines).map (fun line => (answerLine limits showTree line).out) ++ [""]

def outputsOn (limits : Limits) (showTree : Bool) (lines : List (List Char)) : List Output :=
  (expressionsOn (answeredLines lines)).map (runOne limits showTree)

theorem answeredLines_append {front : List (List Char)}
    (staying : ∀ line ∈ front, asksToLeave line = false) (back : List (List Char)) :
    answeredLines (front ++ back) = front ++ answeredLines back := by
  apply List.takeWhile_append_of_pos
  intro line member
  simp [staying line member]

theorem answeredLines_eq_self {lines : List (List Char)}
    (staying : ∀ line ∈ lines, asksToLeave line = false) : answeredLines lines = lines := by
  have none : answeredLines [] = [] := rfl
  have whole := answeredLines_append staying []
  rwa [none, List.append_nil] at whole

/-- Nothing behind a line that asks to leave is answered. -/
theorem answeredLines_stop {line : List Char} (leaving : asksToLeave line = true)
    (front back : List (List Char)) : answeredLines (front ++ line :: back) = answeredLines front := by
  unfold answeredLines
  induction front with
  | nil => simp [leaving]
  | cons first front ih => simp only [List.cons_append, List.takeWhile_cons, ih]

/-- One reading for each line that is read, and one more that meets the end of the input. -/
theorem length_printedTexts (limits : Limits) (showTree : Bool) (lines : List (List Char)) :
    (printedTexts limits showTree lines).length =
      (readLines lines).length + if lines.any asksToLeave then 0 else 1 := by
  simp only [printedTexts, readLines, List.length_append, List.length_map, List.length_singleton,
    List.length_take]
  by_cases leaving : lines.any asksToLeave = true
  · obtain ⟨line, member, leaves⟩ := List.any_eq_true.mp leaving
    obtain ⟨front, back, rfl⟩ := List.append_of_mem member
    have shorter := (List.takeWhile_prefix (l := front) fun line => !asksToLeave line).length_le
    rw [answeredLines_stop leaves, if_pos leaving, List.length_append, List.length_cons]
    unfold answeredLines
    omega
  · have staying : ∀ line ∈ lines, asksToLeave line = false := by simpa using leaving
    rw [answeredLines_eq_self staying, if_neg leaving]
    omega

/-- The loop answers the lines up to the first one that asks to leave, with a prompt before
each reading. -/
theorem answerLines_eq (limits : Limits) (terminal showTree : Bool) (lines : List (List Char)) :
    answerLines limits terminal showTree lines =
      ⟨0, String.join ((printedTexts limits showTree lines).map (prompt terminal ++ ·)),
        String.join ((answeredLines lines).map fun line =>
          (answerLine limits showTree line).err)⟩ := by
  induction lines with
  | nil => simp [answerLines, printedTexts, answeredLines]
  | cons line rest ih =>
      by_cases leaving : asksToLeave line = true
      · simp [answerLines, printedTexts, answeredLines, leaving]
      · have answered : answeredLines (line :: rest) = line :: answeredLines rest := by
          simp [answeredLines, leaving]
        simp only [answerLines, if_neg leaving, ih, printedTexts, answered, List.map_cons,
          List.cons_append, String.join_cons]

theorem strip_append_lineFeed (line : List Char) :
    Text.strip (line ++ ['\n']) = Text.strip line := by
  have blank : Text.isSpace '\n' = true := rfl
  rw [Text.strip, Text.strip, Text.trimBy, Text.trimBy, List.dropWhile_append]
  split
  · rename_i nothing
    rw [List.isEmpty_iff.mp nothing]
    simp [blank]
  · simp [blank]

theorem expressionsOn_append (front back : List (List Char)) :
    expressionsOn (front ++ back) = expressionsOn front ++ expressionsOn back := by
  simp [expressionsOn]

/-- Blank lines print nothing, so the texts of the lines are those of their expressions. -/
theorem join_answerLine {part : Output → String} (silent : part ⟨0, "", ""⟩ = "")
    (limits : Limits) (showTree : Bool) (lines : List (List Char)) :
    String.join (lines.map fun line => part (answerLine limits showTree line)) =
      String.join (((expressionsOn lines).map (runOne limits showTree)).map part) := by
  induction lines with
  | nil => rfl
  | cons line lines ih =>
      by_cases blank : Text.strip line = []
      · have source : String.ofList (Text.strip line) = "" := by rw [blank, String.ofList_nil]
        have skipped : expressionsOn (line :: lines) = expressionsOn lines := by
          simp [expressionsOn, blank]
        rw [List.map_cons, String.join_cons, ih, skipped, answerLine, if_pos source, silent,
          String.empty_append]
      · have source : String.ofList (Text.strip line) ≠ "" := by
          simpa [String.ofList_eq_empty_iff] using blank
        have kept : expressionsOn (line :: lines) =
            String.ofList (Text.strip line) :: expressionsOn lines := by
          simp [expressionsOn, blank]
        rw [List.map_cons, String.join_cons, ih, kept, answerLine, if_neg source, List.map_cons,
          List.map_cons, String.join_cons]

theorem join_printedTexts (limits : Limits) (showTree : Bool) (lines : List (List Char)) :
    String.join (printedTexts limits showTree lines) =
      String.join ((outputsOn limits showTree lines).map Output.out) := by
  rw [printedTexts, String.join_append, join_answerLine rfl, outputsOn]
  simp

/-- Without a terminal nothing is printed but the answers to the expressions. -/
theorem session_eq (limits : Limits) (showTree : Bool) (text : String) :
    session limits false showTree text =
      let outputs := outputsOn limits showTree (Text.sessionLines text.toList)
      ⟨0, String.join (outputs.map Output.out), String.join (outputs.map Output.err)⟩ := by
  have unprompted : (prompt false ++ ·) = id := by
    funext printed
    exact String.empty_append
  rw [session, answerLines_eq, unprompted, List.map_id, join_printedTexts, join_answerLine rfl]
  rfl

end Answers

section Files

theorem unifyLineEnds_eq_self {text : List Char} (plain : '\r' ∉ text) :
    Text.unifyLineEnds text = text := by
  fun_induction Text.unifyLineEnds text with
  | case1 rest ih => simp at plain
  | case2 rest other ih => simp at plain
  | case3 c rest other other' ih => rw [ih fun member => plain (List.mem_cons_of_mem c member)]
  | case4 => rfl

/-- A file and a session find the same expressions; what may follow the last line feed of
a file is a blank line at most. -/
theorem fileLines_eq {text : List Char} (plain : '\r' ∉ text) :
    (Text.fileLines text).map String.ofList = expressionsOn (Text.sessionLines text) := by
  rw [Text.fileLines, unifyLineEnds_eq_self plain, expressionsOn, Text.sessionLines]
  split
  · rename_i unended
    obtain ⟨front, shape⟩ := List.getLast?_eq_some_iff.mp unended
    rw [shape, List.dropLast_concat]
    simp [show Text.strip [] = [] from rfl]
  · rfl

/-- Whether the tree is shown makes no difference to the status. -/
theorem runOne_status (limits : Limits) (showTree : Bool) (text : String) :
    (runOne limits showTree text).status = if (verdict limits text).isOk then 0 else 1 := by
  cases showTree with
  | false =>
      rw [runOne_eq]
      cases verdict limits text <;> rfl
  | true =>
      cases parsed : parseText limits text with
      | error error =>
          rw [verdict_of_refusal parsed, runOne, parsed]
          rfl
      | ok tree =>
          rw [verdict_of_parse parsed, runOne, parsed]
          by_cases shallow : tree.height ≤ limits.levels
          · have outline : tree.shallow limits.levels = .ok tree := if_pos shallow
            cases evaluated : evaluateTree limits tree <;> simp only [outline, evaluated] <;> rfl
          · have outline : tree.shallow limits.levels = .error .tooDeep := if_neg shallow
            obtain ⟨error, failed⟩ : ∃ error, evaluateTree limits tree = .error error :=
              evaluateWithin_deep (Nat.lt_of_not_le shallow)
            simp only [outline, failed]
            rfl

theorem countP_status (limits : Limits) (showTree : Bool) (sources : List String) :
    (sources.map (runOne limits showTree)).countP (·.status = 1) =
      (summarize (evaluateBatch limits sources)).failed := by
  rw [(summarize_evaluateBatch limits sources).failed, List.countP_map]
  apply List.countP_congr
  intro source _
  rw [Function.comp_apply, decide_eq_true_eq, runOne_status]
  cases (verdict limits source).isOk <;> simp

structure CountsFailures (output : Output) (limits : Limits) (sources : List String)
    (failed : Nat) : Prop where
  out : output.out = Report.table (evaluateBatch limits sources) ++ "\n\n" ++
    toString (sources.length - failed) ++ "/" ++ toString sources.length ++ " evaluated, " ++
    toString failed ++ " failed\n"
  fails : output.status = 1 ↔ 0 < failed
  passes : output.status = 0 ↔ failed = 0

theorem fileReport_status (limits : Limits) (least : Nat) (text : List Char) :
    let rows := evaluateBatch limits ((Text.fileLines text).map String.ofList)
    (CommandLine.fileReport limits least text).status =
      if 0 < (summarize rows).failed then 1 else 0 := by
  intro rows
  change (if rows.any Row.failed then 1 else 0) = _
  have counted : 0 < (summarize rows).failed ↔ rows.any Row.failed = true := by
    rw [summarize, List.countP_pos_iff, List.any_eq_true]
  simp only [counted]

theorem fileReport_counts (limits : Limits) (showTree : Bool) (least : Nat) {text : List Char}
    (plain : '\r' ∉ text) :
    let sources := expressionsOn (Text.sessionLines text)
    CountsFailures (CommandLine.fileReport limits least text) limits sources
      ((sources.map (runOne limits showTree)).countP (·.status = 1)) := by
  intro sources
  have listed : (Text.fileLines text).map String.ofList = sources := fileLines_eq plain
  have counts := summarize_evaluateBatch limits sources
  have status := fileReport_status limits least text
  have out : (CommandLine.fileReport limits least text).out = Report.text _ := rfl
  rw [listed] at status out
  rw [countP_status]
  constructor
  · rw [out, Report.text, counts.total, Nat.eq_sub_of_add_eq counts.parts]
  · rw [status]
    split <;> omega
  · rw [status]
    split <;> omega

end Files

structure FollowsLines (limits : Limits) (showTree : Bool) (text : String)
    (lines : List (List Char)) : Prop where
  lines_iff : ∀ found, Text.Lines text.toList found ↔ found = lines
  lineFeed : ∀ line, asksToLeave (line ++ ['\n']) = asksToLeave line ∧
    answerLine limits showTree (line ++ ['\n']) = answerLine limits showTree line
  printed : session limits false showTree text =
    ⟨0, String.join ((outputsOn limits showTree lines).map Output.out),
      String.join ((outputsOn limits showTree lines).map Output.err)⟩
  prompted : session limits true showTree text =
    ⟨0, String.join ((printedTexts limits showTree lines).map ("> " ++ ·)),
      (session limits false showTree text).err⟩
  unprompted : (session limits false showTree text).out =
    String.join (printedTexts limits showTree lines)
  prompts : (printedTexts limits showTree lines).length =
    (readLines lines).length + if lines.any asksToLeave then 0 else 1
  left : ∀ front line back, lines = front ++ line :: back → asksToLeave line = true →
    ∀ other back', Text.Lines other.toList (front ++ line :: back') →
      ∀ terminal, session limits terminal showTree other = session limits terminal showTree text
  resumed : ∀ front back, lines = front ++ back → (∀ line ∈ front, asksToLeave line = false) →
    ∀ later, Text.Lines later.toList back →
      let earlier := (expressionsOn front).map (runOne limits showTree)
      session limits false showTree text =
        ⟨0, String.join (earlier.map Output.out) ++ (session limits false showTree later).out,
          String.join (earlier.map Output.err) ++ (session limits false showTree later).err⟩
  reported : ∀ least, '\r' ∉ text.toList → (∀ line ∈ lines, asksToLeave line = false) →
    expressionsOn (answeredLines lines) = expressionsOn lines ∧
    CountsFailures (CommandLine.fileReport limits least text.toList) limits (expressionsOn lines)
      ((outputsOn limits showTree lines).countP (·.status = 1))

/-- A session ends with status zero, whatever the limits are. Without a terminal it prints
what runs for the single expressions print, in the order of their lines and up to the first
line that asks to leave; whether a line is read with its line feed makes no difference. A
terminal adds one prompt before each reading: one for every line that is read and one for the
end of the input. What follows a line that asks to leave makes no difference, and lines behind
others are answered as in a session of their own, whatever came before. The report on a file
with the same lines, none of which asks to leave, counts under the same limits the expressions
and those that fail in the session, and its status tells whether there are any. -/
theorem session_follows_lines (limits : Limits) (showTree : Bool) (text : String) :
    FollowsLines limits showTree text (Text.sessionLines text.toList) where
  lines_iff := Text.lines_iff text.toList
  lineFeed line := by simp only [asksToLeave, answerLine, strip_append_lineFeed, and_self]
  printed := session_eq limits showTree text
  prompted := by
    rw [session_eq, session, answerLines_eq, join_answerLine rfl]
    rfl
  unprompted := by rw [session_eq, join_printedTexts]
  prompts := length_printedTexts limits showTree _
  left := by
    intro front line back shape leaving other back' read terminal
    have prefixed : answeredLines (Text.sessionLines other.toList) =
        answeredLines (Text.sessionLines text.toList) := by
      rw [read.sessionLines_eq, shape, answeredLines_stop leaving, answeredLines_stop leaving]
    rw [session, session, answerLines_eq, answerLines_eq, printedTexts, printedTexts, prefixed]
  resumed := by
    intro front back shape staying later read earlier
    have split : outputsOn limits showTree (Text.sessionLines text.toList) =
        earlier ++ outputsOn limits showTree back := by
      rw [outputsOn, shape, answeredLines_append staying, expressionsOn_append, List.map_append,
        outputsOn]
    simp only [session_eq, read.sessionLines_eq, split, List.map_append, String.join_append]
  reported := by
    intro least unreturned staying
    have all : answeredLines (Text.sessionLines text.toList) = Text.sessionLines text.toList :=
      answeredLines_eq_self staying
    refine ⟨congrArg expressionsOn all, ?_⟩
    rw [outputsOn, all]
    exact fileReport_counts limits showTree least unreturned

/-- A blank line of a wide space and a failing line in the middle; then the same lines before
a line that asks to leave, behind which something else follows. -/
theorem session_follows_lines_past_failure :
    let limits : Limits := ⟨500, 500⟩
    let text := "1\n\u3000\n(\n1"
    let outputs := ["1", "(", "1"].map (runOne limits true)
    (session limits false true text).out = String.join (outputs.map Output.out) ∧
    (CommandLine.fileReport limits 30 text.toList).status = 1 ∧
    session limits true true "1\n quit\n2" = session limits true true "1\n quit\n(" := by
  intro limits text outputs
  have follows := session_follows_lines limits true text
  have answered : outputsOn limits true (Text.sessionLines text.toList) = outputs :=
    congrArg (List.map (runOne limits true)) (by decide +kernel)
  have fails : 0 < outputs.countP (·.status = 1) := by decide +kernel
  refine ⟨?_, ?_, ?_⟩
  · rw [follows.printed, answered]
  · obtain ⟨_, counts⟩ := follows.reported 30 (by decide +kernel) (by decide +kernel)
    rw [answered] at counts
    exact counts.fails.mpr fails
  · have leaving := session_follows_lines limits true "1\n quit\n("
    apply leaving.left [['1']] [' ', 'q', 'u', 'i', 't'] [['(']] (by decide +kernel)
      (by decide +kernel) _ [['2']]
    exact (Text.lines_iff _ _).mpr (by decide +kernel)

end Reckon
