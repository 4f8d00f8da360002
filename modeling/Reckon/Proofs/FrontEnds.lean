import Reckon.Proofs.Limits
import Reckon.Web

/-!
One verdict for every front end. A text has a value, or it fails with a message; a row of
a batch, the service and a run for one expression each report what they find under limits of
their own. Limits show in a verdict only as the message that the expression is too deep, so
two front ends report the same unless one of them reports that. The rows of a batch depend on
nothing but their own texts, so a failure among them leaves the others as they are, and the
counts of the summary are counts of verdicts.
-/

namespace Reckon

open Web

section Outcomes

variable {α ε ε' : Type} {outcome : Except ε α} {rename : ε → ε'} {value : α}

@[simp] theorem mapError_ok : (Except.ok value : Except ε α).mapError rename = .ok value := rfl

@[simp] theorem mapError_error {error : ε} :
    (Except.error error : Except ε α).mapError rename = .error (rename error) := rfl

theorem mapError_eq_ok : outcome.mapError rename = .ok value ↔ outcome = .ok value := by
  cases outcome with
  | error error => simp
  | ok found => simp

end Outcomes

section Verdicts

variable {limits : Limits} {text : String}

def verdict (limits : Limits) (text : String) : Except String Double := do
  let tree ← (parseText limits text).mapError ParseError.message
  (evaluateTree limits tree).mapError EvalError.message

def unlimitedVerdict (text : String) : Except String Double := do
  let tree ← (parse text.toList).mapError ParseError.message
  tree.evaluate.mapError EvalError.message

def hasNonFinite (limits : Limits) (text : String) : Bool :=
  match verdict limits text with
  | .ok value => !value.isFinite
  | .error _ => false

theorem verdict_of_parse {tree : Expr} (parsed : parseText limits text = .ok tree) :
    verdict limits text = (evaluateTree limits tree).mapError EvalError.message := by
  rw [verdict, parsed]
  rfl

theorem verdict_of_refusal {error : ParseError} (refused : parseText limits text = .error error) :
    verdict limits text = .error error.message := by
  rw [verdict, refused]
  rfl

/-- A failure has the message of the part that failed. -/
theorem mapError_message (read : Except ParseError Expr) (value : Expr → Except EvalError Double) :
    (do
      let tree ← read.mapError Failure.parse
      (value tree).mapError Failure.eval).mapError Failure.message = (do
      let tree ← read.mapError ParseError.message
      (value tree).mapError EvalError.message) := by
  cases read with
  | error error => rfl
  | ok tree =>
      change ((value tree).mapError Failure.eval).mapError Failure.message =
        (value tree).mapError EvalError.message
      cases value tree with
      | error error => rfl
      | ok found => rfl

theorem mapError_calculate (limits : Limits) (text : String) :
    (calculate limits text).mapError Failure.message = verdict limits text :=
  mapError_message _ _

theorem mapError_evaluateText (text : String) :
    (evaluateText text.toList).mapError Failure.message = unlimitedVerdict text :=
  mapError_message _ _

theorem message_of_isTooDeep {cause : Failure} (deep : cause.isTooDeep = true) :
    cause.message = "expression nested too deeply" := by
  unfold Failure.isTooDeep at deep
  split at deep
  · rfl
  · rfl
  · cases deep

theorem verdict_or_tooDeep (limits : Limits) (text : String) :
    verdict limits text = unlimitedVerdict text ∨
      verdict limits text = .error "expression nested too deeply" := by
  rw [← mapError_calculate, ← mapError_evaluateText]
  rcases calculate_or_tooDeep limits text with same | ⟨cause, failed, deep⟩
  · exact Or.inl (by rw [same])
  · exact Or.inr (by rw [failed, mapError_error, message_of_isTooDeep deep])

/-- What is too deep to parse or to walk has one message for both. -/
theorem verdict_tooDeep
    (deep : parseText limits text = .error .tooDeep ∨
      ∃ tree, parseText limits text = .ok tree ∧
        evaluateTree limits tree = .error (.flawed .tooDeep)) :
    verdict limits text = .error "expression nested too deeply" := by
  rcases deep with unparsed | ⟨tree, parsed, unwalked⟩
  · exact verdict_of_refusal unparsed
  · rw [verdict_of_parse parsed, unwalked]
    rfl

theorem runOne_eq (limits : Limits) (text : String) :
    runOne limits false text =
      match verdict limits text with
      | .ok value => ⟨0, String.ofList value.display ++ "\n", ""⟩
      | .error message => complain "" message := by
  cases parsed : parseText limits text with
  | error error => rw [verdict_of_refusal parsed, runOne, parsed]
  | ok tree =>
      rw [verdict_of_parse parsed, runOne, parsed]
      cases evaluated : evaluateTree limits tree with
      | error error => simp [evaluated]
      | ok value => simp [evaluated]

end Verdicts

section Requests

def evaluateRequest (text : String) : Request :=
  ⟨"POST", "/evaluate", some (.object [("expr", .text text)])⟩

def batchRequest (texts : List String) : Request :=
  ⟨"POST", "/evaluate_batch", some (.object [("exprs", .list (texts.map .text))])⟩

theorem unescape_plain {path : List Char} (plain : '%' ∉ path) : Address.unescape path = path := by
  fun_induction Address.unescape path with
  | case1 high low rest c read ih => simp at plain
  | case2 high low rest unread ih => simp at plain
  | case3 c rest other ih => rw [ih fun escaped => plain (List.mem_cons_of_mem c escaped)]
  | case4 => rfl

theorem target_plain {path : List Char} (checked : Address.check path = .ok ⟨[], [], path⟩)
    (rooted : Address.rooted ⟨[], [], path⟩ = path) (plain : '%' ∉ path) :
    Address.target path = .ok path := by
  rw [Address.target, checked]
  change Except.ok (Address.unescape (Address.unescape (Address.rooted _))) = _
  rw [rooted, unescape_plain plain, unescape_plain plain]

theorem respond_post {name : String} {path : List Char} {route : Route}
    (found : Address.target name.toList = .ok path) (leads : Route.ofPath? path = some route)
    (posted : "POST" ∈ route.methods) (limits : Limits) (most : Int) (body : Option Data) :
    respond limits most ⟨"POST", name, body⟩ = .ok (route.answer limits most body) := by
  have method : Text.upper "POST" = "POST" := by decide +kernel
  simp only [respond, found, method]
  change Except.ok _ = _
  simp [dispatch, leads, posted]

theorem respond_evaluate (limits : Limits) (most : Int) (text : String) :
    respond limits most (evaluateRequest text) = .ok (Web.evaluate limits text) := by
  have found : Address.target "/evaluate".toList = .ok "/evaluate".toList :=
    target_plain rfl (by decide +kernel) (by decide +kernel)
  have leads : Route.ofPath? "/evaluate".toList = some .evaluate := by decide +kernel
  exact respond_post found leads (by decide) limits most _

theorem filterMap_zipIdx_texts {complaint? : Data × Nat → Option Complaint}
    (accepted : ∀ text index, complaint? (.text text, index) = none) (texts : List String) :
    (texts.map Data.text).zipIdx.filterMap complaint? = [] := by
  rw [List.filterMap_eq_nil_iff]
  rintro ⟨item, index⟩ listed
  obtain ⟨text, _, rfl⟩ := List.mem_map.mp (List.fst_mem_of_mem_zipIdx listed)
  exact accepted text index

theorem expressionsField_texts (texts : List String) :
    expressionsField (some (.object [("exprs", .list (texts.map .text))])) = .ok texts := by
  have named : requiredField "exprs" (some (.object [("exprs", .list (texts.map .text))])) =
      .ok (.list (texts.map .text)) := rfl
  unfold expressionsField
  rw [named]
  change (if List.isEmpty (List.filterMap _ _) then _ else _) = _
  rw [filterMap_zipIdx_texts fun _ _ => rfl, List.filterMap_map]
  exact congrArg Except.ok List.filterMap_some

theorem respond_batch (limits : Limits) (most : Int) (texts : List String) :
    respond limits most (batchRequest texts) = .ok (Web.batch limits most texts) := by
  have found : Address.target "/evaluate_batch".toList = .ok "/evaluate_batch".toList :=
    target_plain rfl (by decide +kernel) (by decide +kernel)
  have leads : Route.ofPath? "/evaluate_batch".toList = some .batch := by decide +kernel
  rw [batchRequest, respond_post found leads (by decide), Route.answer, expressionsField_texts]

end Requests

section Reports

def Shows (answer : Data) (value : Double) : Prop :=
  if value.isFinite then
    answer.field? "result" = some (.number value) ∧ answer.field? "repr" = none
  else
    answer.field? "result" = some .null ∧
      answer.field? "repr" = some (.text (String.ofList value.display))

def Row.Tells (row : Row) (text : String) : Except String Double → Prop
  | .ok value => row.expression = text ∧ row.value = value ∧ row.error? = none
  | .error message => row.expression = text ∧ row.value = .nan ∧ row.error? = some message

def AnswerTells (answer : Data) (text : String) : Except String Double → Prop
  | .ok value => answer.field? "expr" = some (.text text) ∧
      answer.field? "error" = some .null ∧ Shows answer value
  | .error message => answer.field? "expr" = some (.text text) ∧
      answer.field? "error" = some (.text message) ∧
      answer.field? "result" = some .null ∧ answer.field? "repr" = none

def ReplyTells (outcome : Except AddressError Reply) (text : String) :
    Except String Double → Prop
  | .ok value => ∃ body log, outcome = .ok ⟨200, some body, log⟩ ∧
      body.field? "expr" = some (.text text) ∧ Shows body value
  | .error message => ∃ log, outcome = .ok ⟨400, some (.object [("detail", .text message)]), log⟩

def Output.Tells (output : Output) : Except String Double → Prop
  | .ok value => output = ⟨0, String.ofList value.display ++ "\n", ""⟩
  | .error message => output = ⟨1, "", "error: " ++ message ++ "\n"⟩

variable (limits : Limits) (text : String)

theorem field?_append_valueFields (value : Double) {name : String} (others : List (String × Data))
    (apart : name ≠ "result" ∧ name ≠ "repr") :
    (Data.object (others ++ valueFields value)).field? name = (Data.object others).field? name := by
  unfold valueFields
  split
  · simp [Data.field?, apart.1.symm]
  · simp [Data.field?, apart.1.symm, apart.2.symm]

theorem shows_valueFields (value : Double) {others : List (String × Data)}
    (apart : ∀ field ∈ others, field.1 ≠ "repr") :
    Shows (.object (others ++ valueFields value)) value := by
  have unnamed : others.reverse.find? (·.1 == "repr") = none := by
    rw [List.find?_eq_none]
    intro field listed
    simpa using apart field (List.mem_reverse.mp listed)
  unfold Shows valueFields
  split
  · simp [Data.field?, unnamed]
  · simp [Data.field?]

theorem row_tells : (Row.ofText limits text).Tells text (verdict limits text) := by
  rw [← mapError_calculate, Row.ofText]
  cases calculate limits text with
  | error cause => exact ⟨rfl, rfl, rfl⟩
  | ok value => exact ⟨rfl, rfl, rfl⟩

theorem answer_tells :
    AnswerTells (rowData (Row.ofText limits text)) text (verdict limits text) := by
  rw [← mapError_calculate, Row.ofText]
  cases calculate limits text with
  | error cause => simp [AnswerTells, rowData, Data.field?]
  | ok value =>
      have body : rowData ⟨text, .ok value⟩ =
          .object ([("expr", .text text), ("error", .null)] ++ valueFields value) := rfl
      rw [body]
      refine ⟨?_, ?_, shows_valueFields value (by simp)⟩
      · exact field?_append_valueFields value _ (by decide)
      · exact field?_append_valueFields value _ (by decide)

theorem reply_tells (most : Int) :
    ReplyTells (respond limits most (evaluateRequest text)) text (verdict limits text) := by
  rw [respond_evaluate, Web.evaluate, ← mapError_calculate]
  cases calculate limits text with
  | error cause => exact ⟨_, rfl⟩
  | ok value =>
      refine ⟨.object ([("expr", .text text)] ++ valueFields value), [], rfl, ?_, ?_⟩
      · exact field?_append_valueFields value _ (by decide)
      · exact shows_valueFields value (by simp)

theorem output_tells : (runOne limits false text).Tells (verdict limits text) := by
  rw [runOne_eq]
  cases verdict limits text with
  | ok value => rfl
  | error message => rfl

end Reports

section Counts

structure Summary.Counts (summary : Summary) (limits : Limits) (texts : List String) : Prop where
  total : summary.total = texts.length
  parts : summary.ok + summary.failed = texts.length
  failed : summary.failed = texts.countP fun text => !(verdict limits text).isOk
  nonFinite : summary.nonFinite = texts.countP (hasNonFinite limits)

theorem failed_ofText (limits : Limits) (text : String) :
    (Row.ofText limits text).failed = !(verdict limits text).isOk := by
  rw [← mapError_calculate, Row.failed, Row.error?, Row.ofText]
  cases calculate limits text with
  | error cause => rfl
  | ok value => rfl

theorem nonFinite_ofText (limits : Limits) (text : String) :
    (Row.ofText limits text).nonFinite = hasNonFinite limits text := by
  rw [hasNonFinite, ← mapError_calculate, Row.nonFinite, Row.ofText]
  cases calculate limits text with
  | error cause => rfl
  | ok value => rfl

theorem summarize_parts (rows : List Row) :
    (summarize rows).ok + (summarize rows).failed = (summarize rows).total := by
  simp only [summarize]
  rw [List.length_eq_countP_add_countP Row.failed, Nat.add_comm]
  simp

theorem summarize_evaluateBatch (limits : Limits) (texts : List String) :
    (summarize (evaluateBatch limits texts)).Counts limits texts where
  total := List.length_map _
  parts := (summarize_parts _).trans (List.length_map _)
  failed := by
    change (texts.map (Row.ofText limits)).countP Row.failed = _
    rw [List.countP_map]
    exact List.countP_congr fun text _ => by simp [failed_ofText]
  nonFinite := by
    change (texts.map (Row.ofText limits)).countP Row.nonFinite = _
    rw [List.countP_map]
    exact List.countP_congr fun text _ => by simp [nonFinite_ofText]

end Counts

/-- Where a text may be calculated: as a row of a batch, on a request for it alone, on a
request for a batch, and in a run for it alone. -/
inductive FrontEnd where
  | batch | reply | batchReply | run

structure Told (limits : FrontEnd → Limits) (most : Int) (text : String) (row : Row)
    (answer : Data) : Prop where
  asRow : row.Tells text (verdict (limits .batch) text)
  asReply : ReplyTells (respond (limits .reply) most (evaluateRequest text)) text
    (verdict (limits .reply) text)
  asAnswer : AnswerTells answer text (verdict (limits .batchReply) text)
  asOutput : (runOne (limits .run) false text).Tells (verdict (limits .run) text)

/-- Each front end has limits of its own: there may be less room left where it calculates. -/
structure FrontEndsAgree (limits : FrontEnd → Limits) (most : Int) (texts : List String) :
    Prop where
  rows : evaluateBatch (limits .batch) texts = texts.map (Row.ofText (limits .batch))
  answers : ∃ log, respond (limits .batchReply) most (batchRequest texts) =
    .ok ⟨200, some (.object [
      ("rows", .list (texts.map fun text => rowData (Row.ofText (limits .batchReply) text))),
      ("summary", summaryData (summarize (evaluateBatch (limits .batchReply) texts)))]), log⟩
  told : ∀ (index : Nat) text, texts[index]? = some text →
    ∃ row answer, (evaluateBatch (limits .batch) texts)[index]? = some row ∧
      (texts.map fun text => rowData (Row.ofText (limits .batchReply) text))[index]? =
        some answer ∧
      Told limits most text row answer
  agree : ∀ one other text, verdict (limits one) text = verdict (limits other) text ∨
    verdict (limits one) text = .error "expression nested too deeply" ∨
    verdict (limits other) text = .error "expression nested too deeply"
  settled : ∀ frontEnd text, verdict (limits frontEnd) text = unlimitedVerdict text ∨
    verdict (limits frontEnd) text = .error "expression nested too deeply"
  tooDeep : ∀ frontEnd text, (parseText (limits frontEnd) text = .error .tooDeep ∨
      ∃ tree, parseText (limits frontEnd) text = .ok tree ∧
        evaluateTree (limits frontEnd) tree = .error (.flawed .tooDeep)) →
    verdict (limits frontEnd) text = .error "expression nested too deeply"
  room : ∀ text, ∃ least : Limits, ∀ given : Limits,
    least.nesting ≤ given.nesting → least.levels ≤ given.levels →
      verdict given text = unlimitedVerdict text
  counts : ∀ frontEnd,
    (summarize (evaluateBatch (limits frontEnd) texts)).Counts (limits frontEnd) texts

end Reckon
