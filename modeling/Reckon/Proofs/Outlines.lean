import Mathlib
import Reckon.Expr.Description
import Reckon.Proofs.Display

/-!
An outline determines its tree, whatever the indent is. Lines cannot be told apart by
themselves: an indent may hold line breaks, or look like a label or a node. But depth and
place are known before a node is read, so the margin is known, and behind it the first
two characters give the kind of the node. The text of a tree ends where the tree ends,
so nothing is lost by writing one tree behind another.
-/

namespace Reckon

/-- What is written can be told from whatever follows it. -/
def SelfDelimiting {α : Type} (write : α → List Char) : Prop :=
  ∀ ⦃first second : α⦄ ⦃rest rest' : List Char⦄,
    write first ++ rest = write second ++ rest' → first = second ∧ rest = rest'

theorem eq_of_delimited {mark : Char} {text text' rest rest' : List Char} (clean : mark ∉ text)
    (clean' : mark ∉ text') (same : text ++ mark :: rest = text' ++ mark :: rest') :
    text = text' ∧ rest = rest' := by
  have inside {run : List Char} (absent : mark ∉ run) : ∀ c ∈ run, (c != mark) = true := by
    intro c member
    rw [bne_iff_ne]
    rintro rfl
    exact absent member
  have before := congrArg (List.takeWhile (· != mark)) same
  have after := congrArg (List.dropWhile (· != mark)) same
  rw [takeWhile_run (inside clean) (mark_ends mark rest),
    takeWhile_run (inside clean') (mark_ends mark rest')] at before
  rw [dropWhile_run (inside clean) (mark_ends mark rest),
    dropWhile_run (inside clean') (mark_ends mark rest')] at after
  exact ⟨before, List.tail_eq_of_cons_eq after⟩

theorem numberLine_eq (value : Double) :
    numberLine value = ['N', 'u', 'm', 'b', 'e', 'r', '('] ++ value.display ++ [')'] := rfl

theorem numberLine_selfDelimiting : SelfDelimiting numberLine := by
  intro first second rest rest' same
  simp only [numberLine_eq, List.append_assoc, List.singleton_append] at same
  obtain ⟨shown, after⟩ := eq_of_delimited (Double.text_unclosed .display first)
    (Double.text_unclosed .display second) (List.append_cancel_left same)
  exact ⟨Double.text_injective .display shown, after⟩

def negativeLine : List Char := ['N', 'e', 'g', 'a', 't', 'i', 'v', 'e']

def Operator.line (op : Operator) : List Char := op.nodeName ++ ['(', op.symbol, ')']

theorem Operator.line_selfDelimiting : SelfDelimiting Operator.line := by
  intro op op' rest rest' same
  cases op <;> cases op' <;> simp_all [line, nodeName, symbol]

theorem Operator.line_start (op : Operator) : ∃ c rest, op.line = c :: rest ∧ c ≠ 'N' := by
  cases op <;> exact ⟨_, _, rfl, by decide⟩

structure LeafCode {α : Type} (leafText : α → List Char) : Prop where
  delimited : SelfDelimiting leafText
  start : ∀ value, ∃ c rest, leafText value = 'N' :: c :: rest ∧ c ≠ 'e'

theorem numberLine_leafCode : LeafCode numberLine where
  delimited := numberLine_selfDelimiting
  start value := ⟨'u', _, numberLine_eq value, by decide⟩

namespace Tree

variable {α : Type} {leafText : α → List Char}

def margin (indent : List Char) (depth : Nat) (place : Place) : List Char :=
  (List.replicate depth indent).flatten ++ place.label

def outlineBody (indent : List Char) (leafText : α → List Char) : Nat → Tree α → List Char
  | _, .leaf value => leafText value
  | depth, .negative operand =>
      negativeLine ++ '\n' ::
        (margin indent (depth + 1) .operand ++ outlineBody indent leafText (depth + 1) operand)
  | depth, .binary op left right =>
      op.line ++ '\n' ::
        (margin indent (depth + 1) .left ++ (outlineBody indent leafText (depth + 1) left ++ '\n' ::
          (margin indent (depth + 1) .right ++ outlineBody indent leafText (depth + 1) right)))

section Lines

variable (indent : List Char) (leafText : α → List Char) (depth : Nat) (place : Place)

theorem outlineLines_leaf (value : α) :
    outlineLines indent leafText depth place (.leaf value) =
      [margin indent depth place ++ leafText value] := rfl

theorem outlineLines_negative (operand : Tree α) :
    outlineLines indent leafText depth place (.negative operand) =
      (margin indent depth place ++ negativeLine) ::
        operand.outlineLines indent leafText (depth + 1) .operand := rfl

theorem outlineLines_binary (op : Operator) (left right : Tree α) :
    outlineLines indent leafText depth place (.binary op left right) =
      (margin indent depth place ++ op.line) ::
        (left.outlineLines indent leafText (depth + 1) .left ++
          right.outlineLines indent leafText (depth + 1) .right) := rfl

theorem outlineLines_ne_nil (tree : Tree α) :
    tree.outlineLines indent leafText depth place ≠ [] := by
  cases tree with
  | leaf value => exact List.cons_ne_nil _ _
  | negative operand => exact List.cons_ne_nil _ _
  | binary op left right => exact List.cons_ne_nil _ _

theorem intercalate_append {lines lines' : List (List Char)} (nonempty : lines ≠ [])
    (nonempty' : lines' ≠ []) :
    List.intercalate ['\n'] (lines ++ lines') =
      List.intercalate ['\n'] lines ++ '\n' :: List.intercalate ['\n'] lines' := by
  induction lines with
  | nil => exact absurd rfl nonempty
  | cons line lines ih =>
      by_cases last : lines = []
      · simp [last, List.intercalate_cons_of_ne_nil nonempty']
      · have more : lines ++ lines' ≠ [] := by simp [last]
        rw [List.cons_append, List.intercalate_cons_of_ne_nil more,
          List.intercalate_cons_of_ne_nil last, ih last]
        simp

theorem intercalate_outlineLines (tree : Tree α) :
    List.intercalate ['\n'] (tree.outlineLines indent leafText depth place) =
      margin indent depth place ++ tree.outlineBody indent leafText depth := by
  induction tree generalizing depth place with
  | leaf value => rw [outlineLines_leaf, List.intercalate_singleton, outlineBody]
  | negative operand ih =>
      have below := outlineLines_ne_nil indent leafText (depth + 1) .operand operand
      rw [outlineLines_negative, List.intercalate_cons_of_ne_nil below, ih, outlineBody]
      simp only [List.append_assoc, List.singleton_append]
  | binary op left right ihLeft ihRight =>
      have first := outlineLines_ne_nil indent leafText (depth + 1) .left left
      have second := outlineLines_ne_nil indent leafText (depth + 1) .right right
      have below := List.append_ne_nil_of_left_ne_nil first
        (right.outlineLines indent leafText (depth + 1) .right)
      rw [outlineLines_binary, List.intercalate_cons_of_ne_nil below,
        intercalate_append first second, ihLeft, ihRight, outlineBody]
      simp only [List.append_assoc, List.singleton_append]

end Lines

section Kinds

variable {rest rest' : List Char} {value : α} {op : Operator}

theorem leaf_ne_negative (leaves : LeafCode leafText) :
    leafText value ++ rest ≠ negativeLine ++ rest' := by
  obtain ⟨c, behind, start, other⟩ := leaves.start value
  rw [start]
  intro same
  exact other (List.cons.inj (List.cons.inj same).2).1

theorem leaf_ne_binary (leaves : LeafCode leafText) : leafText value ++ rest ≠ op.line ++ rest' := by
  obtain ⟨c, behind, start, _⟩ := leaves.start value
  obtain ⟨d, behind', start', other⟩ := op.line_start
  rw [start, start']
  intro same
  exact other (List.cons.inj same).1.symm

theorem negative_ne_binary : negativeLine ++ rest ≠ op.line ++ rest' := by
  obtain ⟨d, behind, start, other⟩ := op.line_start
  rw [start]
  intro same
  exact other (List.cons.inj same).1.symm

end Kinds

/-- The kind of the first tree is the kind of the second, and below it the margins are
the same, so the operands can be compared in turn. -/
theorem outlineBody_selfDelimiting (leaves : LeafCode leafText) (indent : List Char) (depth : Nat) :
    SelfDelimiting (outlineBody indent leafText depth) := by
  intro first
  induction first generalizing depth with
  | leaf value =>
      intro second rest rest' same
      cases second <;> simp only [outlineBody, List.append_assoc] at same
      case leaf value' =>
        obtain ⟨rfl, after⟩ := leaves.delimited same
        exact ⟨rfl, after⟩
      case negative operand' => exact absurd same (leaf_ne_negative leaves)
      case binary op' left' right' => exact absurd same (leaf_ne_binary leaves)
  | negative operand ih =>
      intro second rest rest' same
      cases second <;> simp only [outlineBody, List.append_assoc, List.cons_append] at same
      case leaf value' => exact absurd same.symm (leaf_ne_negative leaves)
      case negative operand' =>
        simp only [List.append_cancel_left_eq, List.cons.injEq, true_and] at same
        obtain ⟨rfl, after⟩ := ih (depth + 1) same
        exact ⟨rfl, after⟩
      case binary op' left' right' => exact absurd same negative_ne_binary
  | binary op left right ihLeft ihRight =>
      intro second rest rest' same
      cases second <;> simp only [outlineBody, List.append_assoc, List.cons_append] at same
      case leaf value' => exact absurd same.symm (leaf_ne_binary leaves)
      case negative operand' => exact absurd same.symm negative_ne_binary
      case binary op' left' right' =>
        obtain ⟨rfl, below⟩ := Operator.line_selfDelimiting same
        simp only [List.append_cancel_left_eq, List.cons.injEq, true_and] at below
        obtain ⟨rfl, beyond⟩ := ihLeft (depth + 1) below
        simp only [List.append_cancel_left_eq, List.cons.injEq, true_and] at beyond
        obtain ⟨rfl, after⟩ := ihRight (depth + 1) beyond
        exact ⟨rfl, after⟩

theorem outlineBy_eq (indent : List Char) (tree : Tree α) :
    tree.outlineBy indent leafText = tree.outlineBody indent leafText 0 :=
  intercalate_outlineLines indent leafText 0 .root tree

end Tree

/-- Two trees with the same outline are the same tree: same shape, same operators, and the
same double at every leaf, the sign of a zero included. The indent may be any text. -/
theorem outline_eq_iff (indent : List Char) (first second : Expr) :
    first.outline indent = second.outline indent ↔ first = second := by
  constructor
  · intro same
    simp only [Expr.outline, Tree.outlineBy_eq] at same
    have whole := congrArg (· ++ []) same
    exact (Tree.outlineBody_selfDelimiting numberLine_leafCode indent 0 whole).1
  · rintro rfl
    rfl

end Reckon
