import ModalEditor.Command.Basic
import ModalEditor.Edit.Cut
import ModalEditor.Edit.Indent
import ModalEditor.Edit.Join
import ModalEditor.Edit.Paste
import ModalEditor.Log.Span
import ModalEditor.Motion.Reach
/-!
# Operating

Operators on a range, and on whole lines for the doubled ones. Each runs in a span of its own.
-/
namespace ModalEditor

namespace Operator

/-- What an operator makes of a range. Putting and its kin take no range. -/
def onRange (op : Operator) (range : Range) (lines : List Text) (count : Int) (style : IndentStyle) :
    Except Fault (Option Edit) :=
  match op with
  | .delete | .change => deleteRange range lines
  | .yank => yankRange range lines count
  | .indent => indentLines range lines count style
  | .dedent => .ok (dedentLines range lines count style)
  | .join => .ok (some (joinLines range lines count))
  | .paste | .pasteBefore => .ok none

def hasRange : Operator → Bool
  | .paste | .pasteBefore => false
  | _ => true

end Operator

/-- Takes a doubled delete or change: whole lines go; a change leaves the indent of the first. -/
def cutLines (keepIndent : Bool) (position : Position) (lines : List Text) (count : Int) :
    Except Fault Edit := do
  let rows ← linewiseRange position lines count
  let first := rows.start.line.toNat
  let next := (rows.stop.line + 1).toNat
  let removed := (lines.take next).drop first
  let kept := lines.take first ++ lines.drop next
  if keepIndent then
    let lead := Text.indent (removed.headD [])
    return ⟨lines.take first ++ [lead] ++ lines.drop next, Text.unlines removed,
      ⟨rows.start.line, lead.length⟩⟩
  else
    let left := if kept = [] then [[]] else kept
    let row := min first (left.length - 1)
    return ⟨left, Text.unlines removed, ⟨row, firstNonBlank ((left[row]?).getD [])⟩⟩

/-- What a range and a count are written as in the log, if they can be. -/
def operateContext (range : Range) (count : Int) : Fields Value :=
  [("start".toList, .position range.start), ("end".toList, .position range.stop),
    ("count".toList, .integer count)]

/-- An operator on a range, in its span. -/
def Operator.operate (op : Operator) (range : Range) (lines : List Text) (count : Int)
    (style : IndentStyle) : Logged (Except Fault (Option Edit)) :=
  if op.hasRange then
    spanned none ("operator::".toList ++ [op.key]) "operators".toList (operateContext range count)
      (fun _ => none) (pure (op.onRange range lines count style))
  else pure (.ok none)

def wholeLine (lines : List Text) (row : Int) : Range :=
  ⟨⟨row, 0⟩, ⟨row, max 0 (((lineOf lines row).length : Int) - 1)⟩⟩

/-- A doubled operator. A yank takes the cursor's line alone and repeats it. -/
def Operator.operateLines (op : Operator) (position : Position) (lines : List Text) (count : Int)
    (style : IndentStyle) : Logged (Except Fault (Option Edit)) :=
  if hasLine lines position.line = false then pure (.ok none)
  else
    match op with
    | .indent | .dedent => op.operate ⟨position, position⟩ lines count style
    | .yank => op.operate (wholeLine lines position.line) lines count {}
    | .delete | .change =>
      spanned none ("operator::".toList ++ [op.key, op.key]) "operators".toList
        [("line".toList, .integer position.line), ("count".toList, .integer count)]
        (fun _ => none) (pure (some <$> cutLines (op = .change) position lines count))
    | .paste | .pasteBefore | .join => pure (.ok none)

/-- The operator of some keys on a range; keys of no operator make no edit. -/
def operateKeys (keys : Text) (range : Range) (lines : List Text) (count : Int) (style : IndentStyle) :
    Logged (Except Fault (Option Edit)) :=
  match Operator.ofKeys? keys with
  | some op => op.operate range lines count style
  | none => pure (.ok none)

def operateLinesKeys (keys : Text) (position : Position) (lines : List Text) (count : Int)
    (style : IndentStyle) : Logged (Except Fault (Option Edit)) :=
  match Operator.ofKeys? keys with
  | some op => op.operateLines position lines count style
  | none => pure (.ok none)

theorem Operator.value_operate (op : Operator) (range : Range) (lines : List Text) (count : Int)
    (style : IndentStyle) :
    (op.operate range lines count style).value =
      if op.hasRange then
        (operateContext range count).written.bind fun _ => op.onRange range lines count style
      else .ok none := by
  unfold Operator.operate
  split
  · exact value_spanned _ _ _ _ _ _
  · rfl

theorem Operator.value_operateLines (op : Operator) {position : Position} {lines : List Text}
    (count : Int) (style : IndentStyle) (h : hasLine lines position.line = true) :
    (op.operateLines position lines count style).value =
      match op with
      | .indent | .dedent => (op.operate ⟨position, position⟩ lines count style).value
      | .yank => (op.operate (wholeLine lines position.line) lines count {}).value
      | .delete | .change =>
        (Fields.written [("line".toList, .integer position.line), ("count".toList, .integer count)]).bind
          fun _ => some <$> cutLines (op = .change) position lines count
      | .paste | .pasteBefore | .join => .ok none := by
  unfold Operator.operateLines
  rw [h]
  cases op with
  | delete => exact value_spanned _ _ _ _ _ _
  | change => exact value_spanned _ _ _ _ _ _
  | _ => rfl

end ModalEditor
