import ModalEditor.Copies
import ModalEditor.Edit.Basic
import ModalEditor.Motion.WordRun
import ModalEditor.Text.Slice
/-!
# Pasting

Putting a text back: as lines above or below the cursor's line, or into the line before or behind the
cursor.
-/
namespace ModalEditor

/-- Puts rows above the cursor's line or below it. -/
def pasteLines (block : List Text) (position : Position) (lines : List Text) (before : Bool) : Edit :=
  let row := if before then position.line.toNat else position.line.toNat + 1
  ⟨lines.take row ++ block ++ lines.drop row, [], ⟨row, firstNonBlank (block.headD [])⟩⟩

/-- Puts a text into a line; a line break in it cuts the line. -/
def pasteInside (payload : Text) (position : Position) (lines : List Text) (before : Bool) : Edit :=
  let line := lineOf lines position.line
  let column := if before = false ∧ line ≠ [] then min (position.column + 1) (line.length : Int)
    else position.column
  let pieces := Text.lines (Slice.before line column ++ payload ++ Slice.after line column)
  let row := position.line.toNat
  let cursorColumn := if pieces.length = 1 then column + payload.length - 1 else column
  ⟨lines.take row ++ pieces ++ lines.drop (row + 1), [], ⟨position.line, cursorColumn⟩⟩

/-- Puts a text a count of times before or behind a position; there is nothing to do for an empty text
or a line outside the buffer. -/
def pasteText (text : Text) (position : Position) (lines : List Text) (before linewise : Bool)
    (count : Int) : Except Fault (Option Edit) :=
  if text = [] ∨ hasLine lines position.line = false then .ok none
  else if linewise then do
    return some (pasteLines (← copies (max count 1) (Text.lines text)) position lines before)
  else do
    return some (pasteInside (← Text.copies (max count 1) text) position lines before)

end ModalEditor
