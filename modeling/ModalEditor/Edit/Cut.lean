import ModalEditor.Copies
import ModalEditor.Edit.Basic
import ModalEditor.Text.Slice
/-!
# Cutting and copying

Taking the text of a range, which may span lines. A range that ends below the buffer ends on its last
line.
-/
namespace ModalEditor

/-- The line on which a range ends within a buffer. -/
def lastLine (range : Range) (lines : List Text) : Int :=
  min range.stop.line ((lines.length : Int) - 1)

/-- The text of a range: pieces of its first and last line and all lines between. -/
def extract (range : Range) (lines : List Text) : Except Fault Text := do
  let first ← Fault.unless .noSuchLine (Slice.entry? lines range.start.line)
  if range.start.line = lastLine range lines then
    return Slice.between first range.start.column (range.stop.column + 1)
  else
    let last ← Fault.unless .noSuchLine (Slice.entry? lines (lastLine range lines))
    return Text.unlines (Slice.after first range.start.column ::
      Slice.between lines (range.start.line + 1) (lastLine range lines) ++
      [Slice.before last (range.stop.column + 1)])

/-- Takes a range out: what is before it and what is behind it become one line. -/
def deleteRange (range : Range) (lines : List Text) : Except Fault (Option Edit) :=
  if hasLine lines range.start.line = false then .ok none
  else do
    let taken ← extract range lines
    let first ← Fault.unless .noSuchLine (Slice.entry? lines range.start.line)
    let last ← Fault.unless .noSuchLine (Slice.entry? lines (lastLine range lines))
    let joined := Slice.before first range.start.column ++ Slice.after last (range.stop.column + 1)
    return some ⟨Slice.replace lines range.start.line (lastLine range lines + 1) [joined], taken,
      range.start⟩

/-- Copies a range; a count above one repeats the copy line by line. -/
def yankRange (range : Range) (lines : List Text) (count : Int) : Except Fault (Option Edit) :=
  if hasLine lines range.start.line = false then .ok none
  else do
    let block ← extract range lines
    let taken ← if 1 < count then Text.copyLines count block else .ok block
    return some ⟨lines, taken, range.start⟩

end ModalEditor
