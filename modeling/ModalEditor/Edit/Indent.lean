import ModalEditor.Copies
import ModalEditor.Edit.Basic
import ModalEditor.Text.Slice
import ModalEditor.Text.Trim
/-!
# Indenting

Moving lines right by one unit, or left by as much of it as leads them. The count is a number of lines.
-/
namespace ModalEditor

/-- What one step of indent is: some spaces, or a tab. -/
structure IndentStyle where
  width : Int := 2
  spaces : Bool := true
deriving DecidableEq, Repr

namespace IndentStyle

def unit (style : IndentStyle) : Except Fault Text :=
  if style.spaces then Text.copies style.width [' '] else .ok ['\t']

/-- How many characters a step left takes off a line: one tab, or blanks up to the width. -/
def dedentWidth (style : IndentStyle) (line : Text) : Int :=
  if style.spaces = false ∧ line.head? = some '\t' then 1
  else min ((Text.indent line).length : Int) style.width

end IndentStyle

/-- Changes a count of lines, at least one, from a line of the buffer down. -/
def mapLines (f : Text → Text) (first : Nat) (count : Int) (lines : List Text) : List Text :=
  let n := (max count 1).toNat
  lines.take first ++ ((lines.drop first).take n).map f ++ (lines.drop first).drop n

/-- Moves lines right, and the cursor with them. -/
def indentLines (range : Range) (lines : List Text) (count : Int) (style : IndentStyle) :
    Except Fault (Option Edit) :=
  if hasLine lines range.start.line = false then .ok none
  else do
    let unit ← style.unit
    return some ⟨mapLines (unit ++ ·) range.start.line.toNat count lines, [],
      ⟨range.start.line, range.start.column + unit.length⟩⟩

/-- Moves lines left; the cursor goes left by the width of a step, as far as there are columns. -/
def dedentLines (range : Range) (lines : List Text) (count : Int) (style : IndentStyle) : Option Edit :=
  if hasLine lines range.start.line then
    some ⟨mapLines (fun line => Slice.after line (style.dedentWidth line)) range.start.line.toNat count
        lines, [],
      ⟨range.start.line, max 0 (range.start.column - style.width)⟩⟩
  else none

end ModalEditor
