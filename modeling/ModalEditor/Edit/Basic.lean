import ModalEditor.Position
import ModalEditor.Text.Basic
/-!
# Edits

What an operator makes of a buffer: the new lines, the text it took, and the cursor.
-/
namespace ModalEditor

structure Edit where
  lines : List Text
  taken : Text
  cursor : Position
deriving DecidableEq, Repr

def hasLine (lines : List Text) (line : Int) : Bool := 0 ≤ line && line < lines.length

/-- The line of a row that belongs to the buffer, and the empty line outside. -/
def lineOf (lines : List Text) (line : Int) : Text := (lines[line.toNat]?).getD []

end ModalEditor
