import ModalEditor.Edit.Basic
import ModalEditor.Text.Trim
/-!
# Joining lines

Several lines become one: the first is trimmed on both sides, the others at their start, and what is
left of them is set apart by single spaces.
-/
namespace ModalEditor

def joinedLine : List Text → Text
  | [] => []
  | first :: others =>
    List.intercalate [' '] ((Text.trim first :: others.map Text.trimStart).filter (· ≠ []))

/-- Joins a count of lines, at least two, from a range's line down. Too few lines are left alone. -/
def joinLines (range : Range) (lines : List Text) (count : Int) : Edit :=
  let first := range.start.line
  let total := max count 2
  if first < 0 ∨ lines.length < first + total then ⟨lines, [], ⟨max first 0, 0⟩⟩
  else
    let block := (lines.drop first.toNat).take total.toNat
    let joined := joinedLine block
    let head := Text.trim (block.headD [])
    ⟨lines.take first.toNat ++ [joined] ++ lines.drop (first + total).toNat, [],
      ⟨first, min (head.length : Int) (max 0 ((joined.length : Int) - 1))⟩⟩

end ModalEditor
