import ModalEditor.Position
import ModalEditor.Text.Slice
import ModalEditor.Text.Basic
/-!
# Markup

The text for a screen: the cell under the cursor stands between tags, and an opening bracket of the
text is escaped so that it opens none.
-/
namespace ModalEditor.Markup

/-- Puts a backslash before every opening bracket. -/
def escape (t : Text) : Text := t.flatMap fun c => if c = '[' then ['\\', '['] else [c]

def openTag : Text := "[reverse]".toList

def closeTag : Text := "[/reverse]".toList

/-- A line with its cursor cell; behind the end of the line the cell is a space. -/
def cursorLine (line : Text) (column : Int) : Text :=
  let cell := Slice.between line column (column + 1)
  escape (Slice.before line column) ++ openTag ++ escape (if cell = [] then [' '] else cell) ++
    closeTag ++ escape (Slice.after line (column + 1))

def linesFrom (row : Nat) (cursor : Position) : List Text → List Text
  | [] => []
  | line :: rest =>
    (if (row : Int) = cursor.line then cursorLine line cursor.column else escape line) ::
      linesFrom (row + 1) cursor rest

def render (lines : List Text) (cursor : Position) : Text := Text.unlines (linesFrom 0 cursor lines)

end ModalEditor.Markup
