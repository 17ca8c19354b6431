import ModalEditor.Text.CharClass
/-!
# Blanks

Spaces, tabs, line ends and separators: the characters that a trim removes and that lead an
indented line.
-/
namespace ModalEditor.Text

/-- Where blank characters begin and end (Unicode 14). -/
def blanks : CharClass := .mk
  [0x9, 0xE, 0x1C, 0x21, 0x85, 0x86, 0xA0, 0xA1, 0x1680, 0x1681, 0x2000, 0x200B, 0x2028, 0x202A,
   0x202F, 0x2030, 0x205F, 0x2060, 0x3000, 0x3001]

def isBlank (c : Char) : Bool := blanks.contains c

end ModalEditor.Text
