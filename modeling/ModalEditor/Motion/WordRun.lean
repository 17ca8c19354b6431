import ModalEditor.Text.Alphanumeric
import ModalEditor.Text.Trim
/-!
# Word runs

A word is a longest run of letters, numbers and underscores; a big word is a longest run without
spaces and tabs.
-/
namespace ModalEditor

/-- The columns from `start` up to but not including `stop`. -/
structure Run where
  start : Nat
  stop : Nat
deriving DecidableEq, Repr

namespace Run

def contains (s : Run) (column : Int) : Bool := s.start ≤ column && column < s.stop

def last (s : Run) : Int := (s.stop : Int) - 1

end Run

/-- Whether a character belongs to a word, or to a big word. -/
def isSolid (big : Bool) (c : Char) : Bool :=
  if big then c != ' ' && c != '\t' else c = '_' || Text.isAlphanumeric c

/-- The longest runs of solid characters from a column on; `opened` is where the run that reaches this
column began. -/
def runsFrom (solid : Char → Bool) (column : Nat) (opened : Option Nat) : Text → List Run
  | [] => (opened.map (Run.mk · column)).toList
  | c :: rest =>
    if solid c then runsFrom solid (column + 1) (some (opened.getD column)) rest
    else (opened.map (Run.mk · column)).toList ++ runsFrom solid (column + 1) none rest

def wordRuns (line : Text) (big : Bool) : List Run := runsFrom (isSolid big) 0 none line

def wordAt? (line : Text) (column : Int) (big : Bool) : Option Run :=
  (wordRuns line big).find? fun word => word.contains column

/-- The first column that is not blank, or the last one of a blank line. -/
def firstNonBlank (line : Text) : Nat := min (Text.indent line).length (line.length - 1)

theorem firstNonBlank_le (line : Text) : firstNonBlank line ≤ line.length :=
  Nat.le_trans (Nat.min_le_right _ _) (Nat.sub_le _ _)

end ModalEditor
