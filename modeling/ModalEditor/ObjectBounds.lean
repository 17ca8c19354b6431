import ModalEditor.Command.TextObject
import ModalEditor.Log.Span
import ModalEditor.Motion.WordRun
import ModalEditor.Text.Slice
/-!
# Bounds of text objects

Where a text object lies on the cursor's line. Quotes pair up from the left, a quote after a backslash
being none; brackets are matched by a stack, and only the pairs that leave it empty are objects.
-/
namespace ModalEditor

/-- A word with one column on both sides, as far as the line goes. -/
def aroundWord (line : Text) (word : Run) : Int × Int :=
  (max 0 ((word.start : Int) - 1), min (word.stop : Int) ((line.length : Int) - 1))

def wordBounds? (line : Text) (column : Int) (big around : Bool) : Option (Int × Int) :=
  (wordAt? line column big).map fun word =>
    if around then aroundWord line word else ((word.start : Int), word.last)

/-- The columns of a quote mark that does not follow a backslash; `previous` is the character before. -/
def quoteColumns (mark : Text) (column : Nat) (previous : Option Char) : Text → List Nat
  | [] => []
  | c :: rest =>
    let later := quoteColumns mark (column + 1) (some c) rest
    if [c] = mark ∧ previous ≠ some '\\' then column :: later else later

/-- Neighbours taken two by two; an odd one at the end stays alone. -/
def pairUp : List Nat → List (Nat × Nat)
  | a :: b :: rest => (a, b) :: pairUp rest
  | _ => []

/-- The pairs of brackets at the top level, as they close. `opened` holds the columns of the brackets that are open,
the last one first. -/
def topPairs (opening closing : Char) (column : Nat) (opened : List Nat) : Text → List (Nat × Nat)
  | [] => []
  | c :: rest =>
    if c = opening then topPairs opening closing (column + 1) (column :: opened) rest
    else if c = closing then
      match opened with
      | [] => topPairs opening closing (column + 1) [] rest
      | last :: opened =>
        let later := topPairs opening closing (column + 1) opened rest
        if opened = [] then (last, column) :: later else later
    else topPairs opening closing (column + 1) opened rest

/-- The first pair of delimiters that a column lies between or on. -/
def pairAround? (pairs : List (Nat × Nat)) (column : Int) : Option (Nat × Nat) :=
  pairs.find? fun pair => pair.1 ≤ column && column ≤ pair.2

namespace TextObject

def delimitersAt? (o : TextObject) (line : Text) (column : Int) : Option (Nat × Nat) :=
  match o.kind.delimiters? with
  | some (opening, closing) => pairAround? (topPairs opening closing 0 [] line) column
  | none => pairAround? (pairUp (quoteColumns (o.mark.getD []) 0 none line)) column

def bounds? (o : TextObject) (line : Text) (column : Int) : Option (Int × Int) :=
  match o.kind with
  | .word => wordBounds? line column false o.around
  | .bigWord => wordBounds? line column true o.around
  | _ => (o.delimitersAt? line column).map fun pair =>
    if o.around then ((pair.1 : Int), (pair.2 : Int)) else ((pair.1 : Int) + 1, (pair.2 : Int) - 1)

/-- An object that was found: its range, and its text. -/
structure Found where
  range : Range
  text : Text
deriving DecidableEq, Repr

/-- Looks for an object around a column; `row` is the line of the answer. -/
def find? (o : TextObject) (line : Text) (column row : Int) : Option Found :=
  (o.bounds? line column).map fun bounds =>
    ⟨⟨⟨row, bounds.1⟩, ⟨row, bounds.2⟩⟩, Slice.between line bounds.1 (bounds.2 + 1)⟩

def reported (o : TextObject) (line : Text) (column row : Int) : Logged (Except Fault (Option Found)) :=
  spanned none "text_objects::find".toList "text_objects".toList [("object".toList, .text o.keys)]
    foundStatus (pure (.ok (o.find? line column row)))

theorem value_reported (o : TextObject) (line : Text) (column row : Int) :
    (o.reported line column row).value = .ok (o.find? line column row) :=
  value_spanned _ _ _ _ _ _

end TextObject
end ModalEditor
