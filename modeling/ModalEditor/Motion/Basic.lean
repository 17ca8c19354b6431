import ModalEditor.Command.Search
import ModalEditor.Motion.WordRun
import ModalEditor.Text.Slice
/-!
# Motions

Where a motion takes the cursor on its line. A column outside the line is counted from the end when it
is negative, as far as there are characters to look at.
-/
namespace ModalEditor

/-- A motion on one line. -/
inductive Motion
  | search (search : CharSearch)
  | wordStart (big : Bool)
  | wordBack (big : Bool)
  | wordEnd (big : Bool)
  | lineStart
  | firstNonBlank
  | lineEnd
deriving DecidableEq, Repr

namespace Motion

def ofKeys? (keys : Text) : Option Motion :=
  match keys with
  | ['w'] => some (.wordStart false)
  | ['W'] => some (.wordStart true)
  | ['b'] => some (.wordBack false)
  | ['B'] => some (.wordBack true)
  | ['e'] => some (.wordEnd false)
  | ['E'] => some (.wordEnd true)
  | ['0'] => some .lineStart
  | ['^'] => some .firstNonBlank
  | ['$'] => some .lineEnd
  | _ => (CharSearch.ofSearchKeys? keys).map .search

/-- Whether an operator leaves out the column that the motion reaches or starts from on the right. -/
def exclusive : Motion → Bool
  | search s => !s.forward
  | wordStart _ | wordBack _ | lineStart | firstNonBlank => true
  | wordEnd _ | lineEnd => false

end Motion

def columnsRight (length : Nat) (column : Int) : List Int :=
  (List.range (length - (column + 1)).toNat).map fun (i : Nat) => column + 1 + i

def columnsLeft (column : Int) : List Int := (List.range column.toNat).reverse.map fun (i : Nat) => (i : Int)

def holdsAt (line : Text) (char : Text) (column : Int) : Bool :=
  (Slice.entry? line column).any fun c => [c] = char

/-- The nearest column on one side that holds a character, or the one beside it on the near side. -/
def findChar (line : Text) (column : Int) (char : Text) (forward till : Bool) :
    Except Fault (Option Int) :=
  if forward then
    if column + 1 < -(line.length : Int) then .error .noSuchChar
    else .ok (((columnsRight line.length column).find? (holdsAt line char)).map
      fun i => if till then i - 1 else i)
  else
    if line.length < column then .error .noSuchChar
    else .ok (((columnsLeft column).find? (holdsAt line char)).map fun i => if till then i + 1 else i)

def nextWordStart? (line : Text) (column : Int) (big : Bool) : Option Int :=
  ((wordRuns line big).find? fun word => column < word.start).map fun word => (word.start : Int)

def previousWordStart? (line : Text) (column : Int) (big : Bool) : Option Int :=
  ((wordRuns line big).reverse.find? fun word => word.stop ≤ column).map fun word => (word.start : Int)

def wordEnd? (line : Text) (column : Int) (big : Bool) : Option Int :=
  ((wordRuns line big).find? fun word => column < word.start || word.contains column).map Run.last

namespace Motion

def targetColumn (motion : Motion) (column : Int) (line : Text) : Except Fault (Option Int) :=
  match motion with
  | .search s => findChar line column [s.char] s.forward s.till
  | .wordStart big => .ok (nextWordStart? line column big)
  | .wordBack big => .ok (previousWordStart? line column big)
  | .wordEnd big => .ok (wordEnd? line column big)
  | .lineStart => .ok (some 0)
  | .firstNonBlank => .ok (some (ModalEditor.firstNonBlank line))
  | .lineEnd => .ok (some (max 0 ((line.length : Int) - 1)))

/-- The position that the motion of some keys reaches; keys of no motion reach nothing. -/
def target (keys : Text) (position : Position) (line : Text) : Except Fault (Option Position) :=
  match ofKeys? keys with
  | none => .ok none
  | some motion => do return (← motion.targetColumn position.column line).map position.withColumn

def isExclusive (keys : Text) : Bool := (ofKeys? keys).any exclusive

def isSearch (keys : Text) : Bool := (CharSearch.ofSearchKeys? keys).isSome

end Motion
end ModalEditor
