import ModalEditor.Log.Span
import ModalEditor.Motion.Basic
/-!
# Reach

The ranges that motions cover: from the cursor to the target, to the target of the last of several
repetitions, and whole lines. Without a target there is no range.
-/
namespace ModalEditor

namespace Motion

def reach (keys : Text) (position : Position) (line : Text) : Except Fault (Option Range) := do
  return (← target keys position line).map (Range.between position)

/-- The same inside a span of the default logger. -/
def reported (keys : Text) (position : Position) (line : Text) :
    Logged (Except Fault (Option Range)) :=
  spanned none "motions::resolve".toList "motions".toList [("motion".toList, .text keys)] foundStatus
    (pure (reach keys position line))

/-- The part of a motion's range that an operator takes: an exclusive motion loses its last column,
and nothing may be left then. -/
def operatorRange (keys : Text) (range : Range) : Option Range :=
  if isExclusive keys then
    if range.start.line = range.stop.line ∧ range.stop.column ≤ range.start.column then none
    else some ⟨range.start, range.stop.withColumn (range.stop.column - 1)⟩
  else some range

/-- How far to step from a reached target before looking again: motions that stop on or beside what
they look for step over it. -/
def nudge (keys : Text) : Int :=
  match keys with
  | 'e' :: _ | 'E' :: _ | 't' :: _ => 1
  | 'T' :: _ => -1
  | _ => 0

/-- Repeats a motion from a target that it reached, as long as it gets further. -/
def repeatFrom (keys line : Text) : Nat → Position → Except Fault Position
  | 0, reached => .ok reached
  | n + 1, reached => do
    match ← target keys (reached.withColumn (reached.column + nudge keys)) line with
    | none => return reached
    | some next => if next = reached then return reached else repeatFrom keys line n next

/-- The furthest target within a count of repetitions, or the start if there is none. -/
def furthest (keys line : Text) (count : Nat) (position : Position) : Except Fault Position :=
  match count with
  | 0 => .ok position
  | n + 1 => do
    match ← target keys position line with
    | none => return position
    | some next => if next = position then return position else repeatFrom keys line n next

def reachTimes (keys : Text) (position : Position) (line : Text) (count : Nat) :
    Except Fault (Option Range) :=
  if count = 1 then reach keys position line
  else if keys = [] then .error .noSuchChar
  else
    match furthest keys line count position with
    | .error fault => .error fault
    | .ok reached =>
      if reached = position then reach keys position line else .ok (some (.between position reached))

/-- The same; only a single motion, and one that gets nowhere, runs in a span. -/
def reportedTimes (keys : Text) (position : Position) (line : Text) (count : Nat) :
    Logged (Except Fault (Option Range)) :=
  if count = 1 then reported keys position line
  else if keys = [] then pure (.error .noSuchChar)
  else
    match furthest keys line count position with
    | .error fault => pure (.error fault)
    | .ok reached =>
      if reached = position then reported keys position line
      else pure (.ok (some (.between position reached)))

theorem value_reported (keys : Text) (position : Position) (line : Text) :
    (reported keys position line).value = reach keys position line :=
  value_spanned _ _ _ _ _ _

theorem value_reportedTimes (keys : Text) (position : Position) (line : Text) (count : Nat) :
    (reportedTimes keys position line count).value = reachTimes keys position line count := by
  have h := value_reported keys position line
  unfold reportedTimes reachTimes
  split
  · exact h
  · split
    · rfl
    · cases furthest keys line count position with
      | error fault => rfl
      | ok reached =>
        by_cases hr : reached = position
        · simpa [hr] using h
        · simp [hr]

end Motion

/-- Whole lines from a position's line down: a count of them, at least one, as far as the buffer goes. -/
def linewiseRange (position : Position) (lines : List Text) (count : Int) : Except Fault Range := do
  let last := min (position.line + max count 1 - 1) ((lines.length : Int) - 1)
  let line ← Fault.unless .noSuchLine (Slice.entry? lines last)
  return ⟨⟨position.line, 0⟩, ⟨last, max 0 ((line.length : Int) - 1)⟩⟩

end ModalEditor
