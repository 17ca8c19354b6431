import ModalEditor.Command.Grammar
import ModalEditor.Log.Span
/-!
# Sessions

What lasts from one command to the next: the mode, the cursor, registers, marks, the last character
search and the last command that ran.
-/
namespace ModalEditor

inductive Mode
  | normal
  | insert
  | visual
  | replace
deriving DecidableEq, Repr

namespace Mode

def name : Mode → Text
  | normal => "normal".toList
  | insert => "insert".toList
  | visual => "visual".toList
  | replace => "replace".toList

def ofName (t : Text) : Except Fault Mode :=
  Fault.unless (.unknownMode t) ([normal, insert, visual, replace].find? fun mode => mode.name = t)

end Mode

structure Session where
  mode : Mode := .normal
  position : Position := {}
  registers : RegisterBank := .empty
  marks : List (Char × Position) := []
  lastSearch : Option CharSearch := none
  lastCommand : Option Command := none
  visualStart : Option Position := none
deriving DecidableEq, Repr

namespace Session

/-- The session in a mode; normal mode ends a visual selection. -/
def inMode (s : Session) (mode : Mode) : Session :=
  { s with mode, visualStart := if mode = .normal then none else s.visualStart }

/-- Changes the mode, and says so if it was another one. -/
def setMode (s : Session) (mode : Mode) : Logged Session := do
  if s.mode ≠ mode then
    logEvent defaultLogger .info "session.mode".toList
      [("from".toList, s.mode.name), ("to".toList, mode.name)]
  return s.inMode mode

@[simp] theorem value_setMode (s : Session) (mode : Mode) : (s.setMode mode).value = s.inMode mode := by
  unfold setMode
  split <;> rfl

def setPosition (s : Session) (position : Position) : Session := { s with position }

/-- Begins a visual selection, at the cursor unless another place is given. -/
def startVisual (s : Session) (anchor : Option Position) : Logged Session := do
  let s ← s.setMode .visual
  return { s with visualStart := some (anchor.getD s.position) }

def endVisual (s : Session) : Logged Session := s.setMode .normal

def visualRange (s : Session) : Option Range :=
  s.visualStart.map fun start => .between start s.position

/-- Marks have one letter of the Latin alphabet as their name. -/
def markName? (name : Text) : Option Char :=
  match name with
  | [c] => if c.isAlpha then some c else none
  | _ => none

def putMark (marks : List (Char × Position)) (name : Char) (position : Position) :
    List (Char × Position) :=
  match marks with
  | [] => [(name, position)]
  | (n, p) :: rest => if n = name then (n, position) :: rest else (n, p) :: putMark rest name position

/-- Marks a position, the cursor's unless another one is given. -/
def setMark (s : Session) (name : Text) (position : Option Position) : Except Fault Session := do
  let c ← Fault.unless (.badMark name) (markName? name)
  return { s with marks := putMark s.marks c (position.getD s.position) }

def mark? (s : Session) (name : Text) : Option Position := (markName? name).bind (s.marks.lookup ·)

/-- Puts a text into a register, as lines or as a piece of a line. -/
def store (s : Session) (name : Option Text) (text : Text) (linewise : Bool) : Except Fault Session := do
  return { s with registers :=
    ← s.registers.store name ⟨text, if linewise then .line else .character⟩ }

/-- The last search again, by the operator of the last command if that takes a target. -/
def repeatSearch? (s : Session) (reversed : Bool) : Option Command :=
  s.lastSearch.map fun search =>
    let operator := ((s.lastCommand.bind Command.operator).filter Operator.takesTarget).getD .delete
    { operator := some operator,
      target := some (.motion (if reversed then search.flip.keys else search.keys)) }

/-- Reads keys as one command. `;` and `,` repeat the last search; a search that is typed out is
remembered. -/
def read (s : Session) (keys : Text) : Session × Except Fault (Option Command) :=
  if keys = [';'] then (s, .ok (s.repeatSearch? false))
  else if keys = [','] then (s, .ok (s.repeatSearch? true))
  else
    match Grammar.read keys with
    | .ok (some command) =>
      match command.motion?.bind CharSearch.ofSearchKeys? with
      | some search => ({ s with lastSearch := some search }, .ok (some command))
      | none => (s, .ok (some command))
    | answer => (s, answer)

def parse (s : Session) (logger : Option Text) (keys : Text) :
    Logged (Session × Except Fault (Option Command)) := do
  let (after, answer) := s.read keys
  let reported ← spanned logger "parser::parse".toList "parser".toList
    [("input".toList, .text keys)]
    (fun found => some (if found.isSome then "match".toList else "miss".toList)) (pure answer)
  return (after, reported)

end Session

theorem Session.value_parse (s : Session) (logger : Option Text) (keys : Text) :
    (s.parse logger keys).value = s.read keys := by
  unfold Session.parse
  simp only [Logged.value_bind, Logged.value_pure, value_spanned]
  rfl

/-- Whether keys are a command by themselves, without any search before them. -/
def isValidCommand (keys : Text) : Except Fault Bool :=
  if keys = [';'] ∨ keys = [','] then .ok true
  else return (← (Session.read {} keys).2).isSome

end ModalEditor
