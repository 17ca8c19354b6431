import ModalEditor.Command.Written
import ModalEditor.Edit.Operate
import ModalEditor.ObjectBounds
import ModalEditor.Session
/-!
# Executing commands

One command on a buffer at a cursor. Either the command does nothing, and then neither does the session
change, or its edit is made and the session takes note of it: register, mode, cursor, last command.
-/
namespace ModalEditor

/-- Refuses a position that lies outside the buffer; the end of a line is inside. -/
def ensurePosition (lines : List Text) (position : Position) : Except Fault Position :=
  if hasLine lines position.line = false then .error (.lineOutside position)
  else if position.column < 0 ∨ (lineOf lines position.line).length < position.column then
    .error (.columnOutside position)
  else .ok position

/-- What a host learns of a command that ran: it was done, or there was nothing to do. -/
structure Outcome where
  command : Command
  lines : List Text
  cursor : Position
  deleted : Text := []
  register : Option Text := none
  noop : Bool := false
deriving DecidableEq, Repr

def Outcome.status (o : Outcome) : Text := if o.noop then "noop".toList else "ok".toList

namespace Command

/-- The edit of a motion alone, which only moves the cursor, or of an operator on its range. -/
def onMotion (operator : Option Operator) (keys : Text) (times : Nat) (position : Position)
    (lines : List Text) (style : IndentStyle) : Logged (Except Fault (Option Edit)) := do
  match ← Motion.reportedTimes keys position (lineOf lines position.line) times with
  | .error fault => return .error fault
  | .ok none => return .ok none
  | .ok (some range) =>
    match operator with
    | none =>
      let cursor := if range.start = position then range.stop else range.start
      return .ok (some ⟨lines, [], cursor⟩)
    | some op =>
      match Motion.operatorRange keys range with
      | none => return .ok none
      | some trimmed => op.operate trimmed lines 1 style

def onObject (op : Operator) (object : TextObject) (position : Position) (lines : List Text)
    (style : IndentStyle) : Logged (Except Fault (Option Edit)) := do
  match ← object.reported (lineOf lines position.line) position.column position.line with
  | .error fault => return .error fault
  | .ok none => return .ok none
  | .ok (some found) => op.operate found.range lines 1 style

/-- The edit that a command makes at a position, or none if there is nothing to do. -/
def edit (c : Command) (registers : RegisterBank) (style : IndentStyle) (position : Position)
    (lines : List Text) : Logged (Except Fault (Option Edit)) :=
  if c.pending then pure (.ok none)
  else
    match c.operator with
    | some .paste | some .pasteBefore =>
      let value := registers.get (RegisterBank.nameOr c.register)
      pure (pasteText value.text position lines (c.operator = some .pasteBefore) value.linewise c.times)
    | some .join => Operator.join.operate ⟨position, position⟩ lines c.times style
    | operator =>
      match operator, c.target with
      | some op, some (.object object) => onObject op object position lines style
      | none, some (.object _) => pure (.ok none)
      | some op, some (.motion keys) =>
        if keys ∈ linewiseMotions then op.operateLines position lines c.times style
        else onMotion (some op) keys c.times position lines style
      | none, some (.motion keys) => onMotion none keys c.times position lines style
      | _, none => pure (.ok none)

/-- Whether an edit of this command goes into a register: a text that was taken, and every copy or cut
of whole lines. -/
def stores (c : Command) (edit : Edit) : Bool :=
  c.operator.any Operator.keepsText && (edit.taken ≠ [] || c.linewise)

def registerFor (c : Command) (edit : Edit) : Option Text :=
  if c.stores edit then some (RegisterBank.nameOr c.register) else none

def outcome (c : Command) (edit : Edit) : Outcome :=
  { command := c, lines := edit.lines, cursor := edit.cursor, deleted := edit.taken,
    register := c.registerFor edit }

def idleOutcome (c : Command) (lines : List Text) (cursor : Position) : Outcome :=
  { command := c, lines, cursor, noop := true }

def context (c : Command) : Fields Value :=
  [("operator".toList, .text c.operatorKeys), ("motion".toList, .text c.motionKeys),
    ("count".toList, .integer c.times)]

end Command

namespace Session

/-- The session with the text of an edit in its register. -/
def stored (s : Session) (command : Command) (edit : Edit) : Except Fault Session :=
  if command.stores edit then s.store command.register edit.taken command.linewise else .ok s

/-- The session with its cursor behind an edit and the command as its last one. -/
def noted (s : Session) (command : Command) (edit : Edit) : Session :=
  { s with position := edit.cursor, lastCommand := some command }

/-- Takes note of an edit. Nothing changes if its text cannot be put into the register. -/
def commit (s : Session) (command : Command) (edit : Edit) :
    Logged (Session × Except Fault Outcome) :=
  match s.stored command edit with
  | .error fault => pure (s, .error fault)
  | .ok stored => do
    let settled ← if command.operator = some .change then stored.setMode .insert else pure stored
    logEvent defaultLogger .info "engine.command".toList
      [("operator".toList, command.operatorKeys), ("motion".toList, command.motionKeys),
        ("register".toList, (command.registerFor edit).getD [])]
    return (settled.noted command edit, .ok (command.outcome edit))

def decline (s : Session) (command : Command) (lines : List Text) (position : Position) :
    Logged (Session × Except Fault Outcome) :=
  match command.written with
  | .error fault => pure (s, .error fault)
  | .ok written => do
    logEvent defaultLogger .debug "engine.noop".toList [("command".toList, written)]
    return (s, .ok (command.idleOutcome lines position))

/-- Makes the edit that was found, or declines if there is none. -/
def settle (s : Session) (command : Command) (lines : List Text) (position : Position) :
    Except Fault (Option Edit) → Logged (Session × Except Fault Outcome)
  | .error fault => pure (s, .error fault)
  | .ok (some edit) => s.commit command edit
  | .ok none => s.decline command lines position

/-- Runs a command at a cursor, the session's own unless one is given. -/
def execute (s : Session) (style : IndentStyle) (command : Command) (lines : List Text)
    (cursor : Option Position) : Logged (Session × Except Fault Outcome) :=
  match ensurePosition lines (cursor.getD s.position) with
  | .error fault => pure (s, .error fault)
  | .ok position => do
    let found ← spanned none "engine::execute".toList "engine".toList command.context
      (fun found => some (if found.isSome then "ok".toList else "noop".toList))
      (command.edit s.registers style position lines)
    s.settle command lines position found

theorem value_commit (s : Session) (command : Command) (edit : Edit) :
    (s.commit command edit).value =
      match s.stored command edit with
      | .error fault => (s, .error fault)
      | .ok stored =>
        ((if command.operator = some .change then stored.inMode .insert else stored).noted command edit,
          .ok (command.outcome edit)) := by
  unfold commit
  cases s.stored command edit with
  | error fault => rfl
  | ok stored => by_cases h : command.operator = some .change <;> simp [h]

theorem value_decline (s : Session) (command : Command) (lines : List Text) (position : Position) :
    (s.decline command lines position).value =
      (s, command.written.map fun _ => command.idleOutcome lines position) := by
  unfold decline
  cases command.written <;> rfl

theorem value_execute (s : Session) (style : IndentStyle) (command : Command) (lines : List Text)
    (cursor : Option Position) :
    (s.execute style command lines cursor).value =
      match ensurePosition lines (cursor.getD s.position) with
      | .error fault => (s, .error fault)
      | .ok position =>
        (s.settle command lines position (command.context.written.bind fun _ =>
          (command.edit s.registers style position lines).value)).value := by
  unfold execute
  cases ensurePosition lines (cursor.getD s.position) with
  | error fault => rfl
  | ok position => simp only [Logged.value_bind, value_spanned]

end Session
end ModalEditor
