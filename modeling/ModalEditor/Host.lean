import ModalEditor.Engine.Basic
import ModalEditor.Text.Printable
/-!
# Hosts

A host owns the text, routes keys through an engine and takes typed text itself in insert mode. What it
shows goes through hooks: the text with its cursor, the mode, a status line and a log.
-/
namespace ModalEditor

inductive HookCall
  | line (lines : List Text) (cursor : Position)
  | mode (label : Text)
  | status (text : Text)
  | log (text : Text)
deriving DecidableEq, Repr

namespace Mode

def label : Mode → Text
  | normal => "-- NORMAL --".toList
  | insert => "-- INSERT --".toList
  | visual => "-- VISUAL --".toList
  | replace => "-- REPLACE --".toList

end Mode

/-- An engine and the text that it works on. -/
structure Host (τ : Type) where
  engine : Engine τ
  lines : List Text

structure HostStep (τ α : Type) where
  host : Host τ
  shown : List HookCall
  answer : Except Fault α

namespace Host

variable {τ : Type}

def cursor (h : Host τ) : Position := h.engine.session.position

def mode (h : Host τ) : Mode := h.engine.session.mode

def refresh (h : Host τ) : List HookCall := [.line h.lines h.cursor, .mode h.mode.label]

/-- A host that was just set up; there is always a line. -/
def start (engine : Engine τ) (lines : List Text) : HostStep τ Unit :=
  let h : Host τ := ⟨engine, if lines = [] then [[]] else lines⟩
  ⟨h, h.refresh, .ok ()⟩

def withSession (h : Host τ) (session : Session) : Host τ :=
  { h with engine := { h.engine with session } }

def moveTo (h : Host τ) (position : Position) : Host τ :=
  h.withSession (h.engine.session.setPosition position)

/-- The keys that begin to insert: at the cursor, behind it, and at either end of the line. -/
def insertKeys : List Text := [['i'], ['a'], ['I'], ['A']]

/-- The column where an insert key begins. -/
def insertColumn (key line : Text) (column : Int) : Int :=
  if key = ['a'] ∧ line ≠ [] then min (column + 1) (line.length : Int)
  else if key = ['I'] then 0
  else if key = ['A'] then line.length
  else column

def enterInsert (h : Host τ) (key : Text) : HostStep τ Bool :=
  match Slice.entry? h.lines h.cursor.line with
  | none => ⟨h, [], .error .noSuchLine⟩
  | some line =>
    let h := h.moveTo (h.cursor.withColumn (insertColumn key line h.cursor.column))
    let h := h.withSession (h.engine.session.inMode .insert)
    ⟨h, h.refresh, .ok true⟩

/-- Leaves every mode but the normal one; after an insert the cursor steps back onto a character. -/
def leaveInsert (h : Host τ) : HostStep τ Bool :=
  let inserting := h.mode = .insert
  let h := { h with engine := h.engine.escape.value }
  let h := if inserting ∧ 0 < h.cursor.column then
      h.moveTo (h.cursor.withColumn (h.cursor.column - 1))
    else h
  ⟨h, .status [] :: h.refresh, .ok true⟩

def backspaceKeys : List Text := [['\x7f'], ['\x08'], "backspace".toList]

def retype (h : Host τ) (line : Text) (column : Int) : HostStep τ Bool :=
  let h := { h with lines := Slice.put h.lines h.cursor.line line }
  let h := h.moveTo (h.cursor.withColumn column)
  ⟨h, h.refresh, .ok true⟩

/-- Types one printable character, or takes one back. -/
def insert (h : Host τ) (text : Text) : HostStep τ Bool :=
  if text = [] then ⟨h, [], .ok false⟩
  else
    match Slice.entry? h.lines h.cursor.line with
    | none => ⟨h, [], .error .noSuchLine⟩
    | some line =>
      let column := h.cursor.column
      if text ∈ backspaceKeys then
        if column = 0 then ⟨h, [], .ok false⟩
        else h.retype (Slice.before line (column - 1) ++ Slice.after line column) (column - 1)
      else if text.length = 1 ∧ text.all Text.isPrintable then
        h.retype (Slice.before line column ++ text ++ Slice.after line column) (column + 1)
      else ⟨h, [], .ok false⟩

/-- The status line after a command: what was not done, the register that was written, or nothing. -/
def outcomeStatus (o : Outcome) : Text :=
  if o.noop then
    "noop:".toList ++ match o.command.operator with
      | some op => [op.key]
      | none => "motion".toList
  else
    match o.register with
    | some name => '"' :: name
    | none => []

def outcomeLog (o : Outcome) : Text :=
  "result <- status=".toList ++ o.status ++ " cursor=(".toList ++ Text.intDigits o.cursor.line ++
    ", ".toList ++ Text.intDigits o.cursor.column ++ [')']

def apply (h : Host τ) (o : Outcome) : HostStep τ Bool :=
  let h := { h with lines := o.lines }
  ⟨h, .status (outcomeStatus o) :: .log (outcomeLog o) :: h.refresh, .ok !o.noop⟩

variable [Add τ] [LE τ] [DecidableLE τ]

def feed (h : Host τ) (key : Text) : HostStep τ Bool :=
  let (engine, answer) := (h.engine.feed key h.lines (some h.cursor)).value
  let h := { h with engine }
  match answer with
  | .error fault => ⟨h, [], .error fault⟩
  | .ok none =>
    let (engine, pending) := h.engine.pendingKeys.value
    ⟨{ h with engine }, [.status pending], .ok false⟩
  | .ok (some outcome) => h.apply outcome

/-- Where a key goes: to leave a mode, into the text, to begin an insert when no keys wait, and else to
the engine. -/
def route (h : Host τ) (key : Text) (text : Option Text) : HostStep τ Bool :=
  if key ∈ Engine.escapeKeys then h.leaveInsert
  else if h.mode = .insert then h.insert (text.getD key)
  else if key ∈ insertKeys then
    let (engine, pending) := h.engine.pendingKeys.value
    let h := { h with engine }
    if pending = [] then h.enterInsert key else h.feed key
  else h.feed key

def keyLog (h : Host τ) (key : Text) : Text :=
  "key -> key=".toList ++ Text.quoted key ++ " mode=".toList ++ h.mode.name

/-- Takes one key; answers whether it changed anything. -/
def handleKey (h : Host τ) (key : Text) (text : Option Text) : HostStep τ Bool :=
  let step := h.route key text
  { step with shown := .log (h.keyLog key) :: step.shown }

def type (h : Host τ) (keys : Text) : HostStep τ (List Bool) :=
  match keys with
  | [] => ⟨h, [], .ok []⟩
  | key :: rest =>
    let step := h.handleKey [key] (some [key])
    match step.answer with
    | .error fault => ⟨step.host, step.shown, .error fault⟩
    | .ok changed =>
      let later := type step.host rest
      ⟨later.host, step.shown ++ later.shown, later.answer.map (changed :: ·)⟩

def processTimeouts (h : Host τ) : HostStep τ Bool :=
  let (engine, cleared) := h.engine.processTimeouts.value
  ⟨{ h with engine },
    if cleared then [.status [], .log "timeout -> pending keys dropped".toList] else [], .ok cleared⟩

def advance (h : Host τ) (duration : τ) : Host τ := { h with engine := h.engine.advance duration }

end Host
end ModalEditor
