import ModalEditor.Engine.Execute
import ModalEditor.KeyBuffer
import ModalEditor.Settings
/-!
# Engines

Keys in, edits out. The engine keeps a session and the keys typed so far; the text stays with the host,
which hands it in with every key and takes the lines of each outcome back.
-/
namespace ModalEditor

/-- A session with its settings and key buffer. -/
structure Engine (τ : Type) where
  session : Session := {}
  settings : Settings := {}
  buffer : KeyBuffer τ
  logger : Option Text := none

namespace Engine

variable {τ : Type}

/-- An engine that nothing was typed into; `idle` is the wait of its settings on the clock that it goes by. -/
def start (settings : Settings) (idle now : τ) (logger : Option Text) : Engine τ :=
  { settings, buffer := { timer := { timeout := idle, now } }, logger }

/-- The keys that leave every mode but the normal one. -/
def escapeKeys : List Text := [['\x1b'], "<Esc>".toList, "ESC".toList]

/-- Runs a command at a cursor, the session's own unless one is given. -/
def execute (e : Engine τ) (command : Command) (lines : List Text) (cursor : Option Position) :
    Logged (Engine τ × Except Fault Outcome) := do
  let (session, answer) ← e.session.execute e.settings.indentStyle command lines cursor
  return ({ e with session }, answer)

def escape (e : Engine τ) : Logged (Engine τ) := do
  let session ← e.session.setMode .normal
  return { e with session, buffer := e.buffer.clear }

/-- Runs the command that was read, if there is one. -/
def executeRead (e : Engine τ) (lines : List Text) (cursor : Option Position) :
    Except Fault (Option Command) → Logged (Engine τ × Except Fault (Option Outcome))
  | .error fault => pure (e, .error fault)
  | .ok none => pure (e, .ok none)
  | .ok (some command) => do
    let (e, outcome) ← e.execute command lines cursor
    return (e, outcome.map some)

@[simp] theorem value_escape (e : Engine τ) :
    e.escape.value = { e with session := e.session.inMode .normal, buffer := e.buffer.clear } := by
  simp [escape]

theorem value_execute (e : Engine τ) (command : Command) (lines : List Text)
    (cursor : Option Position) :
    (e.execute command lines cursor).value =
      ({ e with session := (e.session.execute e.settings.indentStyle command lines cursor).value.1 },
        (e.session.execute e.settings.indentStyle command lines cursor).value.2) := rfl

variable [LE τ] [DecidableLE τ]

def processTimeouts (e : Engine τ) : Logged (Engine τ × Bool) := do
  let (buffer, cleared) ← e.buffer.processTimeouts
  if cleared then logEvent defaultLogger .debug "engine.timeout".toList []
  return ({ e with buffer }, cleared)

def pendingKeys (e : Engine τ) : Logged (Engine τ × Text) := do
  let buffer ← e.buffer.polled
  return ({ e with buffer }, buffer.keys)

@[simp] theorem value_processTimeouts (e : Engine τ) :
    e.processTimeouts.value =
      ({ e with buffer := e.buffer.fresh }, e.buffer.timer.expired && e.buffer.keys ≠ []) := by
  simp only [processTimeouts, Logged.value_bind, KeyBuffer.value_processTimeouts]
  split <;> rfl

@[simp] theorem value_pendingKeys (e : Engine τ) :
    e.pendingKeys.value = ({ e with buffer := e.buffer.fresh }, e.buffer.text) := by
  simp [pendingKeys, KeyBuffer.text]

variable [Add τ]

/-- Takes one key, and runs the command that it completes. In insert mode keys are the host's. -/
def feed (e : Engine τ) (key : Text) (lines : List Text) (cursor : Option Position) :
    Logged (Engine τ × Except Fault (Option Outcome)) := do
  if key ∈ escapeKeys then return (← e.escape, .ok none)
  else if e.session.mode = .insert then return (e, .ok none)
  else
    let pushed ← e.buffer.push key
    let (buffer, session, answer) ← pushed.parse e.session e.logger
    executeRead { e with buffer, session } lines cursor answer

theorem value_feed (e : Engine τ) (key : Text) (lines : List Text) (cursor : Option Position) :
    (e.feed key lines cursor).value =
      if key ∈ escapeKeys then
        ({ e with session := e.session.inMode .normal, buffer := e.buffer.clear }, .ok none)
      else if e.session.mode = .insert then (e, .ok none)
      else
        let read := (KeyBuffer.parse ⟨e.buffer.text ++ key, e.buffer.fresh.timer.arm⟩ e.session
          e.logger).value
        (executeRead { e with buffer := read.1, session := read.2.1 } lines cursor read.2.2).value := by
  unfold feed
  split
  · simp
  · split
    · rfl
    · simp [KeyBuffer.text]

/-- Takes keys one by one; each outcome's lines and cursor are what the next key works on. -/
def runFrom (e : Engine τ) (keys : Text) (lines : List Text) (cursor : Option Position) :
    Logged (Engine τ × Except Fault (List Outcome)) :=
  match keys with
  | [] => pure (e, .ok [])
  | key :: rest => do
    let (e, answer) ← e.feed [key] lines cursor
    match answer with
    | .error fault => return (e, .error fault)
    | .ok none => e.runFrom rest lines cursor
    | .ok (some outcome) =>
      let (e, later) ← e.runFrom rest outcome.lines (some outcome.cursor)
      return (e, later.map (outcome :: ·))

def advance (e : Engine τ) (duration : τ) : Engine τ :=
  { e with buffer := e.buffer.advance duration }

def setMark (e : Engine τ) (name : Text) (position : Option Position) : Except Fault (Engine τ) := do
  return { e with session := ← e.session.setMark name position }

/-- Puts the cursor where a mark is, if there is such a mark. -/
def jumpToMark (e : Engine τ) (name : Text) : Engine τ × Option Position :=
  match e.session.mark? name with
  | some position => ({ e with session := e.session.setPosition position }, some position)
  | none => (e, none)

end Engine
end ModalEditor
