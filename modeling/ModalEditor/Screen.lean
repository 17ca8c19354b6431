import ModalEditor.Host
import ModalEditor.Markup
/-!
# Screens

A screen around a host: key events become keys, and the hooks fill three widgets. Before it is mounted
a screen has no host and takes no keys.
-/
namespace ModalEditor

/-- A key as a terminal reports it: its name, the character that it types, and whether that can be shown. -/
structure KeyEvent where
  key : Text
  character : Option Text
  printable : Bool
deriving DecidableEq, Repr

namespace KeyEvent

/-- The key and text that an event stands for: quitting is not for the host, and neither are keys that
type nothing. -/
def normalize? (e : KeyEvent) : Option (Text × Option Text) :=
  if e.key = "ctrl+c".toList ∨ e.key = "ctrl+q".toList then none
  else if e.key = "escape".toList then some ("<Esc>".toList, none)
  else if e.key = "backspace".toList then some ("backspace".toList, some "backspace".toList)
  else
    match e.character with
    | some c => if c ≠ [] ∧ e.printable then some (c, some c) else none
    | none => none

end KeyEvent

inductive WidgetCall
  | line (markup : Text)
  | mode (label : Text)
  | status (text : Text)
deriving DecidableEq, Repr

/-- A screen with the texts that it last showed. -/
structure Screen (τ : Type) where
  host : Option (Host τ) := none
  line : Text := []
  mode : Text := []
  status : Text := []

namespace Screen

variable {τ : Type}

/-- Takes one hook call; the log goes nowhere. -/
def showCall (s : Screen τ) (call : HookCall) : Screen τ × List WidgetCall :=
  match call with
  | .line lines cursor => ({ s with line := Text.unlines lines }, [.line (Markup.render lines cursor)])
  | .mode label => ({ s with mode := label }, [.mode label])
  | .status text => ({ s with status := text }, [.status text])
  | .log _ => (s, [])

def showAll (s : Screen τ) : List HookCall → Screen τ × List WidgetCall
  | [] => (s, [])
  | call :: rest =>
    let (s, first) := s.showCall call
    let (s, later) := s.showAll rest
    (s, first ++ later)

def mount (s : Screen τ) (engine : Engine τ) (text : Text) : Screen τ × List WidgetCall :=
  let step := Host.start engine (Text.lines text)
  { s with host := some step.host }.showAll step.shown

structure KeyReport where
  normalized : Option (Text × Option Text)
  stopped : Bool
deriving DecidableEq, Repr

variable [Add τ] [LE τ] [DecidableLE τ]

def onKey (s : Screen τ) (event : KeyEvent) : Screen τ × List WidgetCall × Except Fault KeyReport :=
  match s.host, event.normalize? with
  | some host, some (key, text) =>
    let step := host.handleKey key text
    let (s, widgets) := { s with host := some step.host }.showAll step.shown
    (s, widgets, step.answer.map fun _ => ⟨some (key, text), true⟩)
  | _, normalized => (s, [], .ok ⟨normalized, false⟩)

def processTimeouts (s : Screen τ) : Screen τ × List WidgetCall :=
  match s.host with
  | none => (s, [])
  | some host =>
    let step := host.processTimeouts
    { s with host := some step.host }.showAll step.shown

def advance (s : Screen τ) (duration : τ) : Screen τ :=
  { s with host := s.host.map (·.advance duration) }

end Screen
end ModalEditor
