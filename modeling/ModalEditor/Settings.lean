import ModalEditor.Command.Description
import ModalEditor.Edit.Indent
import ModalEditor.Log.Logger
import ModalEditor.Text.Numeral
import ModalEditor.Text.Quoted
import ModalEditor.Text.Trim
/-!
# Settings

The choices of a host: how indents look, how long keys wait, and the language of descriptions. They
come from the host or from the environment.
-/
namespace ModalEditor

/-- The settings of an engine. Widths and waits are positive, and may be larger than an editor can work with. -/
structure Settings where
  tabWidth : Nat := 2
  useSpaces : Bool := true
  idleTimeout : Nat := 3000
  language : Language := .english
  tabWidth_pos : 0 < tabWidth := by decide
  idleTimeout_pos : 0 < idleTimeout := by decide
deriving Repr

namespace Settings

/-- Checks settings that nothing is known about yet. -/
def make (tabWidth : Int) (useSpaces : Bool) (idleTimeout : Int) (language : Text) :
    Except Fault Settings := do
  if ht : 0 < tabWidth.toNat then
    if hi : 0 < idleTimeout.toNat then
      let spoken ← Language.ofCode language
      return ⟨tabWidth.toNat, useSpaces, idleTimeout.toNat, spoken, ht, hi⟩
    else throw .idleTimeoutNotPositive
  else throw .tabWidthNotPositive

def withTabWidth (s : Settings) (tabWidth : Int) : Except Fault Settings :=
  make tabWidth s.useSpaces s.idleTimeout s.language.code

def indentStyle (s : Settings) : IndentStyle := ⟨s.tabWidth, s.useSpaces⟩

end Settings

namespace Environment

/-- An integer of the environment; a blank value counts as not set. -/
def integer (env : Environment) (name : String) (unset : Int) : Except Fault Int :=
  match env.get? name with
  | none => .ok unset
  | some written =>
    if Text.trim written = [] then .ok unset
    else Fault.unless (.notAnInteger ("VIMLINE_".toList ++ name.toList) (Text.quoted written))
      (Text.readInt? written)

def settings (env : Environment) : Except Fault Settings := do
  let tabWidth ← env.integer "TAB_WIDTH" 2
  let idleTimeout ← env.integer "IDLE_TIMEOUT_MS" 3000
  Settings.make tabWidth (env.flag "USE_SPACES" true) idleTimeout
    ((env.filled? "LANG").getD "en".toList)

end Environment
end ModalEditor
