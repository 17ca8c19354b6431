import ModalEditor.Fault
import ModalEditor.Log.Fields
import ModalEditor.Text.Numeral
import ModalEditor.Text.Quoted
/-!
# Logged values

What can be attached to a log entry, and its text there. A text stands as it is; inside a list or a
record it is quoted.
-/
namespace ModalEditor

inductive Value
  | nothing
  | flag (b : Bool)
  | integer (n : Int)
  | text (t : Text)
  | position (p : Position)
  | list (items : List Value)
  | record (entries : List (Text × Value))
deriving Inhabited

def Position.written (p : Position) : Except Fault Text := do
  return "Position(line=".toList ++ (← Text.writeInt p.line) ++ ", column=".toList ++
    (← Text.writeInt p.column) ++ [')']

namespace Value

mutual

/-- A value as it stands inside a list or a record. -/
def nested : Value → Except Fault Text
  | nothing => .ok "None".toList
  | flag b => .ok (if b then "True".toList else "False".toList)
  | integer n => Text.writeInt n
  | text t => .ok (Text.quoted t)
  | position p => p.written
  | list items => do return '[' :: List.intercalate [',', ' '] (← nestedList items) ++ [']']
  | record entries => do
    return '\x7b' :: List.intercalate [',', ' '] (← nestedEntries entries) ++ ['\x7d']

def nestedList : List Value → Except Fault (List Text)
  | [] => .ok []
  | v :: rest => do
    let t ← nested v
    return t :: (← nestedList rest)

def nestedEntries : List (Text × Value) → Except Fault (List Text)
  | [] => .ok []
  | (key, v) :: rest => do
    let t ← nested v
    return (Text.quoted key ++ ':' :: ' ' :: t) :: (← nestedEntries rest)

end

def written : Value → Except Fault Text
  | text t => .ok t
  | v => nested v

end Value

def Fields.written (fields : Fields Value) : Except Fault (Fields Text) :=
  Fields.mapValues Value.written fields

end ModalEditor
