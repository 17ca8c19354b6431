import ModalEditor.Text.Basic
/-!
# Fields

Keys with values, in the order in which the keys first came. Writing a key again keeps its place.
-/
namespace ModalEditor

abbrev Fields (β : Type) := List (Text × β)

namespace Fields

variable {β : Type}

/-- Writes one key: in its old place if it has one, and otherwise at the end. -/
def put (fields : Fields β) (key : Text) (value : β) : Fields β :=
  match fields with
  | [] => [(key, value)]
  | (k, v) :: rest => if k = key then (k, value) :: rest else (k, v) :: put rest key value

def putAll (fields : Fields β) (more : List (Text × β)) : Fields β :=
  more.foldl (fun acc entry => put acc entry.1 entry.2) fields

def ofPairs (pairs : List (Text × β)) : Fields β := putAll [] pairs

def mapValues {γ ε : Type} (f : β → Except ε γ) : Fields β → Except ε (Fields γ)
  | [] => .ok []
  | (k, v) :: rest => do
    let w ← f v
    return (k, w) :: (← mapValues f rest)

end Fields
end ModalEditor
