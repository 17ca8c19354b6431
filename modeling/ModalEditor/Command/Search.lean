import ModalEditor.Fault
/-!
# Character searches

A search names one character on the cursor's line, a direction, and whether it stops beside the
character. Its keys are `f`, `F`, `t` or `T` and the character.
-/
namespace ModalEditor

structure CharSearch where
  char : Char
  forward : Bool
  till : Bool := false
deriving DecidableEq, Repr

namespace CharSearch

def ofText (char : Text) (forward till : Bool) : Except Fault CharSearch :=
  match char with
  | [c] => .ok ⟨c, forward, till⟩
  | _ => .error .searchNotOneChar

def ofKeys (keys : Text) : Except Fault CharSearch :=
  match keys with
  | [] => .error .noSuchChar
  | key :: char => ofText char (key = 'f' || key = 't') (key = 't' || key = 'T')

def ofSearchKeys? (keys : Text) : Option CharSearch :=
  match keys with
  | ['f', c] => some ⟨c, true, false⟩
  | ['F', c] => some ⟨c, false, false⟩
  | ['t', c] => some ⟨c, true, true⟩
  | ['T', c] => some ⟨c, false, true⟩
  | _ => none

def keys (s : CharSearch) : Text :=
  match s.forward, s.till with
  | true, false => ['f', s.char]
  | false, false => ['F', s.char]
  | true, true => ['t', s.char]
  | false, true => ['T', s.char]

def flip (s : CharSearch) : CharSearch := { s with forward := !s.forward }

@[simp] theorem ofSearchKeys?_keys (s : CharSearch) : ofSearchKeys? s.keys = some s := by
  obtain ⟨c, forward, till⟩ := s
  cases forward <;> cases till <;> rfl

@[simp] theorem flip_flip (s : CharSearch) : s.flip.flip = s := by
  simp [flip]

end CharSearch
end ModalEditor
