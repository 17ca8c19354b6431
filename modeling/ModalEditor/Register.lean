import ModalEditor.Fault
import ModalEditor.Text.Alphanumeric
import ModalEditor.Text.LetterCase
/-!
# Registers

A bank of named texts. Every write lands in the unnamed register as well, and a write under an
uppercase name appends to the register of the lowercase name.
-/
namespace ModalEditor

/-- Whether a register holds a piece of a line or whole lines. -/
inductive RegisterKind
  | character
  | line
deriving DecidableEq, Repr

namespace RegisterKind

def name : RegisterKind → Text
  | character => "character".toList
  | line => "line".toList

def ofName (t : Text) : Except Fault RegisterKind :=
  Fault.unless (.unknownRegisterKind t) ([character, line].find? fun kind => kind.name = t)

end RegisterKind

structure RegisterValue where
  text : Text := []
  kind : RegisterKind := .character
deriving DecidableEq, Repr

namespace RegisterValue

def linewise (v : RegisterValue) : Bool := v.kind = .line

def extend (v : RegisterValue) (more : Text) : RegisterValue := ⟨v.text ++ more, v.kind⟩

end RegisterValue

def unnamed : Char := '"'

/-- A register is named by the unnamed one's mark, or by one letter or number. -/
def isRegisterName (name : Text) : Bool :=
  match name with
  | [c] => c = unnamed || Text.isAlphanumeric c
  | _ => false

/-- Registers in the order of their first writing. -/
structure RegisterBank where
  entries : List (Char × RegisterValue)
deriving DecidableEq, Repr

namespace RegisterBank

def empty : RegisterBank := ⟨[(unnamed, {})]⟩

/-- Writes one entry, in its old place if it has one. -/
def putEntry (entries : List (Char × RegisterValue)) (name : Char) (value : RegisterValue) :
    List (Char × RegisterValue) :=
  match entries with
  | [] => [(name, value)]
  | (n, v) :: rest => if n = name then (n, value) :: rest else (n, v) :: putEntry rest name value

def find? (bank : RegisterBank) (name : Text) : Option RegisterValue :=
  match Text.lower name with
  | [c] => bank.entries.lookup c
  | _ => none

/-- What a register holds; one that was never written holds the empty text. -/
def get (bank : RegisterBank) (name : Text) : RegisterValue := (bank.find? name).getD {}

def contains (bank : RegisterBank) (name : Text) : Bool := (bank.find? name).isSome

def write (bank : RegisterBank) (name : Char) (value : RegisterValue) : RegisterBank :=
  ⟨putEntry (putEntry bank.entries name value) unnamed value⟩

/-- Writes under a name. An uppercase name appends to the register of its lower form, which must be a
register name of its own; the kind there stays. -/
def set (bank : RegisterBank) (name : Text) (value : RegisterValue) : Except Fault RegisterBank :=
  match name with
  | [c] =>
    if isRegisterName [c] = false then .error (.badRegister name)
    else if Text.isUpper c then
      match Text.lowerChar c with
      | [l] =>
        if Text.isUpper l then .error (.noLowerRegister name)
        else if isRegisterName [l] then
          .ok (bank.write l ((bank.get [l]).extend value.text))
        else .error (.badRegister [l])
      | spread => .error (.badRegister spread)
    else .ok (bank.write c value)
  | _ => .error (.badRegister name)

/-- Writes what a register holds and a text behind it back under the same name. -/
def append (bank : RegisterBank) (name : Text) (text : Text) : Except Fault RegisterBank :=
  bank.set name ((bank.get name).extend text)

/-- The name that is meant by an optional one: none and the empty one are the unnamed register. -/
def nameOr (name : Option Text) : Text :=
  match name with
  | none => [unnamed]
  | some [] => [unnamed]
  | some t => t

def store (bank : RegisterBank) (name : Option Text) (value : RegisterValue) :
    Except Fault RegisterBank :=
  bank.set (nameOr name) value

end RegisterBank
end ModalEditor
