import ModalEditor.Command.Basic
import ModalEditor.Command.Search
import ModalEditor.Register
import ModalEditor.Text.Numeral
/-!
# The grammar of commands

Keys form a command in this order: a register, a count, an operator, a second count, and a target or
the operator once more. Keys that are not a whole command yet read as nothing, and so do keys that can
never become one; only a count with too many digits is refused.
-/
namespace ModalEditor.Grammar

/-- Cuts off a register: the mark of the unnamed one and a register name. -/
def takeRegister? (keys : Text) : Option (Option Text × Text) :=
  match keys with
  | '"' :: name :: rest => if isRegisterName [name] then some (some [name], rest) else none
  | ['"'] => none
  | _ => some (none, keys)

/-- Cuts off the digits of a count, which does not begin with a zero. -/
def takeDigits (keys : Text) : Text × Text :=
  match keys with
  | c :: rest =>
    if '1' ≤ c ∧ c ≤ '9' then
      (c :: rest.takeWhile Text.isDecimalDigit, rest.dropWhile Text.isDecimalDigit)
    else ([], keys)
  | [] => ([], [])

def takeCount (keys : Text) : Except Fault (Option Count × Text) :=
  match takeDigits keys with
  | ([], rest) => .ok (none, rest)
  | (digits, rest) => do return (Count.ofNat? (← Text.readDigits digits), rest)

/-- A count before the operator and one after it multiply. -/
def combine (outer inner : Option Count) : Option Count :=
  match outer, inner with
  | some a, some b => some (a * b)
  | some a, none => some a
  | none, b => b

def simpleMotions : Text := ['w', 'W', 'b', 'B', 'e', 'E', '0', '^', '$']

def readTarget? (keys : Text) : Option Target :=
  match keys with
  | [key] => if key ∈ simpleMotions then some (.motion [key]) else none
  | [key, c] =>
    if key = 'f' ∨ key = 'F' ∨ key = 't' ∨ key = 'T' then some (.motion [key, c])
    else (TextObject.ofKeys? [key] [c]).map .object
  | _ => none

/-- A text object without an operator is deleted; a motion alone moves the cursor. -/
def operatorFor (operator : Option Operator) (target : Target) : Option Operator :=
  match target with
  | .object _ => some (operator.getD .delete)
  | .motion _ => operator

def readAim? (register : Option Text) (count : Option Count) (operator : Option Operator)
    (keys : Text) : Option Command :=
  (readTarget? keys).map fun target => ⟨operatorFor operator target, some target, count, register⟩

/-- What follows an operator that takes a target: nothing yet, the operator again, or the target. -/
def readOperand (register : Option Text) (outer : Option Count) (operator : Operator)
    (keys : Text) : Except Fault (Option Command) := do
  let (inner, rest) ← takeCount keys
  let count := combine outer inner
  match rest with
  | [] => return some ⟨some operator, none, count, register⟩
  | key :: more =>
    if key = operator.key then
      return if more = [] then some ⟨some operator, some (.motion [key, key]), count, register⟩
        else none
    else return readAim? register count (some operator) rest

def readBody (register : Option Text) (count : Option Count) (keys : Text) :
    Except Fault (Option Command) :=
  match keys with
  | [] => .ok none
  | 'Y' :: rest =>
    .ok (if rest = [] then some ⟨some .yank, some (.motion ['y', 'y']), count, register⟩ else none)
  | key :: rest =>
    match Operator.ofKey? key with
    | some operator =>
      if operator.takesTarget then readOperand register count operator rest
      else .ok (if rest = [] then some ⟨some operator, none, count, register⟩ else none)
    | none => .ok (readAim? register count none keys)

/-- Reads keys as one command. -/
def read (keys : Text) : Except Fault (Option Command) :=
  match takeRegister? keys with
  | none => .ok none
  | some (register, rest) => do
    let (count, body) ← takeCount rest
    readBody register count body

end ModalEditor.Grammar
