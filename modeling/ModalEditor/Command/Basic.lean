import ModalEditor.Command.TextObject
/-!
# Commands

A command is an operator, a target or both, with a count and a register. An operator that still waits
for its target makes a pending command.
-/
namespace ModalEditor

/-- What a command does to the text. -/
inductive Operator
  | delete
  | change
  | yank
  | indent
  | dedent
  | paste
  | pasteBefore
  | join
deriving DecidableEq, Repr

namespace Operator

def key : Operator → Char
  | delete => 'd'
  | change => 'c'
  | yank => 'y'
  | indent => '>'
  | dedent => '<'
  | paste => 'p'
  | pasteBefore => 'P'
  | join => 'J'

def all : List Operator := [delete, change, yank, indent, dedent, paste, pasteBefore, join]

def ofKey? (c : Char) : Option Operator := all.find? fun op => op.key = c

def ofKeys? (keys : Text) : Option Operator :=
  match keys with
  | [c] => ofKey? c
  | _ => none

def ofKeys (keys : Text) : Except Fault Operator := Fault.unless (.unknownOperator keys) (ofKeys? keys)

/-- Whether an operator takes a target; the others act at the cursor at once. -/
def takesTarget : Operator → Bool
  | delete | change | yank | indent | dedent => true
  | paste | pasteBefore | join => false

/-- Whether an operator puts the text it took into a register. -/
def keepsText : Operator → Bool
  | delete | change | yank => true
  | _ => false

@[simp] theorem ofKey?_key (op : Operator) : ofKey? op.key = some op := by
  cases op <;> rfl

end Operator

/-- A repetition count, at least one. -/
structure Count where
  val : Nat
  pos : 0 < val
deriving DecidableEq, Repr

namespace Count

def ofNat? (n : Nat) : Option Count := if h : 0 < n then some ⟨n, h⟩ else none

instance : Mul Count := ⟨fun a b => ⟨a.val * b.val, Nat.mul_pos a.pos b.pos⟩⟩

end Count

/-- What an operator works on, or where the cursor goes: the keys of a motion, or a text object. -/
inductive Target
  | motion (keys : Text)
  | object (object : TextObject)
deriving DecidableEq, Repr

structure Command where
  operator : Option Operator := none
  target : Option Target := none
  count : Option Count := none
  register : Option Text := none
deriving DecidableEq, Repr

namespace Command

def motion? (c : Command) : Option Text :=
  match c.target with
  | some (.motion keys) => some keys
  | _ => none

def object? (c : Command) : Option TextObject :=
  match c.target with
  | some (.object o) => some o
  | _ => none

/-- Builds a command from parts that nothing is known about yet. -/
def make (operator motion : Option Text) (count : Option Int) (object : Option TextObject)
    (register : Option Text) : Except Fault Command := do
  let op ← operator.mapM Operator.ofKeys
  let times ← count.mapM fun n => Fault.unless .countNotPositive (Count.ofNat? n.toNat)
  match motion, object with
  | some _, some _ => throw .motionAndObject
  | some keys, none => return ⟨op, some (.motion keys), times, register⟩
  | none, some o => return ⟨op, some (.object o), times, register⟩
  | none, none => return ⟨op, none, times, register⟩

/-- The count, one unless it was given. -/
def times (c : Command) : Nat := (c.count.map Count.val).getD 1

theorem times_pos (c : Command) : 0 < c.times := by
  unfold times
  cases c.count with
  | none => exact Nat.one_pos
  | some n => exact n.pos

/-- Whether an operator still waits for its target. -/
def pending (c : Command) : Bool := c.operator.any Operator.takesTarget && c.target.isNone

/-- The doubled operators, which take whole lines. -/
def linewiseMotions : List Text := [['d', 'd'], ['c', 'c'], ['y', 'y'], ['>', '>'], ['<', '<']]

def linewise (c : Command) : Bool := c.motion?.any (· ∈ linewiseMotions)

def operatorKeys (c : Command) : Text := (c.operator.map Operator.key).toList

def motionKeys (c : Command) : Text := c.motion?.getD []

end Command
end ModalEditor
