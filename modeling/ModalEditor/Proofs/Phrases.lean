import ModalEditor.Proofs.Counts
/-!
# Phrases

A phrase is a command as it is typed: a register, a count, and a body with a count of its own. It stands
for one command, which is told from its parts alone.
-/
namespace ModalEditor.Grammar

/-- A target as it is typed. -/
inductive Aim
  | search (key c : Char)
  | object (scope key : Char)
  | simple (key : Char)

namespace Aim

def keys : Aim → Text
  | search key c => [key, c]
  | object scope key => [scope, key]
  | simple key => [key]

def WellFormed : Aim → Prop
  | search key _ => key ∈ ['f', 'F', 't', 'T']
  | object scope key =>
    scope ∈ ['i', 'a'] ∧ key ∈ ['w', 'W', '"', '\'', '(', ')', '[', ']', '\x7b', '\x7d']
  | simple key => key ∈ ['w', 'W', 'b', 'B', 'e', 'E', '0', '^', '$']

def motion? : Aim → Option Text
  | search key c => some [key, c]
  | object _ _ => none
  | simple key => some [key]

def object? : Aim → Option TextObject
  | object scope key => TextObject.ofKeys? [scope] [key]
  | _ => none

def operator? : Aim → Option Operator
  | object _ _ => some .delete
  | _ => none

end Aim

inductive Body
  | yankLine
  | atOnce (op : Operator)
  | waiting (op : Operator) (inner : Option Text)
  | doubled (op : Operator) (inner : Option Text)
  | aimed (op : Operator) (inner : Option Text) (aim : Aim)
  | bare (aim : Aim)

namespace Body

def keys : Body → Text
  | yankLine => ['Y']
  | atOnce op => [op.key]
  | waiting op inner => op.key :: inner.getD []
  | doubled op inner => op.key :: (inner.getD [] ++ [op.key])
  | aimed op inner aim => op.key :: (inner.getD [] ++ aim.keys)
  | bare aim => aim.keys

def inner : Body → Option Text
  | waiting _ inner | doubled _ inner | aimed _ inner _ => inner
  | _ => none

def waitingKeys : Text := ['d', 'c', 'y', '>', '<']

def WellFormed (b : Body) : Prop :=
  (∀ digits ∈ b.inner, Numeral digits) ∧
    match b with
    | yankLine => True
    | atOnce op => op.key ∈ ['p', 'P', 'J']
    | waiting op _ | doubled op _ => op.key ∈ waitingKeys
    | aimed op _ aim => op.key ∈ waitingKeys ∧ aim.WellFormed
    | bare aim => aim.WellFormed

def operator? : Body → Option Operator
  | yankLine => some .yank
  | atOnce op | waiting op _ | doubled op _ | aimed op _ _ => some op
  | bare aim => aim.operator?

def motion? : Body → Option Text
  | yankLine => some ['y', 'y']
  | atOnce _ | waiting _ _ => none
  | doubled op _ => some [op.key, op.key]
  | aimed _ _ aim | bare aim => aim.motion?

def object? : Body → Option TextObject
  | aimed _ _ aim | bare aim => aim.object?
  | _ => none

end Body

/-- Two counts multiply; one alone counts by itself. -/
def times (outer inner : Option Nat) : Option Nat :=
  match outer, inner with
  | some a, some b => some (a * b)
  | some a, none => some a
  | none, b => b

/-- A command as it is typed. -/
structure Phrase where
  register : Option Char
  outer : Option Text
  body : Body

namespace Phrase

def keys (p : Phrase) : Text :=
  (p.register.elim [] fun name => ['"', name]) ++ p.outer.getD [] ++ p.body.keys

structure WellFormed (p : Phrase) : Prop where
  register : ∀ name ∈ p.register, isRegisterName [name] = true
  outer : ∀ digits ∈ p.outer, Numeral digits
  body : p.body.WellFormed

theorem outer_infix (p : Phrase) {digits : Text} (h : digits ∈ p.outer) : digits <:+: p.keys := by
  refine ⟨p.register.elim [] fun name => ['"', name], p.body.keys, ?_⟩
  rw [keys, Option.mem_def.1 h, Option.getD_some]

theorem inner_infix (p : Phrase) {digits : Text} (h : digits ∈ p.body.inner) : digits <:+: p.keys := by
  have hbody : digits <:+: p.body.keys := by
    cases hb : p.body with
    | waiting op inner =>
      rw [hb] at h
      exact ⟨[op.key], [], by simp [Body.keys, show inner = some digits from h]⟩
    | doubled op inner =>
      rw [hb] at h
      exact ⟨[op.key], [op.key], by simp [Body.keys, show inner = some digits from h]⟩
    | aimed op inner aim =>
      rw [hb] at h
      exact ⟨[op.key], aim.keys, by simp [Body.keys, show inner = some digits from h]⟩
    | _ =>
      rw [hb] at h
      cases h
  exact hbody.trans (List.suffix_append _ p.body.keys).isInfix

/-- Each count takes every digit that it can: no motion `0` stands directly behind one. -/
structure Longest (p : Phrase) : Prop where
  outer : p.outer ≠ none → p.body ≠ .bare (.simple '0')
  inner : ∀ op digits, p.body ≠ .aimed op (some digits) (.simple '0')

def product (p : Phrase) : Option Nat :=
  times (p.outer.map numeralValue) (p.body.inner.map numeralValue)

/-- The command that a phrase stands for. -/
structure Describes (p : Phrase) (c : Command) : Prop where
  register : c.register = p.register.map fun name => [name]
  count : c.count.map Count.val = p.product
  operator : c.operator = p.body.operator?
  motion : c.motion? = p.body.motion?
  object : c.object? = p.body.object?

theorem Describes.unique {p : Phrase} {c d : Command} (hc : p.Describes c) (hd : p.Describes d) :
    c = d := by
  have hcount : c.count = d.count := by
    have hval := hc.count.trans hd.count.symm
    refine Option.map_injective ?_ hval
    rintro ⟨m, _⟩ ⟨n, _⟩ rfl
    rfl
  have hregister := hc.register.trans hd.register.symm
  have hoperator := hc.operator.trans hd.operator.symm
  have hmotion := hc.motion.trans hd.motion.symm
  have hobject := hc.object.trans hd.object.symm
  obtain ⟨_, target, _, _⟩ := c
  obtain ⟨_, other, _, _⟩ := d
  cases hregister
  cases hoperator
  cases hcount
  have htarget : target = other := by
    unfold Command.motion? at hmotion
    unfold Command.object? at hobject
    rcases target with _ | ⟨_ | _⟩ <;> rcases other with _ | ⟨_ | _⟩ <;> simp_all
  rw [htarget]

end Phrase

end ModalEditor.Grammar
