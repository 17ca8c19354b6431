import ModalEditor.Fault
import ModalEditor.Seconds
/-!
# Idle timers

A timer never goes off by itself: it keeps a deadline against a clock that is moved from outside, and
whoever owns it asks whether the deadline has passed. Time may be any ordered type with an addition.

The timeout of a timer is a time of its clock. A clock of floats has none for 2^1024 - 2^970 milliseconds or
more. Settings may ask for such a wait, and an editor with it refuses every key that would start its timer;
that editor is not described here.
-/
namespace ModalEditor

/-- A clock, and a deadline that can be set, moved and dropped. -/
structure IdleTimer (τ : Type) where
  timeout : τ
  now : τ
  deadline : Option τ := none
  generation : Nat := 0

namespace IdleTimer

variable {τ : Type}

def arm [Add τ] (t : IdleTimer τ) : IdleTimer τ :=
  { t with deadline := some (t.now + t.timeout), generation := t.generation + 1 }

def cancel (t : IdleTimer τ) : IdleTimer τ := { t with deadline := none }

def armed (t : IdleTimer τ) : Bool := t.deadline.isSome

def expired [LE τ] [DecidableLE τ] (t : IdleTimer τ) : Bool :=
  t.deadline.any fun deadline => decide (deadline ≤ t.now)

def advance [Add τ] (t : IdleTimer τ) (duration : τ) : IdleTimer τ :=
  { t with now := t.now + duration }

end IdleTimer

/-- How far milliseconds move a clock of seconds, never back. -/
def elapsed (milliseconds : Float) : Except Fault Seconds :=
  if milliseconds < 0.0 then .error .clockBackwards else .ok (.ofMilliseconds milliseconds)

namespace IdleTimer

def ofMilliseconds (timeout : Float) (start : Seconds) : Except Fault (IdleTimer Seconds) :=
  if timeout ≤ 0.0 then .error .timeoutNotPositive
  else .ok { timeout := .ofMilliseconds timeout, now := start }

/-- The milliseconds left until the deadline; none are left after it. -/
def remainingMilliseconds (t : IdleTimer Seconds) : Option Float :=
  t.deadline.map fun deadline =>
    let left := (deadline - t.now).toMilliseconds
    if 0.0 < left then left else 0.0

end IdleTimer
end ModalEditor
