import ModalEditor.IdleTimer
import ModalEditor.Session
/-!
# Key buffers

Keys pile up until they make a command. After too long a pause they are stale: whoever looks at the
buffer next drops them first, so stale keys never take part in a command.
-/
namespace ModalEditor

/-- The keys typed so far and the timer that each key starts again. -/
structure KeyBuffer (τ : Type) where
  keys : Text := []
  timer : IdleTimer τ

namespace KeyBuffer

variable {τ : Type}

def clear (b : KeyBuffer τ) : KeyBuffer τ := ⟨[], b.timer.cancel⟩

def advance [Add τ] (b : KeyBuffer τ) (duration : τ) : KeyBuffer τ :=
  { b with timer := b.timer.advance duration }

/-- What is left when the keys were read: a complete command empties the buffer, other keys stay. -/
def afterRead (b : KeyBuffer τ) (s : Session) : Except Fault (Option Command) →
    KeyBuffer τ × Session × Except Fault (Option Command)
  | .error fault => (b, s, .error fault)
  | .ok none => (b, s, .ok none)
  | .ok (some command) =>
    if command.pending then (b, s, .ok none) else (b.clear, s, .ok (some command))

variable [LE τ] [DecidableLE τ]

/-- Drops the keys if they are stale. -/
def fresh (b : KeyBuffer τ) : KeyBuffer τ := if b.timer.expired then b.clear else b

/-- Drops stale keys; answers whether there were any, and says so. -/
def processTimeouts (b : KeyBuffer τ) : Logged (KeyBuffer τ × Bool) := do
  let dropped := b.timer.expired && b.keys ≠ []
  if dropped then
    logEvent defaultLogger .debug "input.timeout".toList [("dropped".toList, b.keys)]
  return (b.fresh, dropped)

/-- The buffer without stale keys; what it holds then is what the buffer shows. -/
def polled (b : KeyBuffer τ) : Logged (KeyBuffer τ) := Prod.fst <$> b.processTimeouts

def text (b : KeyBuffer τ) : Text := b.fresh.keys

def push [Add τ] (b : KeyBuffer τ) (key : Text) : Logged (KeyBuffer τ) := do
  let b ← b.polled
  return ⟨b.keys ++ key, b.timer.arm⟩

def pop (b : KeyBuffer τ) : Logged (KeyBuffer τ × Option Char) := do
  let b ← b.polled
  return ({ b with keys := b.keys.dropLast }, b.keys.getLast?)

def parse (b : KeyBuffer τ) (s : Session) (logger : Option Text) :
    Logged (KeyBuffer τ × Session × Except Fault (Option Command)) := do
  let b ← b.polled
  if b.keys = [] then return (b, s, .ok none)
  else
    let (s, answer) ← s.parse logger b.keys
    return b.afterRead s answer

@[simp] theorem value_processTimeouts (b : KeyBuffer τ) :
    b.processTimeouts.value = (b.fresh, b.timer.expired && b.keys ≠ []) := by
  unfold processTimeouts
  simp only
  split <;> rfl

@[simp] theorem value_polled (b : KeyBuffer τ) : b.polled.value = b.fresh := by
  simp [polled]

@[simp] theorem value_push [Add τ] (b : KeyBuffer τ) (key : Text) :
    (b.push key).value = ⟨b.fresh.keys ++ key, b.fresh.timer.arm⟩ := by
  simp [push]

@[simp] theorem value_pop (b : KeyBuffer τ) :
    b.pop.value = ({ b.fresh with keys := b.fresh.keys.dropLast }, b.fresh.keys.getLast?) := by
  simp [pop]

theorem fresh_of_expired {b : KeyBuffer τ} (h : b.timer.expired = true) : b.fresh = b.clear :=
  if_pos h

theorem fresh_of_not_expired {b : KeyBuffer τ} (h : ¬b.timer.expired = true) : b.fresh = b :=
  if_neg h

theorem clear_fresh (b : KeyBuffer τ) : b.fresh.clear = b.clear := by
  unfold fresh
  split <;> rfl

theorem fresh_fresh (b : KeyBuffer τ) : b.fresh.fresh = b.fresh := by
  by_cases h : b.timer.expired = true
  · rw [fresh_of_expired h]
    rfl
  · rw [fresh_of_not_expired h, fresh_of_not_expired h]

theorem fresh_keys_nil {b : KeyBuffer τ} (h : b.keys = []) : b.fresh.keys = [] := by
  unfold fresh
  split
  · rfl
  · exact h

theorem fresh_timer (b : KeyBuffer τ) :
    b.fresh.timer.now = b.timer.now ∧ b.fresh.timer.timeout = b.timer.timeout := by
  unfold fresh
  split <;> exact ⟨rfl, rfl⟩

theorem value_parse (b : KeyBuffer τ) (s : Session) (logger : Option Text) :
    (b.parse s logger).value =
      if b.fresh.keys = [] then (b.fresh, s, .ok none)
      else afterRead b.fresh (s.read b.fresh.keys).1 (s.read b.fresh.keys).2 := by
  simp only [parse, Logged.value_bind, value_polled]
  split
  · rfl
  · simp only [Logged.value_bind, Logged.value_pure, Session.value_parse]

end KeyBuffer
end ModalEditor
