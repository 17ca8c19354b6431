import ModalEditor.Position
import ModalEditor.Text.Basic
/-!
# Faults

Why a step was refused. Unfinished keys are no fault: a fault is a bad argument, a place outside the
buffer, a number too long to read or write, or a size that is too large.
-/
namespace ModalEditor

inductive Fault
  | unknownOperator (keys : Text)
  | countNotPositive
  | motionAndObject
  | unknownObject (name : Text)
  | quoteWithoutMark
  | searchNotOneChar
  | unknownMode (name : Text)
  | badMark (name : Text)
  | unknownRegisterKind (name : Text)
  | badRegister (name : Text)
  /-- An uppercase name without a lowercase register to append to. -/
  | noLowerRegister (name : Text)
  | unknownLanguage (name : Text)
  | tabWidthNotPositive
  | idleTimeoutNotPositive
  | notAnInteger (setting : Text) (written : Text)
  | timeoutNotPositive
  | clockBackwards
  /-- More digits than a numeral may have. -/
  | numeralTooLong (digits : Nat)
  /-- A number whose numeral would have too many digits. -/
  | numberTooLong
  /-- A number of copies that no size can be. -/
  | countTooLarge
  /-- Copies that would make too long a text. -/
  | textTooLong
  | noSuchChar
  | noSuchLine
  | lineOutside (position : Position)
  | columnOutside (position : Position)
  | unknownLevel (name : Text)
  | unknownPreset (name : Text)
  | configAndPreset
  /-- A failure of the code inside a span, under its own name. -/
  | raised (kind message : Text)
deriving DecidableEq, Repr

namespace Fault

private def naming (head : String) (name : Text) (tail : String) : Text :=
  head.toList ++ '\'' :: name ++ '\'' :: tail.toList

def message : Fault → Text
  | unknownOperator keys => naming "Unknown operator " keys ""
  | countNotPositive => "count must be a positive integer".toList
  | motionAndObject => "a command takes a motion or a text object, not both".toList
  | unknownObject name => naming "Unknown text object type " name ""
  | quoteWithoutMark => "quote text objects need a quote character".toList
  | searchNotOneChar => "char search expects exactly one character".toList
  | unknownMode name => naming "Unknown mode " name ""
  | badMark name => naming "Invalid mark name " name ""
  | unknownRegisterKind name => naming "Unknown register type " name ""
  | badRegister name => naming "Invalid register name " name ""
  | noLowerRegister name => naming "No lowercase register for " name ""
  | unknownLanguage name => naming "Unsupported language " name ""
  | tabWidthNotPositive => "tab_width must be positive".toList
  | idleTimeoutNotPositive => "idle_timeout_ms must be positive".toList
  | notAnInteger name written => name ++ " must be an integer, got ".toList ++ written
  | timeoutNotPositive => "timeout_ms must be positive".toList
  | clockBackwards => "cannot move a clock backwards".toList
  | numeralTooLong digits =>
    "Exceeds the limit (4300 digits) for integer string conversion: value has ".toList ++
      Nat.toDigits 10 digits ++
      " digits; use sys.set_int_max_str_digits() to increase the limit".toList
  | numberTooLong =>
    ("Exceeds the limit (4300 digits) for integer string conversion; " ++
      "use sys.set_int_max_str_digits() to increase the limit").toList
  | countTooLarge => "cannot fit 'int' into an index-sized integer".toList
  | textTooLong => "repeated string is too long".toList
  | noSuchChar => "string index out of range".toList
  | noSuchLine => "list index out of range".toList
  | lineOutside _ => "Line out of range".toList
  | columnOutside _ => "Column out of range".toList
  | unknownLevel name => naming "Unsupported log level " name "."
  | unknownPreset name => naming "Unknown telemetry preset " name "."
  | configAndPreset => "Provide either `config` or `preset`, not both.".toList
  | raised _ message => message

end Fault

/-- Succeeds with what is there, and otherwise fails with the fault. -/
def Fault.unless {α : Type} (fault : Fault) : Option α → Except Fault α
  | some a => .ok a
  | none => .error fault

@[simp] theorem Fault.unless_some {α : Type} (fault : Fault) (a : α) :
    fault.unless (some a) = .ok a := rfl

theorem bind_eq_ok_iff {α β : Type} {x : Except Fault α} {f : α → Except Fault β} {b : β} :
    x >>= f = .ok b ↔ ∃ a, x = .ok a ∧ f a = .ok b := by
  cases x <;> simp [bind, Except.bind]

@[simp] theorem not_exists_error_ok {α : Type} (a : α) :
    ¬∃ fault : Fault, (.ok a : Except Fault α) = .error fault :=
  fun ⟨_, h⟩ => nomatch h

theorem exists_error_map {α β : Type} {x : Except Fault α} {f : α → β} :
    (∃ fault, x.map f = .error fault) ↔ ∃ fault, x = .error fault := by
  cases x <;> simp [Except.map]

theorem exists_error_ite {α : Type} {p : Prop} [Decidable p] {refusal : Fault} {x : Except Fault α} :
    (∃ fault, (if p then .error refusal else x) = .error fault) ↔ p ∨ ∃ fault, x = .error fault := by
  by_cases h : p <;> simp [h]

theorem map_eq_ok_iff {α β : Type} {x : Except Fault α} {f : α → β} {b : β} :
    f <$> x = .ok b ↔ ∃ a, x = .ok a ∧ f a = b := by
  cases x <;> simp [Functor.map, Except.map]

end ModalEditor
