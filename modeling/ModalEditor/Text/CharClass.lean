/-!
# Character classes

A class of characters is kept as the ascending code points at which membership changes, beginning
outside. A code point belongs to it when an odd number of changes lies at or below it.
-/
namespace ModalEditor.Text

/-- A set of characters, by the ascending code points where it begins and ends. -/
structure CharClass where
  switches : List Nat

namespace CharClass

/-- Follows the changes up to a code point; the scan stops at the first change above it. -/
def scan (inside : Bool) : List Nat → Nat → Bool
  | [], _ => inside
  | switch :: rest, n => if n < switch then inside else scan (!inside) rest n

def contains (k : CharClass) (c : Char) : Bool := scan false k.switches c.toNat

end CharClass

/-! ### Letters and digits of ASCII -/

theorem bounds_of_isUpper {c : Char} (h : c.isUpper = true) : 65 ≤ c.toNat ∧ c.toNat ≤ 90 :=
  of_decide_eq_true h

theorem bounds_of_isLower {c : Char} (h : c.isLower = true) : 97 ≤ c.toNat ∧ c.toNat ≤ 122 := by
  have hsplit := Bool.and_eq_true_iff.1 h
  exact ⟨of_decide_eq_true hsplit.1, of_decide_eq_true hsplit.2⟩

theorem bounds_of_isDigit {c : Char} (h : c.isDigit = true) : 48 ≤ c.toNat ∧ c.toNat ≤ 57 := by
  have hsplit := Bool.and_eq_true_iff.1 h
  exact ⟨of_decide_eq_true hsplit.1, of_decide_eq_true hsplit.2⟩

theorem isAlphanum_iff {c : Char} :
    c.isAlphanum = true ↔ (c.isUpper = true ∨ c.isLower = true) ∨ c.isDigit = true := by
  have hclass : c.isAlphanum = ((c.isUpper || c.isLower) || c.isDigit) := rfl
  rw [hclass, Bool.or_eq_true, Bool.or_eq_true]

end ModalEditor.Text
