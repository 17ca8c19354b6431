/-!
# Positions and ranges

A position is a line and a column, both from zero. Positions are ordered by line first; a range keeps
two of them, and its end belongs to it.
-/
namespace ModalEditor

/-- A place in a buffer. It may lie outside every line. -/
structure Position where
  line : Int := 0
  column : Int := 0
deriving DecidableEq, Repr, Inhabited

namespace Position

def withColumn (p : Position) (column : Int) : Position := ⟨p.line, column⟩

instance : LE Position where
  le a b := a.line < b.line ∨ a.line = b.line ∧ a.column ≤ b.column

instance : DecidableLE Position := fun a b =>
  inferInstanceAs (Decidable (a.line < b.line ∨ a.line = b.line ∧ a.column ≤ b.column))

theorem le_def {a b : Position} :
    a ≤ b ↔ a.line < b.line ∨ a.line = b.line ∧ a.column ≤ b.column := Iff.rfl

protected theorem le_refl (a : Position) : a ≤ a := Or.inr ⟨rfl, Int.le_refl _⟩

protected theorem le_total (a b : Position) : a ≤ b ∨ b ≤ a := by
  simp only [le_def]
  omega

end Position

/-- The positions from `start` to `stop`, both included. -/
structure Range where
  start : Position
  stop : Position
deriving DecidableEq, Repr, Inhabited

namespace Range

def between (a b : Position) : Range := if a ≤ b then ⟨a, b⟩ else ⟨b, a⟩

def singleLine (r : Range) : Bool := r.start.line = r.stop.line

def Ordered (r : Range) : Prop := r.start ≤ r.stop

instance (r : Range) : Decidable r.Ordered := inferInstanceAs (Decidable (r.start ≤ r.stop))

theorem between_ordered (a b : Position) : (between a b).Ordered := by
  unfold between
  split
  · assumption
  · next h => exact (Position.le_total a b).resolve_left h

end Range
end ModalEditor
