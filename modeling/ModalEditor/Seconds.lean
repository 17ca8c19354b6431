/-!
# Seconds

A number of seconds is a whole one, kept exactly, or a measured one, kept as a float. Sums round as soon
as one part is measured. Comparing never rounds, so a whole number that no float can hold still lies on
one side of every measured one (`whole_le_measured_iff`, `measured_le_whole_iff`).
-/
namespace ModalEditor

/-- How many of the smallest positive float make one. -/
def unitsInOne : Nat := 1 <<< 1074

/-- The value of a finite float, counted in the smallest positive one. Of the sixty-four bits the first is
the sign, the next eleven are the exponent, and the rest is the fraction. -/
def floatUnits? (x : Float) : Option Int :=
  let bits := x.toBits.toNat
  let negative := bits >>> 63 = 1
  let exponent := (bits >>> 52) % (1 <<< 11)
  let fraction := bits % (1 <<< 52)
  let size : Nat := if exponent = 0 then fraction else ((1 <<< 52) + fraction) <<< (exponent - 1)
  if exponent = 2047 then none
  else some (if negative then -(size : Int) else size)

inductive Seconds
  | whole (n : Int)
  | measured (x : Float)

namespace Seconds

def toFloat : Seconds → Float
  | whole n => Float.ofInt n
  | measured x => x

def ofMilliseconds (milliseconds : Float) : Seconds := measured (milliseconds / 1000.0)

def toMilliseconds (s : Seconds) : Float := s.toFloat * 1000.0

instance : Add Seconds where
  add
    | whole m, whole n => whole (m + n)
    | a, b => measured (a.toFloat + b.toFloat)

instance : Sub Seconds where
  sub
    | whole m, whole n => whole (m - n)
    | a, b => measured (a.toFloat - b.toFloat)

/-- The exact order. A float without a finite value is above all whole numbers, below all of them, or not
comparable. -/
def le : Seconds → Seconds → Bool
  | whole m, whole n => decide (m ≤ n)
  | measured x, measured y => decide (x ≤ y)
  | whole n, measured y =>
    match floatUnits? y with
    | some units => decide (n * unitsInOne ≤ units)
    | none => decide (0.0 ≤ y)
  | measured x, whole n =>
    match floatUnits? x with
    | some units => decide (units ≤ n * unitsInOne)
    | none => decide (x ≤ 0.0)

instance : LE Seconds := ⟨fun a b => a.le b = true⟩

instance : DecidableLE Seconds := fun a b => inferInstanceAs (Decidable (a.le b = true))

@[simp] theorem whole_add_whole (m n : Int) : whole m + whole n = whole (m + n) := rfl

@[simp] theorem measured_add_measured (x y : Float) :
    measured x + measured y = measured (x + y) := rfl

@[simp] theorem whole_le_whole_iff {m n : Int} : whole m ≤ whole n ↔ m ≤ n :=
  decide_eq_true_iff

@[simp] theorem measured_le_measured_iff {x y : Float} : measured x ≤ measured y ↔ x ≤ y :=
  decide_eq_true_iff

theorem whole_le_measured_iff {n units : Int} {y : Float} (h : floatUnits? y = some units) :
    whole n ≤ measured y ↔ n * unitsInOne ≤ units := by
  change le _ _ = true ↔ _
  simp only [le, h, decide_eq_true_iff]

theorem measured_le_whole_iff {n units : Int} {x : Float} (h : floatUnits? x = some units) :
    measured x ≤ whole n ↔ units ≤ n * unitsInOne := by
  change le _ _ = true ↔ _
  simp only [le, h, decide_eq_true_iff]

end Seconds
end ModalEditor
