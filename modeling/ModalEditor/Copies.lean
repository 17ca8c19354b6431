import ModalEditor.Fault
/-!
# Copies

A list or a text a number of times over. Sizes end at a limit: a number of copies beyond it is refused,
however little there is to copy, and so is a text that would be longer. What stays below the limit is taken to
be at hand, for memory is no part of this.
-/
namespace ModalEditor

/-- No size is as large as this, the 63rd power of two. -/
def sizeLimit : Nat := 9223372036854775808

/-- A number that may be asked for as a size. Below zero it stands for none. -/
def IsSize (n : Int) : Prop := -(sizeLimit : Int) ≤ n ∧ n < sizeLimit

instance : DecidablePred IsSize := fun _ => inferInstanceAs (Decidable (_ ∧ _))

theorem isSize_natCast {n : Nat} : IsSize n ↔ n < sizeLimit := by
  unfold IsSize
  omega

/-- The entries of a list a number of times over; none at all for a count below one. -/
def copies {α : Type} (count : Int) (xs : List α) : Except Fault (List α) :=
  if IsSize count then .ok (List.replicate count.toNat xs).flatten else .error .countTooLarge

section

variable {α : Type}

theorem copies_natCast (n : Nat) (xs : List α) :
    copies n xs =
      if sizeLimit ≤ n then .error .countTooLarge else .ok (List.replicate n xs).flatten := by
  rw [copies, ite_congr (propext isSize_natCast) (fun _ => rfl) (fun _ => rfl), Int.toNat_natCast]
  simp only [← Nat.not_lt, ite_not]

@[simp] theorem copies_one (xs : List α) : copies 1 xs = .ok xs := by
  refine (copies_natCast 1 xs).trans ?_
  rw [if_neg (by decide), List.replicate_one, List.flatten_singleton]

theorem eq_of_copies {count : Int} {xs ys : List α} (h : copies count xs = .ok ys) :
    ys = (List.replicate count.toNat xs).flatten := by
  unfold copies at h
  split at h
  · exact (Except.ok.inj h).symm
  · cases h

end

namespace Text

/-- A text a number of times over. One copy is the text itself, however long it is. -/
def copies (count : Int) (t : Text) : Except Fault Text :=
  if IsSize count ∧ 1 < count ∧ sizeLimit ≤ count * t.length then .error .textTooLong
  else ModalEditor.copies count t

/-- A text a number of times over, with a line break between any two copies. -/
def copyLines (count : Int) (t : Text) : Except Fault Text :=
  if IsSize count ∧ sizeLimit < count * (t.length + 1) then .error .textTooLong
  else unlines <$> ModalEditor.copies count [t]

theorem copies_natCast (n : Nat) (t : Text) :
    copies n t =
      if sizeLimit ≤ n then .error .countTooLarge
      else if 1 < n ∧ sizeLimit ≤ n * t.length then .error .textTooLong
      else .ok (List.replicate n t).flatten := by
  have hone : (1 : Int) < n ↔ 1 < n := by omega
  have hlong : (sizeLimit : Int) ≤ n * t.length ↔ sizeLimit ≤ n * t.length := by
    rw [← Int.natCast_mul, Int.ofNat_le]
  simp only [copies, isSize_natCast, hone, hlong, ModalEditor.copies_natCast]
  by_cases hsize : n < sizeLimit
  · simp [hsize, Nat.not_le.2 hsize]
  · simp [hsize, Nat.not_lt.1 hsize]

theorem copyLines_natCast (n : Nat) (t : Text) :
    copyLines n t =
      if sizeLimit ≤ n then .error .countTooLarge
      else if sizeLimit < n * (t.length + 1) then .error .textTooLong
      else .ok (unlines (List.replicate n t)) := by
  have hlong : (sizeLimit : Int) < n * (t.length + 1) ↔ sizeLimit < n * (t.length + 1) := by
    rw [← Int.natCast_succ, ← Int.natCast_mul, Int.ofNat_lt]
  simp only [copyLines, isSize_natCast, hlong, ModalEditor.copies_natCast, List.flatten_replicate_singleton]
  by_cases hsize : n < sizeLimit
  · simp [hsize, Nat.not_le.2 hsize, Functor.map, Except.map]
  · simp [hsize, Nat.not_lt.1 hsize, Functor.map, Except.map]

@[simp] theorem copies_one (t : Text) : copies 1 t = .ok t := by
  rw [copies, if_neg (by simp), ModalEditor.copies_one]

theorem eq_of_copies {count : Int} {t u : Text} (h : copies count t = .ok u) :
    u = (List.replicate count.toNat t).flatten := by
  unfold copies at h
  split at h
  · cases h
  · exact ModalEditor.eq_of_copies h

theorem eq_of_copyLines {count : Int} {t u : Text} (h : copyLines count t = .ok u) :
    u = unlines (List.replicate count.toNat t) := by
  unfold copyLines at h
  split at h
  · cases h
  · obtain ⟨rows, hrows, rfl⟩ := map_eq_ok_iff.1 h
    rw [ModalEditor.eq_of_copies hrows, List.flatten_replicate_singleton]

end Text
end ModalEditor
