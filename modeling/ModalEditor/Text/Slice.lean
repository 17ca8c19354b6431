/-!
# Signed slices

Places in a list named by integers. A negative place counts from the end; a slice clamps both of its
places to the list, while a single entry must exist.
-/
namespace ModalEditor.Slice

variable {α : Type}

/-- The cut that a signed place names in a list of a given length. -/
def cut (length : Nat) (place : Int) : Nat :=
  if place < 0 then (length + place).toNat else min place.toNat length

def before (xs : List α) (place : Int) : List α := xs.take (cut xs.length place)

def after (xs : List α) (place : Int) : List α := xs.drop (cut xs.length place)

/-- The entries from `start` up to but not including `stop`. -/
def between (xs : List α) (start stop : Int) : List α :=
  (xs.take (cut xs.length stop)).drop (cut xs.length start)

/-- Puts `ys` in place of the entries between two places; an inverted pair only inserts at `start`. -/
def replace (xs : List α) (start stop : Int) (ys : List α) : List α :=
  let first := cut xs.length start
  xs.take first ++ ys ++ xs.drop (max first (cut xs.length stop))

def index? (length : Nat) (place : Int) : Option Nat :=
  let i := if place < 0 then length + place else place
  if 0 ≤ i ∧ i < length then some i.toNat else none

def entry? (xs : List α) (place : Int) : Option α := (index? xs.length place).bind (xs[·]?)

def put (xs : List α) (place : Int) (x : α) : List α :=
  match index? xs.length place with
  | some i => xs.set i x
  | none => xs

@[simp] theorem cut_natCast (length n : Nat) : cut length (n : Int) = min n length := by
  unfold cut
  split <;> omega

@[simp] theorem entry?_natCast (xs : List α) (n : Nat) : entry? xs (n : Int) = xs[n]? := by
  unfold entry? index?
  have hn : ¬(n : Int) < 0 := by omega
  by_cases h : n < xs.length
  · have hb : (0 : Int) ≤ n ∧ (n : Int) < xs.length := by omega
    simp [hn, hb]
  · have hb : ¬((0 : Int) ≤ n ∧ (n : Int) < xs.length) := by omega
    simp only [hn, if_false, hb, Option.bind_none]
    exact (List.getElem?_eq_none (by omega)).symm

theorem between_natCast (xs : List α) (start stop : Nat) :
    between xs (start : Int) (stop : Int) = (xs.take stop).drop start := by
  have ht : xs.take (min stop xs.length) = xs.take stop := by
    rcases Nat.le_total stop xs.length with h | h
    · rw [Nat.min_eq_left h]
    · rw [Nat.min_eq_right h, List.take_length, List.take_of_length_le h]
  simp only [between, cut_natCast, ht]
  rcases Nat.le_total start xs.length with h | h
  · rw [Nat.min_eq_left h]
  · rw [Nat.min_eq_right h, List.drop_eq_nil_of_le (List.length_take_le' ..),
      List.drop_eq_nil_of_le (Nat.le_trans (List.length_take_le' ..) h)]

theorem before_natCast (xs : List α) (n : Nat) : before xs (n : Int) = xs.take n := by
  rw [before, cut_natCast]
  exact List.take_eq_take_min.symm

theorem after_natCast (xs : List α) (n : Nat) : after xs (n : Int) = xs.drop n := by
  rw [after, cut_natCast]
  exact List.drop_eq_drop_min.symm

theorem mem_of_mem_before {xs : List α} {place : Int} {x : α} (h : x ∈ before xs place) : x ∈ xs :=
  List.mem_of_mem_take h

theorem mem_of_mem_after {xs : List α} {place : Int} {x : α} (h : x ∈ after xs place) : x ∈ xs :=
  List.mem_of_mem_drop h

theorem replace_natCast (xs : List α) {start stop : Nat} (ys : List α) (hs : start ≤ stop)
    (hl : start ≤ xs.length) :
    replace xs (start : Int) (stop : Int) ys = xs.take start ++ ys ++ xs.drop stop := by
  have hm : max start (min stop xs.length) = min stop xs.length := by omega
  simp only [replace, cut_natCast, Nat.min_eq_left hl, hm]
  rw [← List.drop_eq_drop_min]

theorem put_natCast (xs : List α) {n : Nat} (h : n < xs.length) (x : α) :
    put xs (n : Int) x = xs.set n x := by
  have hi : index? xs.length (n : Int) = some n := by
    have hn : ¬(n : Int) < 0 := by omega
    have hb : (0 : Int) ≤ n ∧ (n : Int) < xs.length := by omega
    simp [index?, hn, hb]
  simp only [put, hi]

end ModalEditor.Slice
