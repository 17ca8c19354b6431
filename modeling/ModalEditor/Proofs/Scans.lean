/-!
# Scans of a list

A scan goes over a list from front to back. What it has come to is the rest behind some entries, what it has passed
is the stretch before, and of the entries that it looks for it finds the first.
-/
namespace ModalEditor

variable {α : Type} {xs rest : List α} {m n : Nat} {a b : α}

theorem of_drop_eq_cons (h : xs.drop n = a :: rest) : xs[n]? = some a ∧ xs.drop (n + 1) = rest := by
  constructor
  · rw [← List.head?_drop, h, List.head?_cons]
  · rw [← List.tail_drop, h, List.tail_cons]

theorem drop_take_succ (hle : m ≤ n) (h : xs[n]? = some a) :
    (xs.take (n + 1)).drop m = (xs.take n).drop m ++ [a] := by
  have hlength : n < xs.length := (List.getElem?_eq_some_iff.1 h).1
  rw [List.take_add_one, h, Option.toList_some, List.drop_append_of_le_length]
  rwa [List.length_take_of_le (Nat.le_of_lt hlength)]

theorem drop_take_ends (hlt : m < n) (hfirst : xs[m]? = some a) (hlast : xs[n]? = some b) :
    (xs.take (n + 1)).drop m = a :: (xs.take n).drop (m + 1) ++ [b] := by
  rw [drop_take_succ (Nat.le_of_lt hlt) hlast, List.drop_eq_getElem?_toList_append,
    List.getElem?_take_of_lt hlt, hfirst]
  rfl

theorem find?_eq_some_iff_mem {p : α → Bool} (hone : ∀ x ∈ xs, ∀ y ∈ xs, p x = true → p y = true → x = y) :
    xs.find? p = some a ↔ a ∈ xs ∧ p a = true := by
  constructor
  · intro h
    exact ⟨List.mem_of_find?_eq_some h, List.find?_some h⟩
  · rintro ⟨hmem, ha⟩
    obtain ⟨b, hb⟩ := Option.isSome_iff_exists.1 (List.find?_isSome.2 ⟨a, hmem, ha⟩)
    rw [hb, hone b (List.mem_of_find?_eq_some hb) a hmem (List.find?_some hb) ha]

theorem head?_eq_some_iff_first {R : α → α → Prop} [Std.Asymm R] (hxs : xs.Pairwise R) :
    xs.head? = some a ↔ a ∈ xs ∧ ∀ b ∈ xs, ¬R b a := by
  cases xs with
  | nil => simp
  | cons c rest =>
    rw [List.head?_cons, Option.some_inj]
    constructor
    · rintro rfl
      refine ⟨List.mem_cons_self, fun b hb => ?_⟩
      rcases List.mem_cons.1 hb with rfl | hb
      · exact fun hself => Std.Asymm.asymm _ _ hself hself
      · exact Std.Asymm.asymm _ _ (List.rel_of_pairwise_cons hxs hb)
    · rintro ⟨ha, hfirst⟩
      rcases List.mem_cons.1 ha with rfl | ha
      · rfl
      · exact absurd (List.rel_of_pairwise_cons hxs ha) (hfirst c List.mem_cons_self)

end ModalEditor
