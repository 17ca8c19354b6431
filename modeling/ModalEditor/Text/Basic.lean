/-!
# Text

A text is a list of characters, and a buffer is a list of line texts. Cutting a text at its line
breaks and joining lines with breaks are inverse to one another on lines without breaks.
-/
namespace ModalEditor

/-- A piece of text, one entry per code point. -/
abbrev Text := List Char

namespace Text

instance decidableMem (t : Text) (ts : List Text) : Decidable (t ∈ ts) := inferInstance

/-- Cuts a text at every line break, so there is always at least one line. -/
def lines : Text → List Text
  | [] => [[]]
  | c :: rest =>
    if c = '\n' then [] :: lines rest
    else match lines rest with
      | [] => [[c]]
      | first :: others => (c :: first) :: others

def unlines (ls : List Text) : Text := List.intercalate ['\n'] ls

/-- Turns each written `\n` (a backslash and an `n`) into a line break. -/
def breakEscapes : Text → Text
  | '\\' :: 'n' :: rest => '\n' :: breakEscapes rest
  | c :: rest => c :: breakEscapes rest
  | [] => []

@[simp] theorem lines_ne_nil (t : Text) : lines t ≠ [] := by
  cases t with
  | nil => simp [lines]
  | cons c rest =>
    by_cases h : c = '\n'
    · simp [lines, h]
    · simp only [lines, h, if_false]
      split <;> simp

theorem unlines_lines (t : Text) : unlines (lines t) = t := by
  induction t with
  | nil => rfl
  | cons c rest ih =>
    have hne := lines_ne_nil rest
    by_cases h : c = '\n'
    · subst h
      cases hl : lines rest with
      | nil => exact absurd hl hne
      | cons first others =>
        rw [hl] at ih
        simp only [lines, if_true, hl]
        rw [← ih]
        rfl
    · simp only [lines, h, if_false]
      cases hl : lines rest with
      | nil => exact absurd hl hne
      | cons first others =>
        rw [hl] at ih
        rw [← ih]
        cases others <;> rfl

theorem lines_of_no_break {t : Text} (h : '\n' ∉ t) : lines t = [t] := by
  induction t with
  | nil => rfl
  | cons c rest ih =>
    have hc : c ≠ '\n' := fun e => h (by simp [e])
    have hr : '\n' ∉ rest := fun e => h (List.mem_cons_of_mem c e)
    simp [lines, hc, ih hr]

theorem lines_append_break {t : Text} (h : '\n' ∉ t) (rest : Text) :
    lines (t ++ '\n' :: rest) = t :: lines rest := by
  induction t with
  | nil => simp [lines]
  | cons c t ih =>
    have hc : c ≠ '\n' := fun e => h (by simp [e])
    have ht : '\n' ∉ t := fun e => h (List.mem_cons_of_mem c e)
    simp [lines, hc, ih ht]

theorem lines_append_of_no_break {t : Text} (h : '\n' ∉ t) (rest : Text) :
    ∃ first others, lines rest = first :: others ∧ lines (t ++ rest) = (t ++ first) :: others := by
  induction t with
  | nil =>
    cases hl : lines rest with
    | nil => exact absurd hl (lines_ne_nil rest)
    | cons first others => exact ⟨first, others, rfl, hl⟩
  | cons c t ih =>
    have hc : c ≠ '\n' := fun e => h (by simp [e])
    obtain ⟨first, others, hrest, hl⟩ := ih fun e => h (List.mem_cons_of_mem c e)
    exact ⟨first, others, hrest, by simp [lines, hc, hl]⟩

theorem lines_unlines {ls : List Text} (hne : ls ≠ []) (h : ∀ l ∈ ls, '\n' ∉ l) :
    lines (unlines ls) = ls := by
  induction ls with
  | nil => exact absurd rfl hne
  | cons first others ih =>
    have hf : '\n' ∉ first := h first (List.mem_cons_self ..)
    cases others with
    | nil => simpa [unlines, List.intercalate] using lines_of_no_break hf
    | cons second more =>
      have hrest : unlines (first :: second :: more) = first ++ '\n' :: unlines (second :: more) := rfl
      rw [hrest, lines_append_break hf, ih (by simp) fun l hl => h l (List.mem_cons_of_mem _ hl)]

@[simp] theorem unlines_singleton (t : Text) : unlines [t] = t := List.intercalate_singleton

theorem unlines_cons {ls : List Text} (first : Text) (h : ls ≠ []) :
    unlines (first :: ls) = first ++ '\n' :: unlines ls := by
  rw [unlines, List.intercalate_cons_of_ne_nil h, List.append_assoc]
  rfl

theorem intercalate_append {sep : Text} {front back : List Text} (hfront : front ≠ []) (hback : back ≠ []) :
    List.intercalate sep (front ++ back) =
      List.intercalate sep front ++ sep ++ List.intercalate sep back := by
  induction front with
  | nil => exact absurd rfl hfront
  | cons t rest ih =>
    cases rest with
    | nil => rw [List.singleton_append, List.intercalate_cons_of_ne_nil hback, List.intercalate_singleton]
    | cons u more =>
      have hrest : u :: more ++ back ≠ [] := List.cons_ne_nil u _
      rw [List.cons_append, List.intercalate_cons_of_ne_nil hrest, ih (List.cons_ne_nil u more),
        List.intercalate_cons_cons]
      simp only [List.append_assoc]

theorem unlines_append_unlines (earlier : List Text) (last first : Text) (later : List Text) :
    unlines (earlier ++ [last]) ++ unlines (first :: later) =
      unlines (earlier ++ (last ++ first) :: later) := by
  induction earlier with
  | nil =>
    cases later with
    | nil => simp only [List.nil_append, unlines_singleton]
    | cons second more =>
      have hne : second :: more ≠ [] := List.cons_ne_nil second more
      simp only [List.nil_append, unlines_singleton, unlines_cons _ hne, List.append_assoc]
  | cons line earlier ih =>
    have hlast : earlier ++ [last] ≠ [] := List.append_ne_nil_of_right_ne_nil _ (by simp)
    have hseam : earlier ++ (last ++ first) :: later ≠ [] :=
      List.append_ne_nil_of_right_ne_nil _ (by simp)
    rw [List.cons_append, List.cons_append, unlines_cons _ hlast, unlines_cons _ hseam,
      List.append_assoc, List.cons_append, ih]

theorem not_mem_of_mem_lines {t l : Text} (h : l ∈ lines t) : '\n' ∉ l := by
  induction t generalizing l with
  | nil =>
    rw [lines, List.mem_singleton] at h
    simp [h]
  | cons c rest ih =>
    by_cases hc : c = '\n'
    · simp only [lines, hc, if_true, List.mem_cons] at h
      rcases h with rfl | h
      · simp
      · exact ih h
    · cases hl : lines rest with
      | nil => exact absurd hl (lines_ne_nil rest)
      | cons first others =>
        rw [hl] at ih
        simp only [lines, hc, if_false, hl, List.mem_cons] at h
        rcases h with rfl | h
        · have := ih (List.mem_cons_self ..)
          simp [this, Ne.symm hc]
        · exact ih (List.mem_cons_of_mem _ h)

end Text
end ModalEditor
