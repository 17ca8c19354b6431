import Mathlib.Data.List.Induction
/-!
# Histories

What is noted on the way of a run, event by event. A part of the state that each event overwrites with what is
noted of it, or leaves alone, holds the last of all that was noted.
-/
namespace ModalEditor

variable {σ ε α β : Type} {step : σ → ε → σ} {note : σ → ε → Option α}

def noted (step : σ → ε → σ) (note : σ → ε → Option α) (s : σ) : List ε → List α
  | [] => []
  | event :: rest => (note s event).toList ++ noted step note (step s event) rest

theorem noted_concat (s : σ) (earlier : List ε) (event : ε) :
    noted step note s (earlier ++ [event]) =
      noted step note s earlier ++ (note (earlier.foldl step s) event).toList := by
  induction earlier generalizing s with
  | nil => exact List.append_nil _
  | cons first rest ih => rw [List.cons_append, noted, ih, noted, List.append_assoc, List.foldl_cons]

theorem noted_of_mem {s : σ} {events : List ε} {a : α} (h : a ∈ noted step note s events) :
    ∃ before event, a ∈ note before event := by
  induction events generalizing s with
  | nil => cases h
  | cons event rest ih =>
    rcases List.mem_append.1 h with h | h
    · exact ⟨s, event, Option.mem_toList.1 h⟩
    · exact ih h

theorem last_noted (kept : σ → Option β) (meant : α → Option β)
    (hstep : ∀ s event, kept (step s event) = ((note s event).bind meant).or (kept s))
    (s : σ) (events : List ε) :
    kept (events.foldl step s) =
      ((noted step note s events).filterMap meant).getLast?.or (kept s) := by
  induction events using List.reverseRecOn with
  | nil => rfl
  | append_singleton earlier event ih =>
    rw [List.foldl_append, List.foldl_cons, List.foldl_nil, hstep, ih, noted_concat, List.filterMap_append]
    cases hnote : note (earlier.foldl step s) event with
    | none => simp
    | some a => cases hmeant : meant a <;> simp [hmeant]

end ModalEditor
