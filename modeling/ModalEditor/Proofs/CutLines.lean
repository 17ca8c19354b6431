import Mathlib.Data.Nat.Find
import ModalEditor.Proofs.Repetition
/-!
# Words of a line that was cut

The words behind a cut are the words that were there, moved to the left, and so are those before the cut if a
word began there. So a motion to words finds the same goals as before, and a line that is cut up to the last of
several words is what is left after as many cuts up to the next word.
-/
namespace ModalEditor

/-! ### Where words begin -/

/-- A word begins on a solid column that no other solid column stands right before. -/
def Starts (solid : Char → Bool) (line : Text) (j : Nat) : Prop :=
  solidAt solid line j = true ∧ ∀ i, i + 1 = j → solidAt solid line i = false

section

variable {solid : Char → Bool} {line line' : Text} {run : Run} {column goal i j : Nat}

theorem exists_longest_iff : (∃ run : Run, run.Longest solid line ∧ run.start = j) ↔ Starts solid line j := by
  constructor
  · rintro ⟨run, h, rfl⟩
    exact ⟨h.full run.start (Nat.le_refl _) h.nonempty, h.left⟩
  · rintro ⟨hsolid, hleft⟩
    have hend : ∃ k, j ≤ k ∧ solidAt solid line k = false := by
      refine ⟨line.length, Nat.le_of_lt (lt_length_of_solidAt hsolid), ?_⟩
      rw [solidAt, List.getElem?_eq_none (Nat.le_refl _)]
      rfl
    -- the word goes up to the first column from there that is not solid
    obtain ⟨hle, hgap⟩ := Nat.find_spec hend
    have hnonempty : j < Nat.find hend := by
      refine Nat.lt_of_le_of_ne hle fun hsame => ?_
      rw [← hsame, hsolid] at hgap
      cases hgap
    refine ⟨⟨j, Nat.find hend⟩, ⟨hnonempty, fun i hlow hhigh => ?_, hleft, hgap⟩, rfl⟩
    exact Bool.of_not_eq_false fun h => Nat.find_min hend hhigh ⟨hlow, h⟩

theorem starts_succ_iff :
    Starts solid line (j + 1) ↔ solidAt solid line (j + 1) = true ∧ solidAt solid line j = false := by
  refine and_congr_right fun _ => ⟨fun h => h j rfl, fun h i hi => ?_⟩
  rwa [Nat.succ.inj hi]

private theorem solidAt_cut (hcolumn : column ≤ line.length) :
    solidAt solid (line.take column ++ line.drop goal) i =
      if i < column then solidAt solid line i else solidAt solid line (i - column + goal) := by
  unfold solidAt
  rw [List.getElem?_append, List.length_take, Nat.min_eq_left hcolumn]
  split
  · next hi => rw [List.getElem?_take_of_lt hi]
  · next hi => rw [List.getElem?_drop, Nat.add_comm]

private theorem starts_cut_iff (hcolumn : column ≤ line.length) (hj : column < j) :
    Starts solid (line.take column ++ line.drop goal) j ↔ Starts solid line (j - column + goal) := by
  obtain ⟨k, rfl⟩ : ∃ k, j = k + 1 := ⟨j - 1, by omega⟩
  have hnext : k + 1 - column + goal = k - column + goal + 1 := by omega
  rw [hnext, starts_succ_iff, starts_succ_iff, solidAt_cut hcolumn, solidAt_cut hcolumn, if_neg (by omega),
    if_neg (by omega), hnext]

private theorem Run.Longest.of_same (h : run.Longest solid line) (hstop : run.stop ≤ goal)
    (hgap : ∀ i, i + 1 = goal → solidAt solid line i = false)
    (hsame : ∀ i, i < goal → solidAt solid line i = solidAt solid line' i) : run.Longest solid line' := by
  have hnonempty := h.nonempty
  have hbefore : run.stop < goal := by
    refine Nat.lt_of_le_of_ne hstop fun heq => ?_
    have hlast := h.last_solid
    rw [hgap (run.stop - 1) (by omega)] at hlast
    cases hlast
  refine ⟨hnonempty, fun i hlow hhigh => ?_, fun i hi => ?_, ?_⟩
  · rw [← hsame i (by omega)]
    exact h.full i hlow hhigh
  · rw [← hsame i (by omega)]
    exact h.left i hi
  · rw [← hsame run.stop hbefore]
    exact h.right

end

namespace Motion

/-- The motions to the starts of words. -/
def wordwise : Motion → Bool
  | .wordStart _ | .wordBack _ => true
  | _ => false

section

variable {big : Bool} {line : Text} {column goal : Nat} {i c : Int}

theorem mem_goals_wordStart :
    i ∈ (wordStart big).goals line c ↔ c < i ∧ ∃ j : Nat, Starts (isSolid big) line j ∧ (j : Int) = i := by
  simp only [goals, List.mem_filter, List.mem_map, mem_wordRuns_iff, decide_eq_true_eq]
  rw [and_comm]
  refine and_congr_right fun _ => ?_
  constructor
  · rintro ⟨run, hrun, rfl⟩
    exact ⟨run.start, exists_longest_iff.1 ⟨run, hrun, rfl⟩, rfl⟩
  · rintro ⟨j, hj, rfl⟩
    obtain ⟨run, hrun, rfl⟩ := exists_longest_iff.2 hj
    exact ⟨run, hrun, rfl⟩

theorem mem_goals_wordBack :
    i ∈ (wordBack big).goals line c ↔
      ∃ run : Run, run.Longest (isSolid big) line ∧ (run.stop : Int) ≤ c ∧ (run.start : Int) = i := by
  simp only [goals, List.mem_map, List.mem_filter, List.mem_reverse, mem_wordRuns_iff, decide_eq_true_eq,
    and_assoc]

theorem goals_wordBack_pairwise (big : Bool) (line : Text) (c : Int) :
    ((wordBack big).goals line c).Pairwise (· > ·) := by
  refine List.pairwise_map.2 (((List.pairwise_reverse.2 (wordRuns_pairwise line big)).filter _).imp_of_mem ?_)
  intro near far _ hfar hgap
  have hnonempty := (mem_wordRuns_iff.1 (List.mem_reverse.1 (List.mem_filter.1 hfar).1)).nonempty
  omega

private theorem goals_wordStart_cut (hcolumn : column ≤ goal) (hgoal : goal ≤ line.length) :
    (wordStart big).goals (line.take column ++ line.drop goal) column =
      ((wordStart big).goals line goal).map fun i => i - ((goal : Int) - column) := by
  apply List.Pairwise.eq_of_mem_iff (r := (· < ·))
  · exact (wordStarts_pairwise _ _).filter _
  · exact List.pairwise_map.2 (((wordStarts_pairwise _ _).filter _).imp fun h => by omega)
  · intro i
    simp only [List.mem_map, mem_goals_wordStart]
    constructor
    · rintro ⟨hright, j, hj, rfl⟩
      rw [starts_cut_iff (Nat.le_trans hcolumn hgoal) (by omega)] at hj
      exact ⟨_, ⟨by omega, _, hj, rfl⟩, by omega⟩
    · rintro ⟨_, ⟨hright, j, hj, rfl⟩, rfl⟩
      refine ⟨by omega, j - goal + column, ?_, by omega⟩
      rw [starts_cut_iff (Nat.le_trans hcolumn hgoal) (by omega)]
      have hsame : j - goal + column - column + goal = j := by omega
      rwa [hsame]

private theorem goals_wordBack_cut (hstart : Starts (isSolid big) line goal) :
    (wordBack big).goals (line.take goal ++ line.drop column) goal = (wordBack big).goals line goal := by
  have hgoal : goal ≤ line.length := Nat.le_of_lt (lt_length_of_solidAt hstart.1)
  have hsame (i : Nat) (hi : i < goal) :
      solidAt (isSolid big) (line.take goal ++ line.drop column) i = solidAt (isSolid big) line i := by
    rw [solidAt_cut hgoal, if_pos hi]
  apply List.Pairwise.eq_of_mem_iff (goals_wordBack_pairwise _ _ _) (goals_wordBack_pairwise _ _ _)
  intro i
  simp only [mem_goals_wordBack, Int.ofNat_le]
  refine exists_congr fun run => ⟨?_, ?_⟩
  · rintro ⟨hrun, hstop, hi⟩
    refine ⟨hrun.of_same hstop (fun k hk => ?_) hsame, hstop, hi⟩
    rw [hsame k (by omega)]
    exact hstart.2 k hk
  · rintro ⟨hrun, hstop, hi⟩
    exact ⟨hrun.of_same hstop hstart.2 fun k hk => (hsame k hk).symm, hstop, hi⟩

end

/-! ### One cut for several -/

section

variable {motion : Motion} {line : Text} {column n : Nat} {goal : Int} {rest : List Int}

private theorem wordwise_cases (hword : motion.wordwise = true) :
    ∃ big, motion = .wordStart big ∨ motion = .wordBack big := by
  cases motion with
  | wordStart big => exact ⟨big, .inl rfl⟩
  | wordBack big => exact ⟨big, .inr rfl⟩
  | search s => cases hword
  | wordEnd big => cases hword
  | lineStart => cases hword
  | firstNonBlank => cases hword
  | lineEnd => cases hword

theorem jumps_of_wordwise (hword : motion.wordwise = true) : motion.jumps = true := by
  obtain ⟨big, rfl | rfl⟩ := wordwise_cases hword <;> rfl

theorem exclusive_of_wordwise (hword : motion.wordwise = true) : motion.exclusive = true := by
  obtain ⟨big, rfl | rfl⟩ := wordwise_cases hword <;> rfl

theorem exists_of_mem_goals (hword : motion.wordwise = true) (h : goal ∈ motion.goals line column) :
    ∃ g : Nat, goal = g ∧ g ≤ line.length := by
  obtain ⟨big, rfl | rfl⟩ := wordwise_cases hword
  · obtain ⟨-, j, hj, rfl⟩ := mem_goals_wordStart.1 h
    exact ⟨j, rfl, Nat.le_of_lt (lt_length_of_solidAt hj.1)⟩
  · obtain ⟨run, hrun, -, rfl⟩ := mem_goals_wordBack.1 h
    exact ⟨run.start, rfl, Nat.le_trans (Nat.le_of_lt hrun.nonempty) hrun.stop_le⟩

private theorem goals_beyond (hword : motion.wordwise = true) (h : motion.goals line column = goal :: rest) :
    (column < goal ∧ ∀ next ∈ rest, goal < next) ∨ (goal < column ∧ ∀ next ∈ rest, next < goal) := by
  have hmem : goal ∈ motion.goals line column := h ▸ List.mem_cons_self
  obtain ⟨big, rfl | rfl⟩ := wordwise_cases hword
  · have hup : ((wordStart big).goals line column).Pairwise (· < ·) := (wordStarts_pairwise line big).filter _
    rw [h] at hup
    exact .inl ⟨(mem_goals_wordStart.1 hmem).1, fun next => List.rel_of_pairwise_cons hup⟩
  · have hdown := goals_wordBack_pairwise big line column
    rw [h] at hdown
    obtain ⟨run, hrun, hstop, rfl⟩ := mem_goals_wordBack.1 hmem
    have hnonempty := hrun.nonempty
    exact .inr ⟨by omega, fun next => List.rel_of_pairwise_cons hdown⟩

end

end Motion

/-- A line without what lies between two of its columns, and the column where it was cut. -/
def cutBetween (line : Text) (column goal : Nat) : Text × Nat :=
  (line.take (min column goal) ++ line.drop (max column goal), min column goal)

section

variable {line : Text} {column goal next : Nat}

private theorem cutBetween_right (h : column ≤ goal) :
    cutBetween line column goal = (line.take column ++ line.drop goal, column) := by
  rw [cutBetween, Nat.min_eq_left h, Nat.max_eq_right h]

private theorem cutBetween_left (h : goal ≤ column) :
    cutBetween line column goal = (line.take goal ++ line.drop column, goal) := by
  rw [cutBetween, Nat.min_eq_right h, Nat.max_eq_left h]

private theorem cutBetween_cutBetween (hcolumn : column ≤ line.length)
    (h : (column < goal ∧ goal < next) ∨ (goal < column ∧ next < goal)) :
    cutBetween (cutBetween line column goal).1 (min column goal) (next - (max column goal - column)) =
      cutBetween line column next := by
  rcases h with ⟨hgoal, hnext⟩ | ⟨hgoal, hnext⟩
  · have hlength : (line.take column).length = column := List.length_take_of_le hcolumn
    have hmoved : column ≤ next - (goal - column) := by omega
    have hbehind : goal + (next - (goal - column) - column) = next := by omega
    rw [Nat.min_eq_left (Nat.le_of_lt hgoal), Nat.max_eq_right (Nat.le_of_lt hgoal), cutBetween_right hmoved,
      cutBetween_right (Nat.le_of_lt hgoal), cutBetween_right (Nat.le_of_lt (Nat.lt_trans hgoal hnext)),
      List.take_left' hlength, List.drop_append, hlength, List.drop_eq_nil_of_le (by omega), List.nil_append,
      List.drop_drop, hbehind]
  · have hlength : (line.take goal).length = goal := List.length_take_of_le (by omega)
    rw [Nat.min_eq_right (Nat.le_of_lt hgoal), Nat.max_eq_left (Nat.le_of_lt hgoal), Nat.sub_self, Nat.sub_zero,
      cutBetween_left (Nat.le_of_lt hnext), cutBetween_left (Nat.le_of_lt hgoal),
      cutBetween_left (Nat.le_of_lt (Nat.lt_trans hnext hgoal)), List.drop_left' hlength,
      List.take_append_of_le_length (by omega), List.take_take, Nat.min_eq_left (Nat.le_of_lt hnext)]

end

namespace Motion

/-- What a number of deletes up to words leave of the cursor's line, and where they leave the cursor. -/
def cutTimes (motion : Motion) (line : Text) (column n : Nat) : Text × Nat :=
  match motion.landing line column n with
  | none => (line, column)
  | some goal => cutBetween line column goal.toNat

section

variable {motion : Motion} {line : Text} {column n : Nat} {goal : Nat} {rest : List Int}

private theorem goals_cutBetween (hword : motion.wordwise = true)
    (h : motion.goals line column = (goal : Int) :: rest) :
    motion.goals (cutBetween line column goal).1 (min column goal : Nat) =
      rest.map fun next => next - ((max column goal : Nat) - (column : Int)) := by
  have hrest := goals_of_jumps (jumps_of_wordwise hword) h
  obtain ⟨g, hg, hgoal⟩ := exists_of_mem_goals hword (h ▸ List.mem_cons_self)
  obtain rfl := Int.ofNat.inj hg
  have hmem : (goal : Int) ∈ motion.goals line column := h ▸ List.mem_cons_self
  obtain ⟨big, rfl | rfl⟩ := wordwise_cases hword
  · have hright : column < goal := Int.ofNat_lt.1 (mem_goals_wordStart.1 hmem).1
    rw [cutBetween_right (Nat.le_of_lt hright), Nat.min_eq_left (Nat.le_of_lt hright),
      Nat.max_eq_right (Nat.le_of_lt hright), goals_wordStart_cut (Nat.le_of_lt hright) hgoal, hrest]
  · obtain ⟨run, hrun, hstop, hstart⟩ := mem_goals_wordBack.1 hmem
    obtain rfl := Int.ofNat.inj hstart
    have hnonempty := hrun.nonempty
    have hleft : run.start ≤ column := by omega
    rw [cutBetween_left hleft, Nat.min_eq_right hleft, Nat.max_eq_left hleft,
      goals_wordBack_cut (exists_longest_iff.1 ⟨run, hrun, rfl⟩), hrest]
    simp

/-- How a motion that is repeated once more goes on behind a delete up to its first goal: there is no goal, or
no other one, or it comes to the goal that it would have come to anyway. -/
inductive GoesOn (motion : Motion) (line : Text) (column n : Nat) : Prop
  | nowhere (h : ∀ m, motion.landing line column m = none) : GoesOn motion line column n
  | last {g : Nat} (hfirst : motion.landing line column 1 = some (g : Int))
    (hnth : motion.landing line column (n + 1) = some (g : Int))
    (hnext : motion.landing (cutBetween line column g).1 (cutBetween line column g).2 n = none) :
    GoesOn motion line column n
  | further {g k : Nat} (hfirst : motion.landing line column 1 = some (g : Int))
    (hbeyond : (column < g ∧ g < k) ∨ (g < column ∧ k < g))
    (hnth : motion.landing line column (n + 1) = some (k : Int))
    (hnext : motion.landing (cutBetween line column g).1 (cutBetween line column g).2 n =
      some ((k - (max column g - column) : Nat) : Int)) :
    GoesOn motion line column n

theorem goesOn (hword : motion.wordwise = true) (line : Text) (column n : Nat) :
    GoesOn motion line column n := by
  have hlanding := @landing_of_jumps motion (jumps_of_wordwise hword)
  cases hgoals : motion.goals line column with
  | nil => exact .nowhere fun m => by rw [hlanding, hgoals, List.take_nil, List.getLast?_nil]
  | cons goal rest =>
    obtain ⟨g, rfl, -⟩ := exists_of_mem_goals hword (hgoals ▸ List.mem_cons_self)
    have hfirst : motion.landing line column 1 = some (g : Int) := by
      rw [landing_one, hgoals, List.head?_cons]
    have hnth : motion.landing line column (n + 1) = some ((rest.take n).getLast?.getD g) := by
      rw [hlanding, hgoals, List.take_succ_cons, List.getLast?_cons]
    -- behind the cut the motion is after the same goals, as far as they have moved
    have hnext : motion.landing (cutBetween line column g).1 (cutBetween line column g).2 n =
        (rest.take n).getLast?.map fun next => next - ((max column g : Nat) - (column : Int)) := by
      rw [hlanding, ← List.getLast?_map, List.map_take, ← goals_cutBetween hword hgoals]
      rfl
    cases hlast : (rest.take n).getLast? with
    | none =>
      rw [hlast] at hnth hnext
      exact .last hfirst hnth hnext
    | some next =>
      have hmem : next ∈ rest := List.mem_of_mem_take (List.mem_of_getLast? hlast)
      obtain ⟨k, rfl, -⟩ := exists_of_mem_goals hword (hgoals ▸ List.mem_cons_of_mem (g : Int) hmem)
      have hbeyond : (column < g ∧ g < k) ∨ (g < column ∧ k < g) := by
        rcases goals_beyond hword hgoals with ⟨hright, hfar⟩ | ⟨hleft, hfar⟩
        · exact .inl ⟨Int.ofNat_lt.1 hright, Int.ofNat_lt.1 (hfar k hmem)⟩
        · exact .inr ⟨Int.ofNat_lt.1 hleft, Int.ofNat_lt.1 (hfar k hmem)⟩
      have hmoved :
          (k : Int) - ((max column g : Nat) - (column : Int)) = (k - (max column g - column) : Nat) := by
        omega
      rw [hlast] at hnth hnext
      rw [Option.map_some, hmoved] at hnext
      exact .further hfirst hbeyond hnth hnext

theorem cutTimes_of_none (h : motion.landing line column n = none) :
    motion.cutTimes line column n = (line, column) := by
  rw [cutTimes, h]

theorem cutTimes_of_some (h : motion.landing line column n = some (goal : Int)) :
    motion.cutTimes line column n = cutBetween line column goal := by
  rw [cutTimes, h]
  rfl

/-- Several deletes up to a word are one such delete and the others behind it. -/
theorem cutTimes_succ (hword : motion.wordwise = true) (hcolumn : column ≤ line.length) (n : Nat) :
    motion.cutTimes line column (n + 1) =
      motion.cutTimes (motion.cutTimes line column 1).1 (motion.cutTimes line column 1).2 n := by
  cases goesOn hword line column n with
  | nowhere h => rw [cutTimes_of_none (h (n + 1)), cutTimes_of_none (h 1), cutTimes_of_none (h n)]
  | last hfirst hnth hnext => rw [cutTimes_of_some hfirst, cutTimes_of_some hnth, cutTimes_of_none hnext]
  | further hfirst hbeyond hnth hnext =>
    rw [cutTimes_of_some hfirst, cutTimes_of_some hnth, cutTimes_of_some hnext]
    exact (cutBetween_cutBetween hcolumn hbeyond).symm

theorem cutTimes_le (hcolumn : column ≤ line.length) :
    (motion.cutTimes line column n).2 ≤ (motion.cutTimes line column n).1.length := by
  unfold cutTimes
  split
  · exact hcolumn
  · next goal _ =>
    simp only [cutBetween, List.length_append, List.length_take]
    omega

end

end Motion
end ModalEditor
