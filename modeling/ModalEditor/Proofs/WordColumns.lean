import Mathlib.Order.Bounds.Basic
import ModalEditor.Proofs.CutLines
/-!
# Words by their columns

What the word motions and the inner word objects find can be told column by column: a word begins on a solid column
behind one that is not, ends on one before one that is not, and each solid column lies in one word. The motions
reach the nearest such column from any place, also from behind the end of the line.
-/
namespace ModalEditor

/-- A word ends on a solid column that is the last one of the line or that no other solid column follows. -/
def Ends (solid : Char → Bool) (line : Text) (j : Nat) : Prop :=
  solidAt solid line j = true ∧ (j + 1 = line.length ∨ solidAt solid line (j + 1) = false)

section

variable {solid : Char → Bool} {line : Text} {run other : Run} {i j : Nat}

private theorem Run.Longest.stop_le_stop (h : run.Longest solid line) (h' : other.Longest solid line)
    (hrun : i < run.stop) (hother : other.start ≤ i) : other.stop ≤ run.stop := by
  refine Nat.le_of_not_lt fun hless => ?_
  have hgap := h.right
  rw [h'.full run.stop (by omega) hless] at hgap
  cases hgap

private theorem Run.Longest.eq_of_mem (h : run.Longest solid line) (h' : other.Longest solid line)
    (hstart : run.start ≤ i) (hstop : i < run.stop) (hstart' : other.start ≤ i) (hstop' : i < other.stop) :
    run = other :=
  h.eq_of_stop h' (Nat.le_antisymm (h'.stop_le_stop h hstop' hstart) (h.stop_le_stop h' hstop hstart'))

private theorem exists_longest_of_solidAt (hi : solidAt solid line i = true) :
    ∃ run : Run, run.Longest solid line ∧ run.start ≤ i ∧ i < run.stop := by
  induction i with
  | zero =>
    obtain ⟨run, hrun, hstart⟩ := exists_longest_iff.2 ⟨hi, fun k hk => absurd hk (Nat.succ_ne_zero k)⟩
    exact ⟨run, hrun, Nat.le_of_eq hstart, hstart ▸ hrun.nonempty⟩
  | succ i ih =>
    cases hbefore : solidAt solid line i with
    | true =>
      obtain ⟨run, hrun, hstart, hstop⟩ := ih hbefore
      refine ⟨run, hrun, Nat.le_succ_of_le hstart, Nat.lt_of_le_of_ne hstop fun hend => ?_⟩
      have hgap := hrun.right
      rw [← hend, hi] at hgap
      cases hgap
    | false =>
      obtain ⟨run, hrun, hstart⟩ := exists_longest_iff.2 (starts_succ_iff.2 ⟨hi, hbefore⟩)
      exact ⟨run, hrun, Nat.le_of_eq hstart, hstart ▸ hrun.nonempty⟩

private theorem exists_longest_end_iff :
    (∃ run : Run, run.Longest solid line ∧ run.stop = j + 1) ↔ Ends solid line j := by
  constructor
  · rintro ⟨run, h, hstop⟩
    have hlast := h.last_solid
    have hgap := h.right
    rw [hstop] at hlast hgap
    exact ⟨hlast, .inr hgap⟩
  · rintro ⟨hsolid, hend⟩
    obtain ⟨run, h, hstart, hstop⟩ := exists_longest_of_solidAt hsolid
    refine ⟨run, h, ?_⟩
    rcases hend with hend | hgap
    · have hline := h.stop_le
      omega
    · refine Nat.le_antisymm (Nat.le_of_not_lt fun hless => ?_) hstop
      rw [h.full (j + 1) (by omega) hless] at hgap
      cases hgap

end

/-! ### Motions -/

section

variable {goals : List Int} {columns : Set Nat} {extreme : Set Nat → Nat → Prop} {R : Int → Int → Prop}

theorem head?_eq_none_iff_empty (hmem : ∀ i, i ∈ goals ↔ ∃ j ∈ columns, (j : Int) = i) :
    goals.head? = none ↔ columns = ∅ := by
  rw [List.head?_eq_none_iff, Set.eq_empty_iff_forall_notMem, List.eq_nil_iff_forall_not_mem]
  simp only [hmem]
  constructor
  · intro hnone j hj
    exact hnone j ⟨j, hj, rfl⟩
  · rintro hnone _ ⟨j, hj, rfl⟩
    exact hnone j hj

theorem head?_eq_some_iff_extreme [Std.Asymm R] (hgoals : goals.Pairwise R)
    (hmem : ∀ i, i ∈ goals ↔ ∃ j ∈ columns, (j : Int) = i)
    (hextreme : ∀ j, extreme columns j ↔ j ∈ columns ∧ ∀ k ∈ columns, ¬R k j) (goal : Int) :
    goals.head? = some goal ↔ ∃ j, extreme columns j ∧ (j : Int) = goal := by
  simp only [head?_eq_some_iff_first hgoals, hmem, hextreme]
  constructor
  · rintro ⟨⟨j, hj, rfl⟩, hfirst⟩
    exact ⟨j, ⟨hj, fun k hk => hfirst k ⟨k, hk, rfl⟩⟩, rfl⟩
  · rintro ⟨j, ⟨hj, hfirst⟩, rfl⟩
    refine ⟨⟨j, hj, rfl⟩, ?_⟩
    rintro _ ⟨k, hk, rfl⟩
    exact hfirst k hk

end

namespace Motion

/-- From a position the motion of some keys reaches the extreme one of some columns, on its own row, and nothing
exactly if there are none. -/
structure Reaches (extreme : Set Nat → Nat → Prop) (columns : Set Nat) (keys line : Text) (position : Position) :
    Prop where
  found : ∀ p, target keys position line = .ok (some p) ↔ ∃ i, extreme columns i ∧ p = ⟨position.line, (i : Nat)⟩
  missed : target keys position line = .ok none ↔ columns = ∅

section

variable {motion : Motion} {keys line : Text} {position : Position} {extreme : Set Nat → Nat → Prop}
variable {columns : Set Nat} {R : Int → Int → Prop} [Std.Asymm R] {big : Bool} {c i : Int}

private theorem reaches_of_goals (hkeys : ofKeys? keys = some motion)
    (hhead : motion.targetColumn position.column line = .ok (motion.goals line position.column).head?)
    (hgoals : (motion.goals line position.column).Pairwise R)
    (hmem : ∀ i, i ∈ motion.goals line position.column ↔ ∃ j ∈ columns, (j : Int) = i)
    (hextreme : ∀ j, extreme columns j ↔ j ∈ columns ∧ ∀ k ∈ columns, ¬R k j) :
    Reaches extreme columns keys line position := by
  have htarget : target keys position line =
      .ok ((motion.goals line position.column).head?.map position.withColumn) := by
    rw [target, hkeys]
    simp [hhead, bind, Except.bind, pure, Except.pure]
  constructor
  · intro p
    rw [htarget, Except.ok.injEq, Option.map_eq_some_iff]
    simp only [head?_eq_some_iff_extreme hgoals hmem hextreme]
    constructor
    · rintro ⟨_, ⟨j, hj, rfl⟩, rfl⟩
      exact ⟨j, hj, rfl⟩
    · rintro ⟨j, hj, rfl⟩
      exact ⟨j, ⟨j, hj, rfl⟩, rfl⟩
  · rw [htarget, Except.ok.injEq, Option.map_eq_none_iff, head?_eq_none_iff_empty hmem]

private theorem mem_goals_wordEnd :
    i ∈ (wordEnd big).goals line c ↔ c ≤ i ∧ ∃ j : Nat, Ends (isSolid big) line j ∧ (j : Int) = i := by
  simp only [goals, List.mem_filter, List.mem_map, mem_wordRuns_iff, decide_eq_true_eq]
  rw [and_comm]
  refine and_congr_right fun _ => ?_
  constructor
  · rintro ⟨run, hrun, rfl⟩
    have hnonempty := hrun.nonempty
    refine ⟨run.stop - 1, exists_longest_end_iff.1 ⟨run, hrun, by omega⟩, ?_⟩
    rw [Run.last]
    omega
  · rintro ⟨j, hj, rfl⟩
    obtain ⟨run, hrun, hstop⟩ := exists_longest_end_iff.2 hj
    refine ⟨run, hrun, ?_⟩
    rw [Run.last]
    omega

/-! ### From any column -/

private theorem reaches_wordStart (line : Text) (big : Bool) (row : Int) (column : Nat) :
    Reaches IsLeast {i | column < i ∧ Starts (isSolid big) line i} [if big then 'W' else 'w'] line ⟨row, column⟩ := by
  have hkeys : ofKeys? [if big then 'W' else 'w'] = some (.wordStart big) := by cases big <;> rfl
  refine reaches_of_goals hkeys (congrArg Except.ok (nextWordStart?_eq_head line column big))
    ((wordStarts_pairwise line big).filter _) (fun i => ?_) fun j => ?_
  · rw [mem_goals_wordStart]
    constructor
    · rintro ⟨hright, j, hj, rfl⟩
      exact ⟨j, ⟨Int.ofNat_lt.1 hright, hj⟩, rfl⟩
    · rintro ⟨j, ⟨hright, hj⟩, rfl⟩
      exact ⟨Int.ofNat_lt.2 hright, j, hj, rfl⟩
  · simp only [IsLeast, mem_lowerBounds, Int.ofNat_lt, Nat.not_lt]

private theorem reaches_wordEnd (line : Text) (big : Bool) (row : Int) (column : Nat) :
    Reaches IsLeast {i | column ≤ i ∧ Ends (isSolid big) line i} [if big then 'E' else 'e'] line ⟨row, column⟩ := by
  have hkeys : ofKeys? [if big then 'E' else 'e'] = some (.wordEnd big) := by cases big <;> rfl
  refine reaches_of_goals hkeys (congrArg Except.ok (wordEnd?_eq_head line column big))
    ((wordEnds_pairwise line big).filter _) (fun i => ?_) fun j => ?_
  · rw [mem_goals_wordEnd]
    constructor
    · rintro ⟨hright, j, hj, rfl⟩
      exact ⟨j, ⟨Int.ofNat_le.1 hright, hj⟩, rfl⟩
    · rintro ⟨j, ⟨hright, hj⟩, rfl⟩
      exact ⟨Int.ofNat_le.2 hright, j, hj, rfl⟩
  · simp only [IsLeast, mem_lowerBounds, Int.ofNat_lt, Nat.not_lt]

private theorem reaches_wordBack (line : Text) (big : Bool) (row : Int) (column : Nat) :
    Reaches IsGreatest {i | ∃ stop, Run.Longest (isSolid big) line ⟨i, stop⟩ ∧ stop ≤ column}
      [if big then 'B' else 'b'] line ⟨row, column⟩ := by
  have hkeys : ofKeys? [if big then 'B' else 'b'] = some (.wordBack big) := by cases big <;> rfl
  refine reaches_of_goals hkeys (congrArg Except.ok (previousWordStart?_eq_head line column big))
    (goals_wordBack_pairwise big line column) (fun i => ?_) fun j => ?_
  · rw [mem_goals_wordBack]
    constructor
    · rintro ⟨run, hrun, hstop, rfl⟩
      exact ⟨run.start, ⟨run.stop, hrun, Int.ofNat_le.1 hstop⟩, rfl⟩
    · rintro ⟨j, ⟨stop, hrun, hstop⟩, rfl⟩
      exact ⟨⟨j, stop⟩, hrun, Int.ofNat_le.2 hstop, rfl⟩
  · simp only [IsGreatest, mem_upperBounds, gt_iff_lt, Int.ofNat_lt, Nat.not_lt]

end

end Motion

/-! ### Inner words -/

section

variable {line : Text} {big : Bool} {column : Nat} {run : Run}

private theorem wordAt?_eq_some_iff :
    wordAt? line column big = some run ↔
      run.Longest (isSolid big) line ∧ run.start ≤ column ∧ column < run.stop := by
  have hcontains (word : Run) : word.contains column = true ↔ word.start ≤ column ∧ column < word.stop := by
    simp [Run.contains]
  rw [wordAt?, find?_eq_some_iff_mem, mem_wordRuns_iff, hcontains]
  intro word hword other hother hcolumn hcolumn'
  rw [hcontains] at hcolumn hcolumn'
  exact (mem_wordRuns_iff.1 hword).eq_of_mem (mem_wordRuns_iff.1 hother) hcolumn.1 hcolumn.2 hcolumn'.1 hcolumn'.2

private theorem wordAt?_eq_none_iff :
    wordAt? line column big = none ↔ solidAt (isSolid big) line column = false := by
  rw [Option.eq_none_iff_forall_ne_some]
  constructor
  · intro hnone
    rw [← Bool.not_eq_true]
    intro hsolid
    obtain ⟨run, hrun⟩ := exists_longest_of_solidAt hsolid
    exact hnone run (wordAt?_eq_some_iff.2 hrun)
  · intro hgap run hrun
    obtain ⟨hlongest, hstart, hstop⟩ := wordAt?_eq_some_iff.1 hrun
    rw [hlongest.full column hstart hstop] at hgap
    cases hgap

private theorem TextObject.find?_inner_word {o : TextObject} (hinner : o.around = false)
    (hkind : o.kind = if big then .bigWord else .word) (row : Int) :
    o.find? line column row = (wordAt? line column big).map fun run =>
      ⟨⟨⟨row, run.start⟩, ⟨row, run.last⟩⟩, (line.take run.stop).drop run.start⟩ := by
  have hbounds : o.bounds? line column = wordBounds? line column big false := by
    unfold bounds?
    rw [hkind, hinner]
    cases big <;> rfl
  rw [find?, hbounds, wordBounds?, Option.map_map]
  congr 1
  funext run
  refine congrArg (Found.mk _) ?_
  calc
    Slice.between line (run.start : Int) (run.last + 1) = Slice.between line (run.start : Int) (run.stop : Int) := by
      rw [Run.last, Int.sub_add_cancel]
    _ = (line.take run.stop).drop run.start := Slice.between_natCast line run.start run.stop

end

/-- The words of a line are its longest stretches of solid characters, from left to right with a gap between any
two. From any column, the motion to the start of a word reaches the nearest column right of it where a word begins,
the one to the end of a word the nearest column from it on where a word ends, and the one back the start of the last
word that ends before it. An inner word is the longest stretch that the column lies in, and there is none on a
column that is not solid. -/
theorem words_by_columns (line : Text) (big : Bool) (row : Int) (column : Nat) :
    ((∀ run, run ∈ wordRuns line big ↔ run.Longest (isSolid big) line) ∧
      (wordRuns line big).Pairwise fun first second => first.stop < second.start) ∧
    Motion.Reaches IsLeast {i | column < i ∧ Starts (isSolid big) line i}
      [if big then 'W' else 'w'] line ⟨row, column⟩ ∧
    Motion.Reaches IsLeast {i | column ≤ i ∧ Ends (isSolid big) line i}
      [if big then 'E' else 'e'] line ⟨row, column⟩ ∧
    Motion.Reaches IsGreatest {i | ∃ stop, Run.Longest (isSolid big) line ⟨i, stop⟩ ∧ stop ≤ column}
      [if big then 'B' else 'b'] line ⟨row, column⟩ ∧
    ∀ o : TextObject, o.around = false → o.kind = (if big then .bigWord else .word) →
      ∃ answer, (o.reported line column row).value = .ok answer ∧
        (∀ found, answer = some found ↔
          ∃ run : Run, run.Longest (isSolid big) line ∧ run.start ≤ column ∧ column < run.stop ∧
            found = ⟨⟨⟨row, run.start⟩, ⟨row, run.last⟩⟩, (line.take run.stop).drop run.start⟩) ∧
        (answer = none ↔ solidAt (isSolid big) line column = false) := by
  refine ⟨⟨fun run => mem_wordRuns_iff, wordRuns_pairwise line big⟩, Motion.reaches_wordStart line big row column,
    Motion.reaches_wordEnd line big row column, Motion.reaches_wordBack line big row column, ?_⟩
  intro o hinner hkind
  refine ⟨_, TextObject.value_reported o line column row, fun found => ?_, ?_⟩
  · rw [TextObject.find?_inner_word hinner hkind, Option.map_eq_some_iff]
    simp only [wordAt?_eq_some_iff, and_assoc, eq_comm]
  · rw [TextObject.find?_inner_word hinner hkind, Option.map_eq_none_iff, wordAt?_eq_none_iff]

/-- A big word goes on over the dot, and the next one begins behind the gap. -/
theorem words_by_columns_dotted :
    let o : TextObject := ⟨.bigWord, false, none, by decide⟩
    let line : Text := ['a', '.', 'b', ' ', 'c']
    o.around = false ∧ o.kind = (if true then .bigWord else .word) ∧
      IsLeast {i | 1 < i ∧ Starts (isSolid true) line i} 4 ∧
      (o.reported line 1 0).value = .ok (some ⟨⟨⟨0, 0⟩, ⟨0, 2⟩⟩, ['a', '.', 'b']⟩) ∧
      ∃ run : Run, run.Longest (isSolid true) line ∧ run.start ≤ 1 ∧ 1 < run.stop ∧
        ['a', '.', 'b'] = (line.take run.stop).drop run.start := by
  intro o line
  obtain ⟨-, hstart, -, -, hinner⟩ := words_by_columns line true 0 1
  obtain ⟨answer, hanswer, hfound, -⟩ := hinner o rfl rfl
  have hpiece : answer = some ⟨⟨⟨0, 0⟩, ⟨0, 2⟩⟩, ['a', '.', 'b']⟩ := Except.ok.inj (hanswer.symm.trans rfl)
  obtain ⟨run, hrun, hlow, hhigh, hsame⟩ := (hfound _).1 hpiece
  obtain ⟨i, hleast, hplace⟩ := (hstart.found ⟨0, 4⟩).1 rfl
  have hi : (4 : Int) = i := (Position.mk.inj hplace).2
  obtain rfl : 4 = i := by omega
  exact ⟨rfl, rfl, hleast, hpiece ▸ hanswer, run, hrun, hlow, hhigh, (TextObject.Found.mk.inj hsame).2⟩

end ModalEditor
