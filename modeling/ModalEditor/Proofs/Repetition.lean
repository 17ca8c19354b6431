import ModalEditor.Proofs.Goals
/-!
# Repeated motions

A motion with a count is looked up again and again. It comes to the goal that the count names, or to the last
one if there are fewer. Only a motion that is already where it wants to be does not get away from there.
-/
namespace ModalEditor

namespace Motion

variable {motion : Motion} {keys line : Text} {column goal : Int} {rest : List Int} {n : Nat}

/-- Where a motion ends that is repeated a number of times, if there is anything that it is after. -/
def landing (motion : Motion) (line : Text) (column : Int) (count : Nat) : Option Int :=
  if (motion.goals line column).head? = some column then some column
  else ((motion.goals line column).take count).getLast?

theorem landing_one : motion.landing line column 1 = (motion.goals line column).head? := by
  rw [landing]
  split
  · next hfirst => exact hfirst.symm
  · cases motion.goals line column <;> rfl

theorem landing_eq_none_iff (hn : 0 < n) :
    motion.landing line column n = none ↔ motion.goals line column = [] := by
  rw [landing]
  split
  · next hfirst =>
    refine iff_of_false (Option.some_ne_none column) ?_
    intro h
    rw [h] at hfirst
    cases hfirst
  · simp [List.take_eq_nil_iff, Nat.ne_of_gt hn]

private theorem column_notMem_of_goals (h : motion.goals line column = goal :: rest) : column ∉ rest := by
  intro hmem
  have hnearest := motion.goals_pairwise line column
  rw [h] at hnearest
  have hless := List.rel_of_pairwise_cons hnearest hmem
  omega

theorem mem_goals_of_landing (h : motion.landing line column n = some goal) :
    goal ∈ motion.goals line column := by
  rw [landing] at h
  split at h
  · next hfirst =>
    obtain rfl := Option.some.inj h
    exact List.mem_of_head? hfirst
  · exact List.mem_of_mem_take (List.mem_of_getLast? h)

theorem landing_eq_self_iff :
    motion.landing line column n = some column ↔ (motion.goals line column).head? = some column := by
  constructor
  · intro h
    have hmem := mem_goals_of_landing h
    cases hgoals : motion.goals line column with
    | nil =>
      rw [hgoals] at hmem
      cases hmem
    | cons goal rest =>
      rw [hgoals] at hmem
      rcases List.mem_cons.1 hmem with rfl | hmem
      · rfl
      · exact absurd hmem (column_notMem_of_goals hgoals)
  · intro hfirst
    rw [landing, if_pos hfirst]

private theorem goals_nodup (motion : Motion) (line : Text) (column : Int) : (motion.goals line column).Nodup := by
  refine (motion.goals_pairwise line column).imp ?_
  rintro near far hless rfl
  exact Nat.lt_irrefl _ hless

theorem repeats_of_jumps (hjumps : motion.jumps = true) : motion.repeats = true := by
  rw [repeats, hjumps, Bool.true_or]

private theorem stride_of_jumps (hjumps : motion.jumps = true) : motion.stride = 0 := by
  cases motion with
  | search s =>
    have htill : s.till = false := by simpa [jumps] using hjumps
    rw [stride, htill]
    rfl
  | wordStart big => rfl
  | wordBack big => rfl
  | wordEnd big => cases hjumps
  | lineStart => cases hjumps
  | firstNonBlank => cases hjumps
  | lineEnd => cases hjumps

theorem goals_of_jumps (hjumps : motion.jumps = true) (h : motion.goals line column = goal :: rest) :
    motion.goals line goal = rest := by
  have hnext := goals_stride (repeats_of_jumps hjumps) h
  rwa [stride_of_jumps hjumps, Int.add_zero] at hnext

theorem head?_ne_of_jumps (hjumps : motion.jumps = true) (line : Text) (column : Int) :
    (motion.goals line column).head? ≠ some column := by
  intro hfirst
  obtain ⟨rest, hgoals⟩ := List.head?_eq_some_iff.1 hfirst
  have hnext := goals_of_jumps hjumps hgoals
  rw [hgoals] at hnext
  exact List.cons_ne_self column rest hnext

theorem landing_of_jumps (hjumps : motion.jumps = true) (line : Text) (column : Int) (n : Nat) :
    motion.landing line column n = ((motion.goals line column).take n).getLast? :=
  if_neg (head?_ne_of_jumps hjumps line column)

theorem nth_eq_self_iff (hfirst : (motion.goals line column).head? = some column) (hn : 0 < n) :
    (∀ i ∈ (motion.goals line column)[min n (motion.goals line column).length - 1]?, i = column) ↔
      ¬(1 < n ∧ 1 < (motion.goals line column).length) := by
  obtain ⟨rest, hgoals⟩ := List.head?_eq_some_iff.1 hfirst
  have hnew := column_notMem_of_goals hgoals
  rw [hgoals, List.length_cons]
  by_cases hlater : 1 < n ∧ 1 < rest.length + 1
  · refine iff_of_false (fun h => ?_) (not_not_intro hlater)
    have hbound : min n (rest.length + 1) - 2 < rest.length := by omega
    have hindex : min n (rest.length + 1) - 1 = (min n (rest.length + 1) - 2) + 1 := by omega
    rw [hindex, List.getElem?_cons_succ, List.getElem?_eq_getElem hbound] at h
    exact hnew (h _ rfl ▸ List.getElem_mem hbound)
  · have hindex : min n (rest.length + 1) - 1 = 0 := by omega
    rw [hindex, List.getElem?_cons_zero]
    refine iff_of_true ?_ hlater
    rintro i ⟨⟩
    rfl

theorem landing_eq_getElem? (hfirst : (motion.goals line column).head? ≠ some column) (hn : 0 < n) :
    motion.landing line column n =
      (motion.goals line column)[min n (motion.goals line column).length - 1]? := by
  rw [landing, if_neg hfirst, List.getLast?_eq_getElem?, List.length_take, List.getElem?_take_of_lt]
  omega

/-- More repetitions never end nearer to the cursor. -/
theorem landing_mono {more : Nat} (hn : 0 < n) (hmore : n ≤ more) {near : Int}
    (h : motion.landing line column n = some near) :
    ∃ far, motion.landing line column more = some far ∧ (near - column).natAbs ≤ (far - column).natAbs := by
  by_cases hfirst : (motion.goals line column).head? = some column
  · rw [landing, if_pos hfirst] at h
    exact ⟨column, by rw [landing, if_pos hfirst], by rw [Option.some.inj h]⟩
  · rw [landing_eq_getElem? hfirst hn] at h
    obtain ⟨hbound, hnear⟩ := List.getElem?_eq_some_iff.1 h
    have hbound' : min more (motion.goals line column).length - 1 < (motion.goals line column).length := by
      omega
    refine ⟨_, by rw [landing_eq_getElem? hfirst (Nat.lt_of_lt_of_le hn hmore),
      List.getElem?_eq_getElem hbound'], ?_⟩
    have hnearest := List.pairwise_iff_getElem.1 (motion.goals_pairwise line column)
    rcases Nat.lt_or_eq_of_le
      (by omega : min n (motion.goals line column).length - 1 ≤
        min more (motion.goals line column).length - 1) with hless | hsame
    · have hfar := hnearest _ _ hbound hbound' hless
      rw [hnear] at hfar
      exact Nat.le_of_lt hfar
    · simp only [← hsame, hnear]
      exact Nat.le_refl _

private theorem onLine_of_goals (hon : OnLine line column) (h : motion.goals line column = goal :: rest) :
    OnLine line (goal + motion.stride) := by
  refine (targetColumn_onLine hon (?_ : motion.targetColumn column line = .ok (some goal))).2
  rw [targetColumn_eq_head motion hon, h, List.head?_cons]

private theorem target_eq_head {p : Position} (hmotion : ofKeys? keys = some motion) (hon : OnLine line p.column) :
    target keys p line = .ok ((motion.goals line p.column).head?.map p.withColumn) := by
  simp only [target, hmotion, targetColumn_eq_head motion hon]
  rfl

/-! ### The way of a repeated motion -/

/-- The places that a repeated motion comes to from a target that it reached, one after the other. The first
lookup that gets no further is the last one. -/
def pathFrom (keys line : Text) : Nat → Position → Except Fault (List Position)
  | 0, _ => .ok []
  | n + 1, reached => do
    match ← target keys (reached.withColumn (reached.column + nudge keys)) line with
    | none => return []
    | some next => if next = reached then return [] else return next :: (← pathFrom keys line n next)

/-- The places that a motion comes to within a count of repetitions, one after the other. -/
def path (keys line : Text) (count : Nat) (position : Position) : Except Fault (List Position) :=
  match count with
  | 0 => .ok []
  | n + 1 => do
    match ← target keys position line with
    | none => return []
    | some next => if next = position then return [] else return next :: (← pathFrom keys line n next)

private theorem repeatFrom_eq_path (keys line : Text) (n : Nat) (p : Position) :
    repeatFrom keys line n p = (pathFrom keys line n p).map fun places => places.getLast?.getD p := by
  induction n generalizing p with
  | zero => rfl
  | succ n ih =>
    rw [repeatFrom, pathFrom]
    cases target keys (p.withColumn (p.column + nudge keys)) line with
    | error fault => rfl
    | ok found =>
      cases found with
      | none => rfl
      | some next =>
        by_cases hstays : next = p
        · simp [hstays, bind, Except.bind, pure, Except.pure, Except.map]
        · simp only [bind, Except.bind, if_neg hstays, ih]
          cases pathFrom keys line n next with
          | error fault => rfl
          | ok places => simp [Except.map, pure, Except.pure, List.getLast?_cons]

theorem furthest_eq_path (keys line : Text) (n : Nat) (p : Position) :
    furthest keys line n p = (path keys line n p).map fun places => places.getLast?.getD p := by
  cases n with
  | zero => rfl
  | succ n =>
    rw [furthest, path]
    cases target keys p line with
    | error fault => rfl
    | ok found =>
      cases found with
      | none => rfl
      | some next =>
        by_cases hstays : next = p
        · simp [hstays, bind, Except.bind, pure, Except.pure, Except.map]
        · simp only [bind, Except.bind, if_neg hstays, repeatFrom_eq_path]
          cases pathFrom keys line n next with
          | error fault => rfl
          | ok places => simp [Except.map, pure, Except.pure, List.getLast?_cons]

private theorem reach_eq {p : Position} (hmotion : ofKeys? keys = some motion) (hon : OnLine line p.column) :
    reach keys p line =
      .ok ((motion.goals line p.column).head?.map fun goal => .between p (p.withColumn goal)) := by
  rw [reach, target_eq_head hmotion hon]
  cases (motion.goals line p.column).head? <;> rfl

private theorem target_again {p : Position} (hmotion : ofKeys? keys = some motion)
    (hon : OnLine line (p.column + motion.stride)) :
    target keys (p.withColumn (p.column + nudge keys)) line =
      .ok ((motion.goals line (p.column + motion.stride)).head?.map p.withColumn) := by
  rw [nudge_eq_stride hmotion]
  exact target_eq_head hmotion hon

private theorem pathFrom_eq {p : Position} (hmotion : ofKeys? keys = some motion) (hrepeats : motion.repeats = true)
    (hon : OnLine line (p.column + motion.stride))
    (hrest : motion.goals line (p.column + motion.stride) = rest) (hnodup : (p.column :: rest).Nodup) :
    pathFrom keys line n p = .ok ((rest.take n).map p.withColumn) := by
  induction n generalizing p rest with
  | zero => rfl
  | succ n ih =>
    rw [pathFrom, target_again hmotion hon, hrest]
    cases rest with
    | nil => rfl
    | cons goal rest =>
      obtain ⟨hnew, hnodup⟩ := List.nodup_cons.1 hnodup
      have hmoved : p.withColumn goal ≠ p := by
        intro hsame
        have hcolumn : goal = p.column := congrArg Position.column hsame
        exact hnew (hcolumn ▸ List.mem_cons_self)
      have hnext := ih (p := p.withColumn goal) (onLine_of_goals hon hrest) (goals_stride hrepeats hrest) hnodup
      simp only [List.head?_cons, Option.map_some, bind, Except.bind, if_neg hmoved, hnext,
        List.take_succ_cons, List.map_cons]
      rfl

private theorem path_of_repeats {p : Position} (hmotion : ofKeys? keys = some motion) (hrepeats : motion.repeats = true)
    (hon : OnLine line p.column) (n : Nat) :
    path keys line n p =
      .ok ((if (motion.goals line p.column).head? = some p.column then []
        else (motion.goals line p.column).take n).map p.withColumn) := by
  cases n with
  | zero =>
    rw [path, List.take_zero, ite_self]
    rfl
  | succ n =>
    rw [path, target_eq_head hmotion hon]
    cases hgoals : motion.goals line p.column with
    | nil => rfl
    | cons goal rest =>
      by_cases hstays : goal = p.column
      · subst hstays
        simp [bind, Except.bind, Position.withColumn, pure, Except.pure]
      · have hmoved : p.withColumn goal ≠ p := fun h => hstays (congrArg Position.column h)
        have hnodup : (goal :: rest).Nodup := hgoals ▸ motion.goals_nodup line p.column
        have hnext := pathFrom_eq (n := n) (p := p.withColumn goal) hmotion hrepeats
          (onLine_of_goals hon hgoals) (goals_stride hrepeats hgoals) hnodup
        simp only [List.head?_cons, Option.map_some, bind, Except.bind, if_neg hmoved, hnext,
          Option.some.injEq, if_neg hstays, List.take_succ_cons, List.map_cons]
        rfl

private theorem furthest_eq {p : Position} (hmotion : ofKeys? keys = some motion) (hrepeats : motion.repeats = true)
    (hon : OnLine line p.column) :
    furthest keys line n p = .ok (p.withColumn ((motion.landing line p.column n).getD p.column)) := by
  rw [furthest_eq_path, path_of_repeats hmotion hrepeats hon, landing]
  split
  · rfl
  · simp only [Except.map, List.getLast?_map]
    cases ((motion.goals line p.column).take n).getLast? <;> rfl

theorem reachTimes_eq {p : Position} (hmotion : ofKeys? keys = some motion) (hrepeats : motion.repeats = true)
    (hon : OnLine line p.column) (hn : 0 < n) :
    reachTimes keys p line n =
      .ok ((motion.landing line p.column n).map fun goal => .between p (p.withColumn goal)) := by
  have hkeys : keys ≠ [] := by
    rintro rfl
    cases hmotion
  have hreach := reach_eq hmotion hon
  by_cases hone : n = 1
  · subst hone
    rw [reachTimes, if_pos rfl, hreach, landing_one]
  rw [reachTimes, if_neg hone, if_neg hkeys, furthest_eq hmotion hrepeats hon]
  cases hlanding : motion.landing line p.column n with
  | none =>
    rw [landing_eq_none_iff hn] at hlanding
    rw [hreach, hlanding]
    simp [Position.withColumn]
  | some goal =>
    by_cases hstays : goal = p.column
    · subst hstays
      have hfirst := landing_eq_self_iff.1 hlanding
      rw [hreach, hfirst]
      simp [Position.withColumn]
    · have hmoved : p.withColumn goal ≠ p := fun h => hstays (congrArg Position.column h)
      simp [hmoved]

/-! ### Motions to a place of the line -/

theorem exists_place (hplace : motion.repeats = false) (line : Text) :
    ∃ goal, ∀ column, motion.goals line column = [goal] := by
  cases motion with
  | search s => simp [repeats, jumps, mayStay] at hplace
  | wordStart big => cases hplace
  | wordBack big => cases hplace
  | wordEnd big => cases hplace
  | lineStart => exact ⟨_, fun column => rfl⟩
  | firstNonBlank => exact ⟨_, fun column => rfl⟩
  | lineEnd => exact ⟨_, fun column => rfl⟩

private theorem path_of_place {p : Position} (hmotion : ofKeys? keys = some motion) (hon : OnLine line p.column)
    (hplace : ∀ column, motion.goals line column = [goal]) (hn : 0 < n) :
    path keys line n p = .ok (if goal = p.column then [] else [p.withColumn goal]) := by
  obtain ⟨n, rfl⟩ := Nat.exists_eq_succ_of_ne_zero (Nat.ne_of_gt hn)
  have hstays : pathFrom keys line n (p.withColumn goal) = .ok [] := by
    cases n with
    | zero => rfl
    | succ n =>
      have hgoalOn := onLine_of_goals hon (hplace p.column)
      rw [pathFrom, target_again (p := p.withColumn goal) hmotion hgoalOn, hplace]
      exact if_pos rfl
  rw [path, target_eq_head hmotion hon, hplace]
  by_cases hhere : goal = p.column
  · subst hhere
    simp [bind, Except.bind, Position.withColumn, pure, Except.pure]
  · have hmoved : p.withColumn goal ≠ p := fun h => hhere (congrArg Position.column h)
    simp [bind, Except.bind, pure, Except.pure, hmoved, hhere, hstays]

/-- A motion comes to its goals one by one, unless it begins where it wants to be. -/
theorem path_eq {p : Position} (hmotion : ofKeys? keys = some motion) (hon : OnLine line p.column) (n : Nat) :
    path keys line n p =
      .ok ((if (motion.goals line p.column).head? = some p.column then []
        else (motion.goals line p.column).take n).map p.withColumn) := by
  cases hrepeats : motion.repeats with
  | true => exact path_of_repeats hmotion hrepeats hon n
  | false =>
    obtain ⟨goal, hplace⟩ := exists_place hrepeats line
    simp only [hplace, List.head?_cons, Option.some.injEq]
    cases n with
    | zero =>
      rw [List.take_zero, ite_self]
      rfl
    | succ n =>
      rw [path_of_place hmotion hon hplace n.succ_pos, List.take_succ_cons, List.take_nil]
      split <;> rfl

private theorem reachTimes_of_place {p : Position} (hmotion : ofKeys? keys = some motion) (hon : OnLine line p.column)
    (hplace : ∀ column, motion.goals line column = [goal]) (hn : 0 < n) :
    reachTimes keys p line n = .ok (some (.between p (p.withColumn goal))) := by
  have hkeys : keys ≠ [] := by
    rintro rfl
    cases hmotion
  have hreach : reach keys p line = .ok (some (.between p (p.withColumn goal))) := by
    rw [reach_eq hmotion hon, hplace]
    rfl
  have hfurthest : furthest keys line n p = .ok (p.withColumn goal) := by
    rw [furthest_eq_path, path_of_place hmotion hon hplace hn]
    split
    · next hhere =>
      subst hhere
      rfl
    · rfl
  rw [reachTimes, hreach, if_neg hkeys, hfurthest]
  simp only [ite_self]

theorem exists_goal_of_reachTimes {p : Position} {range : Range} (hmotion : ofKeys? keys = some motion)
    (hon : OnLine line p.column) (hn : 0 < n) (h : reachTimes keys p line n = .ok (some range)) :
    ∃ goal ∈ motion.goals line p.column, OnLine line goal ∧ range = .between p (p.withColumn goal) := by
  cases hrepeats : motion.repeats with
  | true =>
    rw [reachTimes_eq hmotion hrepeats hon hn] at h
    obtain ⟨goal, hlanding, rfl⟩ := Option.map_eq_some_iff.1 (Except.ok.inj h)
    have hfurthest := furthest_eq (n := n) hmotion hrepeats hon
    rw [hlanding] at hfurthest
    exact ⟨goal, mem_goals_of_landing hlanding, (furthest_onLine hon hfurthest).2, rfl⟩
  | false =>
    obtain ⟨goal, hplace⟩ := exists_place hrepeats line
    rw [reachTimes_of_place hmotion hon hplace hn] at h
    cases h
    have htarget : motion.targetColumn p.column line = .ok (some goal) := by
      rw [targetColumn_eq_head motion hon, hplace, List.head?_cons]
    refine ⟨goal, ?_, (targetColumn_onLine hon htarget).1, rfl⟩
    rw [hplace]
    exact List.mem_singleton_self goal

end Motion
end ModalEditor
