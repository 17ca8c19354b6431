import Mathlib.Data.List.Perm.Subperm
import ModalEditor.Proofs.Refusals
import ModalEditor.Proofs.Repetition
/-!
# Large counts

The goals of a motion are different columns of the line, so there are at most as many as the line has columns.
A repeated motion runs out of them: whatever the count is, it gets further at most that often, and all counts
beyond the length of the line are one and the same.
-/
namespace ModalEditor

section

variable {line : Text} {big : Bool}

private theorem length_columnsOf_le (t : Text) (x : Char) : (columnsOf t x).length ≤ t.length := by
  rw [columnsOf, List.length_map]
  exact (List.length_filter_le _ _).trans_eq List.length_range

private theorem length_wordRuns_le (line : Text) (big : Bool) : (wordRuns line big).length ≤ line.length := by
  have hnodup : ((wordRuns line big).map Run.start).Nodup := by
    refine List.pairwise_map.2 ((wordRuns_pairwise line big).imp_of_mem ?_)
    intro first second hfirst _ hgap
    have hnonempty := (mem_wordRuns_iff.1 hfirst).nonempty
    omega
  have hcolumns : (wordRuns line big).map Run.start ⊆ List.range line.length := by
    intro start hstart
    obtain ⟨run, hrun, rfl⟩ := List.mem_map.1 hstart
    have hlongest := mem_wordRuns_iff.1 hrun
    exact List.mem_range.2 (Nat.lt_of_lt_of_le hlongest.nonempty hlongest.stop_le)
  have hfew := (hnodup.subperm hcolumns).length_le
  rwa [List.length_map, List.length_range] at hfew

end

namespace Motion

variable {motion : Motion} {keys line : Text} {p : Position} {n : Nat}

private theorem length_goals_le_of_repeats (hrepeats : motion.repeats = true) (line : Text) (column : Int) :
    (motion.goals line column).length ≤ line.length := by
  cases motion with
  | search s =>
    rw [goals]
    split
    · rw [List.length_map]
      exact (List.length_filter_le _ _).trans (length_columnsOf_le line s.char)
    · rw [List.length_map]
      exact (List.length_filter_le _ _).trans (List.length_reverse.trans_le (length_columnsOf_le line s.char))
  | wordStart big =>
    exact (List.length_filter_le _ _).trans ((List.length_map _).trans_le (length_wordRuns_le line big))
  | wordBack big =>
    rw [goals, List.length_map]
    exact (List.length_filter_le _ _).trans (List.length_reverse.trans_le (length_wordRuns_le line big))
  | wordEnd big =>
    exact (List.length_filter_le _ _).trans ((List.length_map _).trans_le (length_wordRuns_le line big))
  | lineStart => cases hrepeats
  | firstNonBlank => cases hrepeats
  | lineEnd => cases hrepeats

private theorem length_goals_le {column : Int} (hon : OnLine line column)
    (hmoves : (motion.goals line column).head? ≠ some column) :
    (motion.goals line column).length ≤ line.length := by
  cases hrepeats : motion.repeats with
  | true => exact length_goals_le_of_repeats hrepeats line column
  | false =>
    -- the place is another column than the cursor's, and an empty line has only one
    obtain ⟨goal, hplace⟩ := exists_place hrepeats line
    have htarget : motion.targetColumn column line = .ok (some goal) := by
      rw [targetColumn_eq_head motion hon, hplace, List.head?_cons]
    obtain ⟨hlow, hhigh⟩ := (targetColumn_onLine hon htarget).1
    obtain ⟨hlow', hhigh'⟩ := hon
    rw [hplace] at hmoves
    have hother : goal ≠ column := fun hsame => hmoves (congrArg some hsame)
    rw [hplace, List.length_singleton]
    omega

/-- Whatever the count is, a motion gets further at most once for each character of the line. When the count is
the length of the line it has come as far as it can. -/
theorem path_le (keys : Text) (hon : OnLine line p.column) (n : Nat) :
    ∃ places, path keys line n p = .ok places ∧ places.length ≤ line.length ∧
      (line.length ≤ n → path keys line line.length p = .ok places) := by
  cases hmotion : ofKeys? keys with
  | none =>
    have hnowhere (n : Nat) : path keys line n p = .ok [] := by
      cases n with
      | zero => rfl
      | succ n =>
        rw [path, target, hmotion]
        rfl
    exact ⟨[], hnowhere n, Nat.zero_le _, fun _ => hnowhere _⟩
  | some motion =>
    refine ⟨_, path_eq hmotion hon n, ?_⟩
    rw [path_eq hmotion hon]
    split
    · exact ⟨Nat.zero_le _, fun _ => rfl⟩
    · next hmoves =>
      have hfew := length_goals_le hon hmoves
      rw [List.length_map]
      refine ⟨(List.length_take_le' _ _).trans hfew, fun hn => ?_⟩
      rw [List.take_of_length_le hfew, List.take_of_length_le (hfew.trans hn)]

private theorem furthest_beyond (keys : Text) (hon : OnLine line p.column) :
    ∃ reached, (∀ n, line.length ≤ n → furthest keys line n p = .ok reached) ∧
      (line.length = 0 → reached = p) := by
  obtain ⟨places, hplaces, hfew, -⟩ := path_le keys hon line.length
  refine ⟨places.getLast?.getD p, fun n hn => ?_, fun hempty => ?_⟩
  · obtain ⟨places', hplaces', -, hfull⟩ := path_le keys hon n
    obtain rfl := Except.ok.inj (hplaces.symm.trans (hfull hn))
    rw [furthest_eq_path, hplaces']
    rfl
  · obtain rfl := List.eq_nil_of_length_eq_zero (Nat.le_zero.1 (hfew.trans_eq hempty))
    rfl

private theorem reportedTimes_beyond (hkeys : keys ≠ []) (hon : OnLine line p.column) :
    ∃ logged, ∀ n, line.length < n → reportedTimes keys p line n = logged := by
  obtain ⟨reached, hfurthest, hempty⟩ := furthest_beyond keys hon
  refine ⟨if reached = p then reported keys p line else pure (.ok (some (.between p reached))), fun n hn => ?_⟩
  rw [reportedTimes, if_neg hkeys, hfurthest n (Nat.le_of_lt hn)]
  split
  · -- a single repetition is beyond the length of an empty line only
    rw [if_pos (hempty (by omega))]
  · rfl

/-- Every count beyond the length of the line makes the same of a motion that was read of keys: one range or
none, and the same entries in the log. For however large a count, the motion gets further at most once for each
character of the line, and it ends at the last place that it comes to. -/
theorem reportedTimes_saturates {s : Session} {typed : Text} {c : Command}
    (hread : (s.read typed).2 = .ok (some c)) {keys : Text} (hmotion : c.motion? = some keys)
    {line : Text} {p : Position} (hon : OnLine line p.column) :
    (∀ n m, line.length + 1 ≤ n → line.length + 1 ≤ m →
      reportedTimes keys p line n = reportedTimes keys p line m) ∧
      (∀ n, ∃ found, (reportedTimes keys p line n).value = .ok found) ∧
      ∀ n, ∃ places, path keys line n p = .ok places ∧ places.length ≤ line.length ∧
        furthest keys line n p = .ok (places.getLast?.getD p) := by
  have hkeys : keys ≠ [] := by
    rintro rfl
    exact (s.parts_of_read hread).2 hmotion
  refine ⟨fun n m hn hm => ?_, fun n => ?_, fun n => ?_⟩
  · obtain ⟨logged, hbeyond⟩ := reportedTimes_beyond hkeys hon
    rw [hbeyond n hn, hbeyond m hm]
  · rw [value_reportedTimes]
    exact reachTimes_total n hkeys hon
  · obtain ⟨places, hplaces, hfew, -⟩ := path_le keys hon n
    refine ⟨places, hplaces, hfew, ?_⟩
    rw [furthest_eq_path, hplaces]
    rfl

/-- A till search that has two places to come to, with a count just beyond the line and with one that is too
long for the log. -/
theorem reportedTimes_saturates_search :
    let line : Text := "a,b,".toList
    (Session.read {} ['t', ',']).2 = .ok (some { target := some (.motion ['t', ',']) }) ∧
      OnLine line (⟨0, 1⟩ : Position).column ∧
      reportedTimes ['t', ','] ⟨0, 1⟩ line 5 = reportedTimes ['t', ','] ⟨0, 1⟩ line (10 ^ Text.numeralLimit) ∧
      ∃ places, path ['t', ','] line (10 ^ Text.numeralLimit) ⟨0, 1⟩ = .ok places ∧ places.length ≤ 4 := by
  intro line
  have hread : (Session.read {} ['t', ',']).2 = .ok (some { target := some (.motion ['t', ',']) }) := by rfl
  have hon : OnLine line (⟨0, 1⟩ : Position).column := by constructor <;> decide
  have hlarge : 5 ≤ 10 ^ Text.numeralLimit := Nat.le_trans (by decide) (Nat.le_self_pow (by decide) 10)
  obtain ⟨hsame, -, hpath⟩ := reportedTimes_saturates hread rfl hon
  obtain ⟨places, hplaces, hfew, -⟩ := hpath (10 ^ Text.numeralLimit)
  exact ⟨hread, hon, hsame 5 _ (by decide) hlarge, places, hplaces, hfew⟩

end Motion
end ModalEditor
