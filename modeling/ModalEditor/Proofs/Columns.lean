import ModalEditor.Motion.Reach
import ModalEditor.Proofs.BracketPairs
import ModalEditor.Proofs.Words
/-!
# Columns of a line

Wherever a motion goes from a column of a line, it stays on that line: it reaches one of its columns or
its end, and so does the column from which a repeated motion looks again. The first column of a text
object lies on the line as well.
-/
namespace ModalEditor

def OnLine (line : Text) (column : Int) : Prop := 0 ≤ column ∧ column ≤ line.length

private theorem mem_wordRuns {line : Text} {big : Bool} {run : Run} (h : run ∈ wordRuns line big) :
    run.start < run.stop ∧ run.stop ≤ line.length :=
  ⟨(mem_wordRuns_iff.1 h).nonempty, (mem_wordRuns_iff.1 h).stop_le⟩

/-! ### Motions -/

theorem mem_columnsRight {length : Nat} {column i : Int} :
    i ∈ columnsRight length column ↔ column < i ∧ i < length := by
  simp only [columnsRight, List.mem_map, List.mem_range]
  constructor
  · rintro ⟨n, hn, rfl⟩
    omega
  · intro h
    exact ⟨(i - (column + 1)).toNat, by omega, by omega⟩

theorem mem_columnsLeft {column i : Int} : i ∈ columnsLeft column ↔ 0 ≤ i ∧ i < column := by
  simp only [columnsLeft, List.mem_map, List.mem_reverse, List.mem_range]
  constructor
  · rintro ⟨n, hn, rfl⟩
    omega
  · intro h
    exact ⟨i.toNat, by omega, by omega⟩

theorem findChar_right {line char : Text} {column found : Int} {till : Bool}
    (h : findChar line column char true till = .ok (some found)) :
    ∃ i, column < i ∧ i < line.length ∧ found = if till then i - 1 else i := by
  unfold findChar at h
  simp only [if_true] at h
  split at h
  · simp at h
  · obtain ⟨i, hi, hfound⟩ := Option.map_eq_some_iff.1 (Except.ok.inj h)
    have hbounds := mem_columnsRight.1 (List.mem_of_find?_eq_some hi)
    exact ⟨i, hbounds.1, hbounds.2, hfound.symm⟩

theorem findChar_left {line char : Text} {column found : Int} {till : Bool}
    (h : findChar line column char false till = .ok (some found)) :
    ∃ i, 0 ≤ i ∧ i < column ∧ found = if till then i + 1 else i := by
  unfold findChar at h
  simp only [Bool.false_eq_true, if_false] at h
  split at h
  · simp at h
  · obtain ⟨i, hi, hfound⟩ := Option.map_eq_some_iff.1 (Except.ok.inj h)
    have hbounds := mem_columnsLeft.1 (List.mem_of_find?_eq_some hi)
    exact ⟨i, hbounds.1, hbounds.2, hfound.symm⟩

namespace Motion

/-- How far a motion steps from what it reached before it looks again. -/
def stride : Motion → Int
  | wordEnd _ => 1
  | search s => if s.till then (if s.forward then 1 else -1) else 0
  | _ => 0

theorem nudge_eq_stride {keys : Text} {motion : Motion} (h : ofKeys? keys = some motion) :
    nudge keys = motion.stride := by
  unfold ofKeys? at h
  split at h
  case h_10 =>
    obtain ⟨s, hs, rfl⟩ := Option.map_eq_some_iff.1 h
    unfold CharSearch.ofSearchKeys? at hs
    split at hs <;> cases hs <;> rfl
  all_goals cases h; rfl

theorem targetColumn_onLine {motion : Motion} {line : Text} {column reached : Int}
    (hon : OnLine line column) (h : motion.targetColumn column line = .ok (some reached)) :
    OnLine line reached ∧ OnLine line (reached + motion.stride) := by
  obtain ⟨hlow, hhigh⟩ := hon
  unfold OnLine
  -- a till search stops beside a character, and its stride leads back onto it
  cases motion with
  | search s =>
    obtain ⟨c, forward, till⟩ := s
    cases forward with
    | true =>
      obtain ⟨i, hi, hi', hfound⟩ := findChar_right h
      cases till <;> simp [stride] at hfound ⊢ <;> omega
    | false =>
      obtain ⟨i, hi, hi', hfound⟩ := findChar_left h
      cases till <;> simp [stride] at hfound ⊢ <;> omega
  | wordStart big =>
    obtain ⟨run, hrun, rfl⟩ := Option.map_eq_some_iff.1 (Except.ok.inj h)
    have hbounds := mem_wordRuns (List.mem_of_find?_eq_some hrun)
    simp only [stride]
    omega
  | wordBack big =>
    obtain ⟨run, hrun, rfl⟩ := Option.map_eq_some_iff.1 (Except.ok.inj h)
    have hbounds := mem_wordRuns (List.mem_reverse.1 (List.mem_of_find?_eq_some hrun))
    simp only [stride]
    omega
  | wordEnd big =>
    obtain ⟨run, hrun, rfl⟩ := Option.map_eq_some_iff.1 (Except.ok.inj h)
    have hbounds := mem_wordRuns (List.mem_of_find?_eq_some hrun)
    simp only [stride, Run.last]
    omega
  | lineStart =>
    have hreached := Option.some.inj (Except.ok.inj h)
    simp only [stride]
    omega
  | firstNonBlank =>
    have hreached := Option.some.inj (Except.ok.inj h)
    have hfirst : ModalEditor.firstNonBlank line ≤ line.length - 1 := Nat.min_le_right _ _
    simp only [stride]
    omega
  | lineEnd =>
    have hreached := Option.some.inj (Except.ok.inj h)
    simp only [stride]
    omega

theorem target_onLine {keys line : Text} {position next : Position}
    (hon : OnLine line position.column) (h : target keys position line = .ok (some next)) :
    next.line = position.line ∧ OnLine line next.column ∧ OnLine line (next.column + nudge keys) := by
  unfold target at h
  split at h
  · simp at h
  · next motion hmotion =>
    obtain ⟨found, hfound, hnext⟩ := bind_eq_ok_iff.1 h
    obtain ⟨reached, rfl, rfl⟩ := Option.map_eq_some_iff.1 (Except.ok.inj hnext)
    have hreached := targetColumn_onLine hon hfound
    rw [nudge_eq_stride hmotion]
    exact ⟨rfl, hreached⟩

private theorem repeatFrom_onLine {keys line : Text} {n : Nat} {reached last : Position}
    (hon : OnLine line reached.column) (hnext : OnLine line (reached.column + nudge keys))
    (h : repeatFrom keys line n reached = .ok last) :
    last.line = reached.line ∧ OnLine line last.column := by
  induction n generalizing reached with
  | zero =>
    cases h
    exact ⟨rfl, hon⟩
  | succ n ih =>
    rw [repeatFrom] at h
    obtain ⟨found, hfound, h⟩ := bind_eq_ok_iff.1 h
    cases found with
    | none =>
      cases h
      exact ⟨rfl, hon⟩
    | some next =>
      obtain ⟨hline, hcolumn, hstep⟩ := target_onLine (by exact hnext) hfound
      simp only at h
      split at h
      · cases h
        exact ⟨rfl, hon⟩
      · obtain ⟨hlast, hlastColumn⟩ := ih hcolumn hstep h
        exact ⟨hlast.trans hline, hlastColumn⟩

theorem furthest_onLine {keys line : Text} {count : Nat} {position last : Position}
    (hon : OnLine line position.column) (h : furthest keys line count position = .ok last) :
    last.line = position.line ∧ OnLine line last.column := by
  cases count with
  | zero =>
    cases h
    exact ⟨rfl, hon⟩
  | succ n =>
    rw [furthest] at h
    obtain ⟨found, hfound, h⟩ := bind_eq_ok_iff.1 h
    cases found with
    | none =>
      cases h
      exact ⟨rfl, hon⟩
    | some next =>
      obtain ⟨hline, hcolumn, hstep⟩ := target_onLine hon hfound
      simp only at h
      split at h
      · cases h
        exact ⟨rfl, hon⟩
      · obtain ⟨hlast, hlastColumn⟩ := repeatFrom_onLine hcolumn hstep h
        exact ⟨hlast.trans hline, hlastColumn⟩

private theorem reach_onLine {keys line : Text} {position : Position} {range : Range}
    (hon : OnLine line position.column) (h : reach keys position line = .ok (some range)) :
    ∃ column, OnLine line column ∧ range = .between position (position.withColumn column) := by
  obtain ⟨found, hfound, hrange⟩ := bind_eq_ok_iff.1 h
  obtain ⟨next, rfl, rfl⟩ := Option.map_eq_some_iff.1 (Except.ok.inj hrange)
  obtain ⟨hline, hcolumn, -⟩ := target_onLine hon hfound
  exact ⟨next.column, hcolumn, by rw [Position.withColumn, ← hline]⟩

private theorem reachTimes_onLine {keys line : Text} {position : Position} {count : Nat} {range : Range}
    (hon : OnLine line position.column)
    (h : reachTimes keys position line count = .ok (some range)) :
    ∃ column, OnLine line column ∧ range = .between position (position.withColumn column) := by
  unfold reachTimes at h
  split at h
  · exact reach_onLine hon h
  · split at h
    · simp at h
    · split at h
      · simp at h
      · next last hlast =>
        split at h
        · exact reach_onLine hon h
        · obtain ⟨hline, hcolumn⟩ := furthest_onLine hon hlast
          refine ⟨last.column, hcolumn, ?_⟩
          rw [Position.withColumn, ← hline]
          exact (Option.some.inj (Except.ok.inj h)).symm

theorem reachTimes_row {keys line : Text} {row : Int} {column count : Nat} {range : Range}
    (hcolumn : column ≤ line.length)
    (h : reachTimes keys ⟨row, column⟩ line count = .ok (some range)) :
    ∃ first last : Nat, range = ⟨⟨row, first⟩, ⟨row, last⟩⟩ ∧ first ≤ last ∧ last ≤ line.length := by
  have hon : OnLine line (⟨row, column⟩ : Position).column :=
    ⟨Int.natCast_nonneg column, Int.ofNat_le.2 hcolumn⟩
  obtain ⟨target, ⟨hlow, hhigh⟩, rfl⟩ := reachTimes_onLine hon h
  obtain ⟨goal, rfl⟩ := Int.eq_ofNat_of_zero_le hlow
  have hgoal : goal ≤ line.length := Int.ofNat_le.1 hhigh
  have hbefore : (⟨row, column⟩ : Position) ≤ Position.withColumn ⟨row, column⟩ goal ↔ column ≤ goal := by
    simp [Position.le_def, Position.withColumn]
  rw [Range.between]
  by_cases hforward : column ≤ goal
  · rw [if_pos (hbefore.2 hforward)]
    exact ⟨column, goal, rfl, hforward, hgoal⟩
  · rw [if_neg fun hle => hforward (hbefore.1 hle)]
    exact ⟨goal, column, rfl, by omega, hcolumn⟩

end Motion

/-! ### Text objects -/

private theorem mem_quoteColumns {mark : Text} {column : Nat} {previous : Option Char} {t : Text} {n : Nat}
    (h : n ∈ quoteColumns mark column previous t) : column ≤ n ∧ n < column + t.length := by
  induction t generalizing column previous with
  | nil => simp [quoteColumns] at h
  | cons c rest ih =>
    simp only [quoteColumns] at h
    rw [List.length_cons]
    split at h
    · rcases List.mem_cons.1 h with rfl | h
      · omega
      · have hn := ih h
        omega
    · have hn := ih h
      omega

theorem mem_pairUp {ns : List Nat} {pair : Nat × Nat} (h : pair ∈ pairUp ns) :
    pair.1 ∈ ns ∧ pair.2 ∈ ns := by
  induction ns using pairUp.induct with
  | case1 a b rest ih =>
    rw [pairUp] at h
    rcases List.mem_cons.1 h with rfl | h
    · simp
    · exact ⟨by simp [(ih h).1], by simp [(ih h).2]⟩
  | case2 ns hshort => simp [pairUp] at h

theorem quoteColumns_pairwise (mark : Text) (column : Nat) (previous : Option Char) (t : Text) :
    (quoteColumns mark column previous t).Pairwise (· < ·) := by
  induction t generalizing column previous with
  | nil => exact .nil
  | cons c rest ih =>
    simp only [quoteColumns]
    split
    · refine .cons ?_ (ih _ _)
      intro n hn
      have hlow := (mem_quoteColumns hn).1
      omega
    · exact ih _ _

private theorem lt_of_mem_pairUp {ns : List Nat} (hns : ns.Pairwise (· < ·)) {pair : Nat × Nat}
    (h : pair ∈ pairUp ns) : pair.1 < pair.2 := by
  induction ns using pairUp.induct with
  | case1 a b rest ih =>
    rw [pairUp] at h
    rcases List.mem_cons.1 h with rfl | h
    · exact List.rel_of_pairwise_cons hns (List.mem_cons_self ..)
    · exact ih hns.of_cons.of_cons h
  | case2 ns hshort => simp [pairUp] at h

namespace TextObject

theorem delimitersAt?_lt {o : TextObject} {line : Text} {column : Int} {pair : Nat × Nat}
    (h : o.delimitersAt? line column = some pair) : pair.1 < pair.2 ∧ pair.2 < line.length := by
  unfold delimitersAt? at h
  split at h
  · have hpair := mem_topPairs_line.1 (List.mem_of_find?_eq_some h)
    exact ⟨hpair.before, hpair.stop_lt⟩
  · have hmem := List.mem_of_find?_eq_some h
    have hlast := mem_quoteColumns (mem_pairUp hmem).2
    exact ⟨lt_of_mem_pairUp (quoteColumns_pairwise _ _ _ _) hmem, by omega⟩

theorem wordBounds?_onLine {line : Text} {column : Int} {big around : Bool} {bounds : Int × Int}
    (h : wordBounds? line column big around = some bounds) :
    OnLine line bounds.1 ∧ OnLine line bounds.2 ∧ bounds.1 ≤ bounds.2 := by
  obtain ⟨run, hrun, rfl⟩ := Option.map_eq_some_iff.1 h
  have hbounds := mem_wordRuns (List.mem_of_find?_eq_some hrun)
  unfold OnLine
  cases around
  · simp only [Bool.false_eq_true, if_false, Run.last]
    omega
  · simp only [if_true, aroundWord]
    omega

private theorem bounds?_onLine {o : TextObject} {line : Text} {column : Int} {bounds : Int × Int}
    (h : o.bounds? line column = some bounds) :
    OnLine line bounds.1 ∧ OnLine line bounds.2 ∧ bounds.1 ≤ bounds.2 + 1 := by
  unfold bounds? at h
  split at h
  · obtain ⟨hfirst, hlast, hle⟩ := wordBounds?_onLine h
    exact ⟨hfirst, hlast, Int.le_add_one hle⟩
  · obtain ⟨hfirst, hlast, hle⟩ := wordBounds?_onLine h
    exact ⟨hfirst, hlast, Int.le_add_one hle⟩
  · obtain ⟨pair, hpair, rfl⟩ := Option.map_eq_some_iff.1 h
    have hlt := delimitersAt?_lt hpair
    unfold OnLine
    split <;> simp only <;> omega

theorem find?_onLine {o : TextObject} {line : Text} {column row : Int} {found : Found}
    (h : o.find? line column row = some found) :
    ∃ first last, OnLine line first ∧ OnLine line last ∧ first ≤ last + 1 ∧
      found.range = ⟨⟨row, first⟩, ⟨row, last⟩⟩ := by
  obtain ⟨bounds, hbounds, rfl⟩ := Option.map_eq_some_iff.1 h
  obtain ⟨hfirst, hlast, hordered⟩ := bounds?_onLine hbounds
  exact ⟨bounds.1, bounds.2, hfirst, hlast, hordered, rfl⟩

end TextObject
end ModalEditor
