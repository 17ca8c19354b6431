import ModalEditor.Motion.WordRun
import ModalEditor.Proofs.Scans
/-!
# Words of a line

The scan of a line finds its longest stretches of solid characters, each of them once, from left to right.
Between any two of them there is a column that is not solid. So whether a stretch is a word can be said of the
columns alone, and it does not change if the line is cut somewhere else.
-/
namespace ModalEditor

/-- Whether a column of a line holds a solid character. The end of the line does not. -/
def solidAt (solid : Char → Bool) (t : Text) (i : Nat) : Bool := t[i]?.any solid

/-- A stretch of solid characters that nothing solid stands next to. -/
structure Run.Longest (solid : Char → Bool) (line : Text) (run : Run) : Prop where
  nonempty : run.start < run.stop
  full : ∀ i, run.start ≤ i → i < run.stop → solidAt solid line i = true
  left : ∀ i, i + 1 = run.start → solidAt solid line i = false
  right : solidAt solid line run.stop = false

section

variable {solid : Char → Bool} {line t : Text} {run other : Run} {column : Nat} {opened : Option Nat}

theorem lt_length_of_solidAt {i : Nat} (h : solidAt solid line i = true) : i < line.length := by
  refine Nat.lt_of_not_le fun hle => ?_
  rw [solidAt, List.getElem?_eq_none hle] at h
  cases h

namespace Run.Longest

theorem last_solid (h : run.Longest solid line) : solidAt solid line (run.stop - 1) = true := by
  have hnonempty := h.nonempty
  exact h.full (run.stop - 1) (by omega) (by omega)

theorem stop_le (h : run.Longest solid line) : run.stop ≤ line.length := by
  have hlast := lt_length_of_solidAt h.last_solid
  omega

private theorem start_le (h : run.Longest solid line) (h' : other.Longest solid line)
    (hstop : run.stop = other.stop) : run.start ≤ other.start := by
  refine Nat.le_of_not_lt fun hless => ?_
  have hnonempty := h.nonempty
  have hgap := h.left (run.start - 1) (by omega)
  rw [h'.full (run.start - 1) (by omega) (by omega)] at hgap
  cases hgap

theorem eq_of_stop (h : run.Longest solid line) (h' : other.Longest solid line)
    (hstop : run.stop = other.stop) : run = other := by
  obtain ⟨start, stop⟩ := run
  obtain ⟨start', stop'⟩ := other
  have hstart := Nat.le_antisymm (h.start_le h' hstop) (h'.start_le h hstop.symm)
  simp only at hstart hstop
  rw [hstart, hstop]

end Run.Longest

/-- What the scan knows of the columns before the one it has come to: the stretch that reaches this column
began at `opened`, or there is none. -/
def Opened (solid : Char → Bool) (line : Text) (column : Nat) : Option Nat → Prop
  | none => ∀ i, i + 1 = column → solidAt solid line i = false
  | some start => start < column ∧ (∀ i, start ≤ i → i < column → solidAt solid line i = true) ∧
    ∀ i, i + 1 = start → solidAt solid line i = false

private theorem mem_opened_iff (hopened : Opened solid line column opened)
    (hend : solidAt solid line column = false) :
    run ∈ (opened.map (Run.mk · column)).toList ↔ run.Longest solid line ∧ run.stop = column := by
  cases opened with
  | none =>
    simp only [Option.map_none, Option.toList_none, List.not_mem_nil, false_iff]
    rintro ⟨h, rfl⟩
    have hnonempty := h.nonempty
    have hlast := h.last_solid
    rw [hopened (run.stop - 1) (by omega)] at hlast
    cases hlast
  | some start =>
    obtain ⟨hless, hsolid, hleft⟩ := hopened
    have hlongest : Run.Longest solid line ⟨start, column⟩ := ⟨hless, hsolid, hleft, hend⟩
    simp only [Option.map_some, Option.toList_some, List.mem_singleton]
    constructor
    · rintro rfl
      exact ⟨hlongest, rfl⟩
    · rintro ⟨h, hstop⟩
      exact h.eq_of_stop hlongest hstop

/-- From any column on, the scan finds the longest stretches that do not end before it. -/
theorem mem_runsFrom_iff (hopened : Opened solid line column opened) :
    run ∈ runsFrom solid column opened (line.drop column) ↔
      run.Longest solid line ∧ column ≤ run.stop := by
  generalize hrest : line.drop column = rest
  induction rest generalizing column opened with
  | nil =>
    have hlength : line.length ≤ column := List.drop_eq_nil_iff.1 hrest
    have hend : solidAt solid line column = false := by
      rw [solidAt, List.getElem?_eq_none hlength]
      rfl
    rw [runsFrom, mem_opened_iff hopened hend]
    refine and_congr_right fun h => ?_
    have hstop := h.stop_le
    omega
  | cons c rest ih =>
    obtain ⟨hc, hnext⟩ := of_drop_eq_cons hrest
    have hcolumn : solidAt solid line column = solid c := by
      rw [solidAt, hc, Option.any_some]
    rw [runsFrom]
    split
    · next hsolid =>
      rw [hsolid] at hcolumn
      have hlonger : Opened solid line (column + 1) (some (opened.getD column)) := by
        cases opened with
        | none =>
          refine ⟨Nat.lt_succ_self column, fun i hlow hhigh => ?_, hopened⟩
          rwa [Nat.le_antisymm (Nat.lt_succ_iff.1 hhigh) hlow]
        | some start =>
          obtain ⟨hless, hfull, hleft⟩ := hopened
          refine ⟨Nat.lt_succ_of_lt hless, fun i hlow hhigh => ?_, hleft⟩
          rcases Nat.lt_succ_iff_lt_or_eq.1 hhigh with hhigh | rfl
          · exact hfull i hlow hhigh
          · exact hcolumn
      rw [ih hlonger hnext]
      refine and_congr_right fun h => ?_
      -- no longest stretch ends on a solid column
      have hne : run.stop ≠ column := by
        rintro rfl
        rw [h.right] at hcolumn
        cases hcolumn
      omega
    · next hgap =>
      rw [Bool.not_eq_true] at hgap
      rw [hgap] at hcolumn
      have hclosed : Opened solid line (column + 1) none := by
        intro i hi
        rwa [Nat.succ.inj hi]
      rw [List.mem_append, mem_opened_iff hopened hcolumn, ih hclosed hnext, ← and_or_left]
      refine and_congr_right fun _ => ?_
      omega

private theorem le_start_of_mem_runsFrom (hopened : ∀ start ∈ opened, start ≤ column)
    (h : run ∈ runsFrom solid column opened t) : opened.getD column ≤ run.start := by
  induction t generalizing column opened with
  | nil =>
    obtain ⟨start, rfl, rfl⟩ := Option.map_eq_some_iff.1 (Option.mem_toList.1 h)
    exact Nat.le_refl start
  | cons c rest ih =>
    have hlow : opened.getD column ≤ column := by
      cases opened with
      | none => exact Nat.le_refl column
      | some start => exact hopened start rfl
    rw [runsFrom] at h
    split at h
    · have hopen : ∀ start ∈ some (opened.getD column), start ≤ column + 1 := by
        simpa using Nat.le_succ_of_le hlow
      have hstart := ih hopen h
      exact hstart
    · rcases List.mem_append.1 h with h | h
      · obtain ⟨start, rfl, rfl⟩ := Option.map_eq_some_iff.1 (Option.mem_toList.1 h)
        exact Nat.le_refl start
      · have hstart := ih (by simp) h
        rw [Option.getD_none] at hstart
        omega

private theorem runsFrom_pairwise (solid : Char → Bool) (column : Nat) (opened : Option Nat) (t : Text) :
    (runsFrom solid column opened t).Pairwise fun first second => first.stop < second.start := by
  induction t generalizing column opened with
  | nil => cases opened <;> simp [runsFrom]
  | cons c rest ih =>
    rw [runsFrom]
    split
    · exact ih _ _
    · refine List.pairwise_append.2 ⟨by cases opened <;> simp, ih _ _, ?_⟩
      intro first hfirst second hsecond
      obtain ⟨start, -, rfl⟩ := Option.map_eq_some_iff.1 (Option.mem_toList.1 hfirst)
      have hstart := le_start_of_mem_runsFrom (by simp) hsecond
      rw [Option.getD_none] at hstart
      exact hstart

end

variable {line : Text} {big : Bool} {run : Run}

theorem mem_wordRuns_iff : run ∈ wordRuns line big ↔ run.Longest (isSolid big) line := by
  have hscan := @mem_runsFrom_iff (isSolid big) line run 0 none fun i hi => absurd hi (Nat.succ_ne_zero i)
  rw [List.drop_zero] at hscan
  rw [wordRuns, hscan]
  exact and_iff_left (Nat.zero_le _)

theorem wordRuns_pairwise (line : Text) (big : Bool) :
    (wordRuns line big).Pairwise fun first second => first.stop < second.start :=
  runsFrom_pairwise _ _ _ _

end ModalEditor
