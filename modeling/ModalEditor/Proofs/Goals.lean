import Mathlib.Data.List.Find
import Mathlib.Data.List.Sort
import ModalEditor.Proofs.Columns
/-!
# Goals of motions

From a column, a motion is after some columns of its line: the starts or ends of words, or the columns of a
character, nearest first. It reaches the first of them, and looking again from there it is after the rest.
-/
namespace ModalEditor

def columnsOf (t : Text) (x : Char) : List Int :=
  ((List.range t.length).filter fun i => t[i]? = some x).map fun (i : Nat) => (i : Int)

namespace Motion

/-- The columns that a motion is after from a column, nearest first. A till search is after the columns beside
the character, on the near side. The motions to a place of the line are after that place. -/
def goals (motion : Motion) (line : Text) (column : Int) : List Int :=
  match motion with
  | .search s =>
    if s.forward then
      ((columnsOf line s.char).filter (column < ·)).map fun i => if s.till then i - 1 else i
    else ((columnsOf line s.char).reverse.filter (· < column)).map fun i => if s.till then i + 1 else i
  | .wordStart big => ((wordRuns line big).map fun word => (word.start : Int)).filter (column < ·)
  | .wordBack big =>
    ((wordRuns line big).reverse.filter fun word => word.stop ≤ column).map fun word => (word.start : Int)
  | .wordEnd big => ((wordRuns line big).map Run.last).filter (column ≤ ·)
  | .lineStart => [0]
  | .firstNonBlank => [(ModalEditor.firstNonBlank line : Int)]
  | .lineEnd => [max 0 ((line.length : Int) - 1)]

/-- The motions that always leave the column they start from. -/
def jumps : Motion → Bool
  | .search s => !s.till
  | .wordStart _ | .wordBack _ => true
  | _ => false

/-- The motions that stop on the end of a word or beside a character, and may stand there already. -/
def mayStay : Motion → Bool
  | .search s => s.till
  | .wordEnd _ => true
  | _ => false

/-- The motions that get further when they are repeated. -/
def repeats (motion : Motion) : Bool := motion.jumps || motion.mayStay

end Motion

/-! ### Ascending columns -/

section

variable {α : Type} {R : α → α → Prop} {xs : List α} {p q : α → Bool} {a : α} {rest : List α}

private theorem filter_rest (hxs : xs.Pairwise R) (h : xs.filter p = a :: rest)
    (hpast : ∀ x ∈ xs, R x a → q x = false) (hself : q a = false)
    (hahead : ∀ x ∈ xs, R a x → q x = p x) : xs.filter q = rest := by
  obtain ⟨before, behind, rfl, -, -, hrest⟩ := List.filter_eq_cons_iff.1 h
  obtain ⟨-, hbehind, hbefore⟩ := List.pairwise_append.1 hxs
  have hnone : before.filter q = [] := by
    rw [List.filter_eq_nil_iff]
    intro x hx
    rw [hpast x (List.mem_append_left _ hx) (hbefore x hx a List.mem_cons_self)]
    exact Bool.false_ne_true
  have hsame : behind.filter q = behind.filter p := by
    apply List.filter_congr
    intro x hx
    exact hahead x (List.mem_append_right _ (List.mem_cons_of_mem a hx)) (List.rel_of_pairwise_cons hbehind hx)
  have hnot : ¬q a = true := by
    rw [hself]
    exact Bool.false_ne_true
  rw [List.filter_append, hnone, List.nil_append, List.filter_cons_of_neg hnot, hsame, hrest]

private theorem filter_lt_rest {columns columns' : List Int} {column goal : Int} (hup : columns.Pairwise (· < ·))
    (h : columns.filter (column < ·) = goal :: columns') : columns.filter (goal < ·) = columns' := by
  have hmem : goal ∈ columns.filter (column < ·) := h ▸ List.mem_cons_self
  have hgoal : column < goal := of_decide_eq_true (List.mem_filter.1 hmem).2
  refine filter_rest hup h ?_ ?_ ?_
  · intro i _ hi
    exact decide_eq_false (by omega)
  · exact decide_eq_false (Int.lt_irrefl goal)
  · intro i _ hi
    exact decide_eq_decide.2 ⟨fun _ => by omega, fun _ => hi⟩

end

section

variable {t : Text} {x : Char} {column i : Int}

theorem mem_columnsOf : i ∈ columnsOf t x ↔ ∃ n : Nat, t[n]? = some x ∧ (n : Int) = i := by
  simp only [columnsOf, List.mem_map, List.mem_filter, List.mem_range, decide_eq_true_eq]
  constructor
  · rintro ⟨n, ⟨-, hn⟩, hi⟩
    exact ⟨n, hn, hi⟩
  · rintro ⟨n, hn, hi⟩
    exact ⟨n, ⟨(List.getElem?_eq_some_iff.1 hn).1, hn⟩, hi⟩

theorem columnsOf_pairwise (t : Text) (x : Char) : (columnsOf t x).Pairwise (· < ·) := by
  refine List.pairwise_map.2 ((List.pairwise_lt_range.filter _).imp ?_)
  exact Int.ofNat_lt.2

private theorem holdsAt_natCast (t : Text) (x : Char) (n : Nat) :
    holdsAt t [x] n = true ↔ t[n]? = some x := by
  simp [holdsAt, Option.any_eq_true]

private theorem columnsRight_filter (hcolumn : -1 ≤ column) :
    (columnsRight t.length column).filter (holdsAt t [x]) = (columnsOf t x).filter (column < ·) := by
  apply List.Pairwise.eq_of_mem_iff (r := (· < ·))
  · refine (List.pairwise_map.2 (List.pairwise_lt_range.imp fun h => ?_)).filter _
    omega
  · exact (columnsOf_pairwise t x).filter _
  · intro i
    simp only [List.mem_filter, mem_columnsRight, mem_columnsOf, decide_eq_true_eq]
    constructor
    · rintro ⟨⟨hlow, hhigh⟩, hheld⟩
      obtain ⟨n, rfl⟩ := Int.eq_ofNat_of_zero_le (by omega : 0 ≤ i)
      exact ⟨⟨n, (holdsAt_natCast t x n).1 hheld, rfl⟩, hlow⟩
    · rintro ⟨⟨n, hn, rfl⟩, hlow⟩
      have hhigh := (List.getElem?_eq_some_iff.1 hn).1
      exact ⟨⟨hlow, Int.ofNat_lt.2 hhigh⟩, (holdsAt_natCast t x n).2 hn⟩

private theorem columnsLeft_filter :
    (columnsLeft column).filter (holdsAt t [x]) = (columnsOf t x).reverse.filter (· < column) := by
  apply List.Pairwise.eq_of_mem_iff (r := (· > ·))
  · refine (List.pairwise_map.2 ((List.pairwise_reverse.2 List.pairwise_lt_range).imp fun h => ?_)).filter _
    exact Int.ofNat_lt.2 h
  · exact (List.pairwise_reverse.2 (columnsOf_pairwise t x)).filter _
  · intro i
    simp only [List.mem_filter, mem_columnsLeft, List.mem_reverse, mem_columnsOf, decide_eq_true_eq]
    constructor
    · rintro ⟨⟨hlow, hhigh⟩, hheld⟩
      obtain ⟨n, rfl⟩ := Int.eq_ofNat_of_zero_le hlow
      exact ⟨⟨n, (holdsAt_natCast t x n).1 hheld, rfl⟩, hhigh⟩
    · rintro ⟨⟨n, hn, rfl⟩, hhigh⟩
      exact ⟨⟨Int.natCast_nonneg n, hhigh⟩, (holdsAt_natCast t x n).2 hn⟩

theorem wordStarts_pairwise (line : Text) (big : Bool) :
    ((wordRuns line big).map fun word => (word.start : Int)).Pairwise (· < ·) := by
  refine List.pairwise_map.2 ((wordRuns_pairwise line big).imp_of_mem ?_)
  intro first second hfirst _ hgap
  have hnonempty := (mem_wordRuns_iff.1 hfirst).nonempty
  omega

theorem wordEnds_pairwise (line : Text) (big : Bool) :
    ((wordRuns line big).map Run.last).Pairwise (· < ·) := by
  refine List.pairwise_map.2 ((wordRuns_pairwise line big).imp_of_mem ?_)
  intro first second _ hsecond hgap
  have hnonempty := (mem_wordRuns_iff.1 hsecond).nonempty
  simp only [Run.last]
  omega

end

namespace Motion

variable {motion : Motion} {line : Text} {column goal : Int} {rest : List Int}

/-! ### What a motion reaches -/

theorem nextWordStart?_eq_head (line : Text) (column : Int) (big : Bool) :
    nextWordStart? line column big = ((wordStart big).goals line column).head? := by
  rw [nextWordStart?, goals, List.head?_filter, List.find?_map]
  rfl

theorem previousWordStart?_eq_head (line : Text) (column : Int) (big : Bool) :
    previousWordStart? line column big = ((wordBack big).goals line column).head? := by
  rw [previousWordStart?, goals, List.head?_map, List.head?_filter]

theorem wordEnd?_eq_head (line : Text) (column : Int) (big : Bool) :
    wordEnd? line column big = ((wordEnd big).goals line column).head? := by
  rw [wordEnd?, goals, List.head?_filter, List.find?_map]
  have hsame : (wordRuns line big).find? (fun word => column < word.start || word.contains column) =
      (wordRuns line big).find? ((column ≤ ·) ∘ Run.last) := by
    apply List.find?_congr
    intro word hword
    have hnonempty := (mem_wordRuns_iff.1 hword).nonempty
    rw [Bool.eq_iff_iff]
    simp only [Run.contains, Function.comp_apply, Bool.or_eq_true, Bool.and_eq_true, decide_eq_true_eq]
    rw [Run.last]
    omega
  rw [hsame]

theorem findChar_eq_head (s : CharSearch) (hlow : -1 ≤ column) (hhigh : column ≤ line.length) :
    findChar line column [s.char] s.forward s.till = .ok ((search s).goals line column).head? := by
  obtain ⟨x, forward, till⟩ := s
  cases forward with
  | true =>
    rw [findChar, if_pos rfl, if_neg (by omega), goals, if_pos rfl, List.head?_map, ← columnsRight_filter hlow,
      List.head?_filter]
  | false =>
    rw [findChar, if_neg Bool.false_ne_true, if_neg (by omega), goals, if_neg Bool.false_ne_true,
      List.head?_map, ← columnsLeft_filter, List.head?_filter]

theorem targetColumn_eq_head (motion : Motion) (hon : OnLine line column) :
    motion.targetColumn column line = .ok (motion.goals line column).head? := by
  obtain ⟨hlow, hhigh⟩ := hon
  cases motion with
  | search s => exact findChar_eq_head s (by omega) hhigh
  | wordStart big => rw [targetColumn, nextWordStart?_eq_head]
  | wordBack big => rw [targetColumn, previousWordStart?_eq_head]
  | wordEnd big => rw [targetColumn, wordEnd?_eq_head]
  | lineStart => rfl
  | firstNonBlank => rfl
  | lineEnd => rfl

/-- From where a repeated motion looks again, it is after the columns behind the one it has reached. -/
theorem goals_stride (hrepeats : motion.repeats = true) (h : motion.goals line column = goal :: rest) :
    motion.goals line (goal + motion.stride) = rest := by
  -- each motion filters a list that is in order; one stride past the first entry, the filter keeps what is behind
  -- it
  cases motion with
  | search s =>
    obtain ⟨x, forward, till⟩ := s
    cases forward with
    | true =>
      obtain ⟨i, is, hfound, hgoal, rfl⟩ := List.map_eq_cons_iff.1 h
      have hnext : goal + stride (.search ⟨x, true, till⟩) = i := by
        rw [← hgoal]
        cases till with
        | true => exact Int.sub_add_cancel i 1
        | false => exact Int.add_zero i
      rw [hnext, goals, if_pos rfl]
      exact congrArg _ (filter_lt_rest (columnsOf_pairwise line x) hfound)
    | false =>
      obtain ⟨i, is, hfound, hgoal, rfl⟩ := List.map_eq_cons_iff.1 h
      have hnext : goal + stride (.search ⟨x, false, till⟩) = i := by
        rw [← hgoal]
        cases till with
        | true => exact Int.add_sub_cancel i 1
        | false => exact Int.add_zero i
      have hmem : i ∈ (columnsOf line x).reverse.filter (· < column) := hfound ▸ List.mem_cons_self
      have hi : i < column := of_decide_eq_true (List.mem_filter.1 hmem).2
      rw [hnext, goals, if_neg Bool.false_ne_true]
      congr 1
      refine filter_rest (List.pairwise_reverse.2 (columnsOf_pairwise line x)) hfound ?_ ?_ ?_
      · intro j _ hj
        exact decide_eq_false (by omega)
      · exact decide_eq_false (Int.lt_irrefl i)
      · intro j _ hj
        exact decide_eq_decide.2 ⟨fun _ => by omega, fun _ => hj⟩
  | wordStart big =>
    have hnext : goal + stride (.wordStart big) = goal := Int.add_zero goal
    rw [hnext, goals]
    exact filter_lt_rest (wordStarts_pairwise line big) h
  | wordBack big =>
    obtain ⟨word, words, hfound, rfl, rfl⟩ := List.map_eq_cons_iff.1 h
    have hword := List.mem_filter.1 (hfound ▸ List.mem_cons_self)
    have hnonempty := (mem_wordRuns_iff.1 (List.mem_reverse.1 hword.1)).nonempty
    have hstop : (word.stop : Int) ≤ column := by simpa using hword.2
    have hnext : (word.start : Int) + stride (.wordBack big) = word.start := Int.add_zero _
    rw [hnext, goals]
    congr 1
    refine filter_rest (List.pairwise_reverse.2 (wordRuns_pairwise line big)) hfound ?_ ?_ ?_
    · intro other hother hgap
      have hother := (mem_wordRuns_iff.1 (List.mem_reverse.1 hother)).nonempty
      exact decide_eq_false (by omega)
    · exact decide_eq_false (by omega)
    · intro other _ hgap
      exact decide_eq_decide.2 ⟨fun _ => by omega, fun _ => by omega⟩
  | wordEnd big =>
    rw [goals] at h
    have hnext : goal + stride (.wordEnd big) = goal + 1 := rfl
    have hmem : goal ∈ ((wordRuns line big).map Run.last).filter (column ≤ ·) := h ▸ List.mem_cons_self
    have hgoal : column ≤ goal := of_decide_eq_true (List.mem_filter.1 hmem).2
    rw [hnext, goals]
    refine filter_rest (wordEnds_pairwise line big) h ?_ ?_ ?_
    · intro i _ hi
      exact decide_eq_false (by omega)
    · exact decide_eq_false (by omega)
    · intro i _ hi
      exact decide_eq_decide.2 ⟨fun _ => by omega, fun _ => by omega⟩
  | lineStart => cases hrepeats
  | firstNonBlank => cases hrepeats
  | lineEnd => cases hrepeats

theorem goals_pairwise (motion : Motion) (line : Text) (column : Int) :
    (motion.goals line column).Pairwise fun near far => (near - column).natAbs < (far - column).natAbs := by
  -- the lists that are filtered run away from the cursor, and a filter keeps their order
  cases motion with
  | search s =>
    obtain ⟨x, forward, till⟩ := s
    cases forward with
    | true =>
      refine List.pairwise_map.2 (((columnsOf_pairwise line x).filter _).imp_of_mem ?_)
      intro near far hnear _ hless
      have hright : column < near := of_decide_eq_true (List.mem_filter.1 hnear).2
      cases till <;> simp <;> omega
    | false =>
      refine List.pairwise_map.2
        (((List.pairwise_reverse.2 (columnsOf_pairwise line x)).filter _).imp_of_mem ?_)
      intro near far hnear _ hless
      have hleft : near < column := of_decide_eq_true (List.mem_filter.1 hnear).2
      cases till <;> simp <;> omega
  | wordStart big =>
    refine ((wordStarts_pairwise line big).filter _).imp_of_mem ?_
    intro near far hnear _ hless
    have hright : column < near := of_decide_eq_true (List.mem_filter.1 hnear).2
    omega
  | wordBack big =>
    refine List.pairwise_map.2
      (((List.pairwise_reverse.2 (wordRuns_pairwise line big)).filter _).imp_of_mem ?_)
    intro near far hnear hfar hgap
    obtain ⟨hword, hleft⟩ := List.mem_filter.1 hnear
    have hnonempty := (mem_wordRuns_iff.1 (List.mem_reverse.1 hword)).nonempty
    have hfarNonempty := (mem_wordRuns_iff.1 (List.mem_reverse.1 (List.mem_filter.1 hfar).1)).nonempty
    have hstop : (near.stop : Int) ≤ column := of_decide_eq_true hleft
    omega
  | wordEnd big =>
    refine ((wordEnds_pairwise line big).filter _).imp_of_mem ?_
    intro near far hnear _ hless
    have hright : column ≤ near := of_decide_eq_true (List.mem_filter.1 hnear).2
    omega
  | lineStart => exact List.pairwise_singleton _ _
  | firstNonBlank => exact List.pairwise_singleton _ _
  | lineEnd => exact List.pairwise_singleton _ _

end Motion
end ModalEditor
