import ModalEditor.ObjectBounds
import ModalEditor.Proofs.Scans
/-!
# Pairs of brackets

The bracket depth rises at an opening bracket and falls at a closing one, but not below zero. A top-level pair is
an opening bracket at depth zero with the first bracket behind it that brings the depth back to zero. The scan of a
line finds these pairs, each of them once, and no two of them overlap. So at most one lies around a column, and it
is what a bracketed object is. Inside a pair no closing bracket comes too early, so the depth there counts the
opening brackets less the closing ones.
-/
namespace ModalEditor

/-- The bracket depth behind one more character. At depth zero a closing bracket closes nothing. -/
def deepen (opening closing : Char) (depth : Nat) (c : Char) : Nat :=
  if c = opening then depth + 1 else if c = closing then depth - 1 else depth

/-- The bracket depth in front of a column. -/
def depthAt (opening closing : Char) (t : Text) (column : Nat) : Nat :=
  (t.take column).foldl (deepen opening closing) 0

/-- An opening bracket met at depth zero, with no depth zero behind it up to a column. -/
structure Unclosed (opening closing : Char) (t : Text) (first column : Nat) : Prop where
  before : first < column
  opens : t[first]? = some opening
  outside : depthAt opening closing t first = 0
  inside : ∀ k, first < k → k ≤ column → depthAt opening closing t k ≠ 0

/-- An opening bracket met at depth zero, and the first column behind it at which the depth is back to zero. -/
structure TopPair (opening closing : Char) (t : Text) (pair : Nat × Nat) : Prop extends
    Unclosed opening closing t pair.1 pair.2 where
  closes : depthAt opening closing t (pair.2 + 1) = 0

section

variable {opening closing : Char} {t : Text} {pair other : Nat × Nat} {column first second : Nat} {c : Char}

private theorem depthAt_succ (h : t[column]? = some c) :
    depthAt opening closing t (column + 1) = deepen opening closing (depthAt opening closing t column) c := by
  rw [depthAt, List.take_add_one, h, Option.toList_some, List.foldl_append]
  rfl

private theorem depthAt_of_length_le (h : t.length ≤ column) :
    depthAt opening closing t (column + 1) = depthAt opening closing t column := by
  rw [depthAt, depthAt, List.take_of_length_le h, List.take_of_length_le (Nat.le_succ_of_le h)]

private theorem Unclosed.eq (h : Unclosed opening closing t first column)
    (h' : Unclosed opening closing t second column) : first = second := by
  rcases Nat.lt_trichotomy first second with hless | hsame | hless
  · exact absurd h'.outside (h.inside second hless (Nat.le_of_lt h'.before))
  · exact hsame
  · exact absurd h.outside (h'.inside first hless (Nat.le_of_lt h.before))

theorem Unclosed.succ (h : Unclosed opening closing t first column)
    (hdeep : depthAt opening closing t (column + 1) ≠ 0) : Unclosed opening closing t first (column + 1) := by
  refine ⟨Nat.lt_succ_of_lt h.before, h.opens, h.outside, fun k hk hle => ?_⟩
  rcases Nat.le_succ_iff.1 hle with hle | rfl
  · exact h.inside k hk hle
  · exact hdeep

namespace TopPair

private theorem depth_ne_zero (h : TopPair opening closing t pair) : depthAt opening closing t pair.2 ≠ 0 :=
  h.inside pair.2 h.before (Nat.le_refl _)

theorem stop_lt (h : TopPair opening closing t pair) : pair.2 < t.length := by
  refine Nat.lt_of_not_le fun hend => h.depth_ne_zero ?_
  rw [← depthAt_of_length_le hend]
  exact h.closes

theorem closing_at (h : TopPair opening closing t pair) : t[pair.2]? = some closing := by
  obtain ⟨c, hc⟩ : ∃ c, t[pair.2]? = some c := ⟨_, List.getElem?_eq_getElem h.stop_lt⟩
  have hback := h.closes
  have hdeep := h.depth_ne_zero
  rw [depthAt_succ hc, deepen] at hback
  split at hback
  · cases hback
  · split at hback
    · next hclosing => rw [hc, hclosing]
    · exact absurd hback hdeep

private theorem and_succ_le_iff
    (hstays : depthAt opening closing t (column + 1) = 0 → depthAt opening closing t column = 0) :
    TopPair opening closing t pair ∧ column + 1 ≤ pair.2 ↔ TopPair opening closing t pair ∧ column ≤ pair.2 := by
  refine and_congr_right fun h => ⟨Nat.le_of_succ_le, fun hle => Nat.lt_of_le_of_ne hle ?_⟩
  rintro rfl
  exact h.depth_ne_zero (hstays h.closes)

private theorem disjoint (h : TopPair opening closing t pair) (h' : TopPair opening closing t other) :
    pair = other ∨ pair.2 < other.1 ∨ other.2 < pair.1 := by
  rcases Nat.lt_trichotomy pair.1 other.1 with hless | hsame | hless
  · refine .inr (.inl (Nat.lt_of_not_le fun hle => ?_))
    exact h.inside other.1 hless hle h'.outside
  · refine .inl (Prod.ext hsame ?_)
    have hbefore := h.before
    have hbefore' := h'.before
    rcases Nat.lt_trichotomy pair.2 other.2 with hless | hstop | hless
    · exact absurd h.closes (h'.inside (pair.2 + 1) (by omega) hless)
    · exact hstop
    · exact absurd h'.closes (h.inside (other.2 + 1) (by omega) hless)
  · refine .inr (.inr (Nat.lt_of_not_le fun hle => ?_))
    exact h'.inside pair.1 hless hle h.outside

end TopPair

/-! ### The scan -/

/-- From any column on, the scan finds the top-level pairs that do not end before it, if its stack is as high as the
depth there and stands on the bracket at depth zero that is not closed yet. -/
theorem mem_topPairs_iff {opened : List Nat} (hdepth : depthAt opening closing t column = opened.length)
    (houter : ∀ outer ∈ opened.getLast?, Unclosed opening closing t outer column) :
    pair ∈ topPairs opening closing column opened (t.drop column) ↔
      TopPair opening closing t pair ∧ column ≤ pair.2 := by
  generalize hrest : t.drop column = rest
  induction rest generalizing column opened with
  | nil =>
    have hlength : t.length ≤ column := List.drop_eq_nil_iff.1 hrest
    simp only [topPairs, List.not_mem_nil, false_iff]
    rintro ⟨h, hcolumn⟩
    have hstop := h.stop_lt
    omega
  | cons c rest ih =>
    obtain ⟨hc, hnext⟩ := of_drop_eq_cons hrest
    have hdeepen : depthAt opening closing t (column + 1) = deepen opening closing opened.length c := by
      rw [depthAt_succ hc, hdepth]
    unfold topPairs
    split
    · next hopening =>
      rw [deepen, if_pos hopening] at hdeepen
      have hdeep : depthAt opening closing t (column + 1) ≠ 0 := by omega
      rw [ih hdeepen ?_ hnext, TopPair.and_succ_le_iff fun hzero => absurd hzero hdeep]
      intro outer hlast
      cases opened with
      | nil =>
        -- the bracket is met at depth zero
        obtain rfl := Option.some.inj hlast
        refine ⟨Nat.lt_succ_self _, hopening ▸ hc, hdepth, fun k hk hle => ?_⟩
        rw [Nat.le_antisymm hle hk]
        exact hdeep
      | cons last below =>
        rw [List.getLast?_cons_cons] at hlast
        exact (houter outer hlast).succ hdeep
    · next hopening =>
      rw [deepen, if_neg hopening] at hdeepen
      split
      · next hclosing =>
        rw [if_pos hclosing] at hdeepen
        cases opened with
        | nil => exact (ih hdeepen (by simp) hnext).trans (TopPair.and_succ_le_iff fun _ => hdepth)
        | cons last below =>
          rw [List.length_cons, Nat.add_sub_cancel] at hdeepen
          dsimp only
          split
          · next hbelow =>
            -- the stack is left empty, so the pair that closes is at the top level
            subst hbelow
            have hunclosed : Unclosed opening closing t last column := houter last rfl
            rw [List.mem_cons, ih hdeepen (by simp) hnext]
            constructor
            · rintro (rfl | ⟨h, hle⟩)
              · exact ⟨⟨hunclosed, hdeepen⟩, Nat.le_refl column⟩
              · exact ⟨h, Nat.le_of_succ_le hle⟩
            · rintro ⟨h, hle⟩
              rcases Nat.eq_or_lt_of_le hle with rfl | hless
              · exact .inl (Prod.ext (h.toUnclosed.eq hunclosed) rfl)
              · exact .inr ⟨h, hless⟩
          · next hbelow =>
            have hdeep : depthAt opening closing t (column + 1) ≠ 0 := by
              rw [hdeepen]
              exact mt List.length_eq_zero_iff.1 hbelow
            rw [ih hdeepen ?_ hnext, TopPair.and_succ_le_iff fun hzero => absurd hzero hdeep]
            intro outer hlast
            obtain ⟨next, rest, rfl⟩ := List.exists_cons_of_ne_nil hbelow
            have hsame : outer ∈ (last :: next :: rest).getLast? := by
              rwa [List.getLast?_cons_cons]
            exact (houter outer hsame).succ hdeep
      · next hclosing =>
        rw [if_neg hclosing] at hdeepen
        rw [ih hdeepen ?_ hnext, TopPair.and_succ_le_iff fun hzero => by rw [hdepth, ← hdeepen, hzero]]
        intro outer hlast
        have hopened : opened ≠ [] := by
          rintro rfl
          cases hlast
        apply (houter outer hlast).succ
        rw [hdeepen]
        exact mt List.length_eq_zero_iff.1 hopened

theorem mem_topPairs_line :
    pair ∈ topPairs opening closing 0 [] t ↔ TopPair opening closing t pair := by
  have hscan := @mem_topPairs_iff opening closing t pair 0 [] rfl (by simp)
  rw [List.drop_zero] at hscan
  rw [hscan]
  exact and_iff_left (Nat.zero_le _)

theorem pairAround?_topPairs_iff {column : Int} :
    pairAround? (topPairs opening closing 0 [] t) column = some pair ↔
      TopPair opening closing t pair ∧ pair.1 ≤ column ∧ column ≤ pair.2 := by
  rw [pairAround?, find?_eq_some_iff_mem, mem_topPairs_line, Bool.and_eq_true, decide_eq_true_eq, decide_eq_true_eq]
  intro p hp q hq hcolumn hcolumn'
  simp only [Bool.and_eq_true, decide_eq_true_eq] at hcolumn hcolumn'
  rcases (mem_topPairs_line.1 hp).disjoint (mem_topPairs_line.1 hq) with hsame | hless | hless
  · exact hsame
  · omega
  · omega

/-! ### Inside a pair -/

private theorem Unclosed.count_eq (hdiffer : opening ≠ closing) (h : Unclosed opening closing t first column)
    (stop : Nat) (hfirst : first < stop) (hstop : stop ≤ column + 1) (hline : stop ≤ t.length) :
    ((t.take stop).drop first).count opening =
      ((t.take stop).drop first).count closing + depthAt opening closing t stop := by
  -- on the stretch from its opening bracket on; inside it a closing bracket always lowers the depth
  induction hfirst with
  | refl =>
    have hnone : (t.take first).drop first = [] := List.drop_eq_nil_of_le (List.length_take_le _ _)
    rw [drop_take_succ (Nat.le_refl first) h.opens, depthAt_succ h.opens, h.outside, hnone]
    simp [deepen, hdiffer]
  | @step stop hle ih =>
    have hbefore : ((t.take stop).drop first).count opening =
        ((t.take stop).drop first).count closing + depthAt opening closing t stop :=
      ih (Nat.le_of_succ_le hstop) (Nat.le_of_succ_le hline)
    have hdeep : depthAt opening closing t stop ≠ 0 := h.inside stop hle (by omega)
    obtain ⟨c, hc⟩ : ∃ c, t[stop]? = some c := ⟨_, List.getElem?_eq_getElem hline⟩
    rw [drop_take_succ (Nat.le_of_lt hle) hc, depthAt_succ hc, List.count_append, List.count_append,
      hbefore, deepen]
    split
    · next hopening =>
      have hother : c ≠ closing := fun hclosing => hdiffer (hopening.symm.trans hclosing)
      simp [hopening, hdiffer]
      omega
    · next hopening =>
      split
      · next hclosing =>
        simp [hclosing, Ne.symm hdiffer]
        omega
      · next hclosing => simp [hopening, hclosing]

private theorem TopPair.count_lt (hdiffer : opening ≠ closing) (h : TopPair opening closing t pair) {part : Text}
    (hpart : part <+: (t.take (pair.2 + 1)).drop pair.1) (hsome : part ≠ [])
    (hproper : part ≠ (t.take (pair.2 + 1)).drop pair.1) : part.count closing < part.count opening := by
  have hlength : ((t.take (pair.2 + 1)).drop pair.1).length = pair.2 + 1 - pair.1 := by
    rw [List.length_drop, List.length_take_of_le h.stop_lt]
  have hbefore := h.before
  have hshorter : part.length < pair.2 + 1 - pair.1 := by
    rw [← hlength]
    exact Nat.lt_of_le_of_ne hpart.length_le fun hsame => hproper (hpart.eq_of_length hsame)
  have hpos : 0 < part.length := List.length_pos_iff.2 hsome
  have hstop : pair.1 + part.length ≤ pair.2 := by omega
  have htaken : part = (t.take (pair.1 + part.length)).drop pair.1 := calc
    part = ((t.take (pair.2 + 1)).drop pair.1).take part.length := List.prefix_iff_eq_take.1 hpart
    _ = ((t.take (pair.2 + 1)).take (pair.1 + part.length)).drop pair.1 := List.take_drop
    _ = (t.take (pair.1 + part.length)).drop pair.1 := by rw [List.take_take, Nat.min_eq_left (by omega)]
  have hcount := h.toUnclosed.count_eq hdiffer (pair.1 + part.length) (by omega) (by omega)
    (Nat.le_trans hstop (Nat.le_of_lt h.stop_lt))
  have hdeep := h.inside (pair.1 + part.length) (by omega) hstop
  rw [← htaken] at hcount
  omega

private theorem TopPair.count_eq (hdiffer : opening ≠ closing) (h : TopPair opening closing t pair) :
    ((t.take (pair.2 + 1)).drop pair.1).count opening =
      ((t.take (pair.2 + 1)).drop pair.1).count closing := by
  have hcount := h.toUnclosed.count_eq hdiffer (pair.2 + 1) (Nat.lt_succ_of_lt h.before) (Nat.le_refl _) h.stop_lt
  rwa [h.closes, Nat.add_zero] at hcount

end

/-! ### Bracketed objects -/

namespace TextObject

variable {o : TextObject} {opening closing : Char} {line : Text} {column row : Int} {found : Found}

private theorem delimiters_ne (h : o.kind.delimiters? = some (opening, closing)) : opening ≠ closing := by
  unfold ObjectKind.delimiters? at h
  split at h <;> cases h <;> decide

theorem not_word_of_delimiters (h : o.kind.delimiters? = some (opening, closing)) :
    o.kind ≠ .word ∧ o.kind ≠ .bigWord := by
  constructor <;> intro hkind <;> rw [hkind] at h <;> cases h

theorem bounds?_eq_delimiters (hword : o.kind ≠ .word) (hbig : o.kind ≠ .bigWord) :
    o.bounds? line column = (o.delimitersAt? line column).map fun pair =>
      if o.around then ((pair.1 : Int), (pair.2 : Int)) else ((pair.1 : Int) + 1, (pair.2 : Int) - 1) := by
  unfold bounds?
  split
  · next hkind => exact absurd hkind hword
  · next hkind => exact absurd hkind hbig
  · rfl

theorem find?_around_eq (hword : o.kind ≠ .word) (hbig : o.kind ≠ .bigWord) (haround : o.around = true) :
    o.find? line column row = (o.delimitersAt? line column).map fun pair =>
      ⟨⟨⟨row, pair.1⟩, ⟨row, pair.2⟩⟩, (line.take (pair.2 + 1)).drop pair.1⟩ := by
  rw [find?, bounds?_eq_delimiters hword hbig, Option.map_map, haround]
  congr 1
  funext pair
  exact congrArg (Found.mk _) (Slice.between_natCast line pair.1 (pair.2 + 1))

private theorem find?_around_iff (hkind : o.kind.delimiters? = some (opening, closing)) (haround : o.around = true) :
    o.find? line column row = some found ↔
      ∃ pair, TopPair opening closing line pair ∧ pair.1 ≤ column ∧ column ≤ pair.2 ∧
        found = ⟨⟨⟨row, pair.1⟩, ⟨row, pair.2⟩⟩, (line.take (pair.2 + 1)).drop pair.1⟩ := by
  obtain ⟨hword, hbig⟩ := not_word_of_delimiters hkind
  rw [find?_around_eq hword hbig haround, delimitersAt?, hkind, Option.map_eq_some_iff]
  simp only [pairAround?_topPairs_iff, and_assoc, eq_comm]

/-- No two top-level pairs of a line overlap. A bracketed object with its brackets is the one around the column, and
there is no such object exactly if there is no such pair. As many brackets close in it as open, and no part of it
from its beginning is balanced before it ends. -/
theorem reported_around_topPair (hkind : o.kind.delimiters? = some (opening, closing))
    (haround : o.around = true) (line : Text) (column row : Int) :
    (∀ pair other, TopPair opening closing line pair → TopPair opening closing line other →
      pair = other ∨ pair.2 < other.1 ∨ other.2 < pair.1) ∧
    ∃ answer, (o.reported line column row).value = .ok answer ∧
      (∀ found, answer = some found ↔
        ∃ pair, TopPair opening closing line pair ∧ pair.1 ≤ column ∧ column ≤ pair.2 ∧
          found = ⟨⟨⟨row, pair.1⟩, ⟨row, pair.2⟩⟩, (line.take (pair.2 + 1)).drop pair.1⟩) ∧
      (answer = none ↔
        ∀ pair, TopPair opening closing line pair → ¬((pair.1 : Int) ≤ column ∧ column ≤ pair.2)) ∧
      ∀ found, answer = some found →
        found.text.count opening = found.text.count closing ∧
        ∀ part, part <+: found.text → part ≠ [] → part ≠ found.text →
          part.count closing < part.count opening := by
  refine ⟨fun pair other h h' => h.disjoint h', _, value_reported o line column row, ?_, ?_, ?_⟩
  · intro found
    exact find?_around_iff hkind haround
  · rw [Option.eq_none_iff_forall_ne_some]
    constructor
    · rintro hnone pair h ⟨hlow, hhigh⟩
      exact hnone _ ((find?_around_iff hkind haround).2 ⟨pair, h, hlow, hhigh, rfl⟩)
    · intro hall found hfound
      obtain ⟨pair, h, hlow, hhigh, -⟩ := (find?_around_iff hkind haround).1 hfound
      exact hall pair h ⟨hlow, hhigh⟩
  · intro found hfound
    obtain ⟨pair, h, -, -, rfl⟩ := (find?_around_iff hkind haround).1 hfound
    have hdiffer := delimiters_ne hkind
    exact ⟨h.count_eq hdiffer, fun part => h.count_lt hdiffer⟩

/-- In front of the pair a bracket closes nothing, behind it one is not closed, and in it there is another pair. -/
theorem reported_around_topPair_nested :
    let o : TextObject := ⟨.paren, true, none, by decide⟩
    let line : Text := [')', '(', 'a', '(', 'b', ')', ')', '(']
    o.kind.delimiters? = some ('(', ')') ∧ o.around = true ∧ TopPair '(' ')' line (1, 6) ∧
      (o.reported line 4 0).value =
        .ok (some ⟨⟨⟨0, 1⟩, ⟨0, 6⟩⟩, ['(', 'a', '(', 'b', ')', ')']⟩) := by
  intro o line
  have hpair : TopPair '(' ')' line (1, 6) := by
    have hinside : ∀ k, k ≤ 6 → 1 < k → depthAt '(' ')' line k ≠ 0 := by decide
    exact ⟨⟨by decide, rfl, rfl, fun k hlow hhigh => hinside k hhigh hlow⟩, rfl⟩
  obtain ⟨-, answer, hanswer, hfound, -⟩ := reported_around_topPair (o := o) rfl rfl line 4 0
  refine ⟨rfl, rfl, hpair, ?_⟩
  rw [hanswer, (hfound _).2 ⟨(1, 6), hpair, by decide, by decide, rfl⟩]
  rfl

end TextObject

end ModalEditor
