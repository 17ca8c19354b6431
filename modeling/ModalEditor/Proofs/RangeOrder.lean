import ModalEditor.Proofs.ObjectVariants
import ModalEditor.Proofs.Totality
/-!
# Order of ranges

The ranges of motions, what operators take of them, and whole lines all begin no later than they end. Text objects
do so as well, with one exception: an inner object with nothing between its delimiters begins behind its end. Its
text is empty.
-/
namespace ModalEditor

/-! ### Motions and whole lines -/

section

variable {keys line : Text} {position : Position} {range part : Range}

private theorem Motion.reach_ordered (h : reach keys position line = .ok (some range)) : range.Ordered := by
  obtain ⟨found, -, hrange⟩ := bind_eq_ok_iff.1 h
  obtain ⟨next, -, rfl⟩ := Option.map_eq_some_iff.1 (Except.ok.inj hrange)
  exact Range.between_ordered position next

private theorem Motion.operatorRange_ordered (hordered : range.Ordered) (h : operatorRange keys range = some part) :
    part.Ordered := by
  unfold operatorRange at h
  split at h
  · split at h
    · cases h
    · next hsome =>
      obtain rfl := Option.some.inj h
      simp only [Range.Ordered, Position.le_def, Position.withColumn] at hordered ⊢
      omega
  · obtain rfl := Option.some.inj h
    exact hordered

private theorem linewiseRange_ordered {lines : List Text} {row : Nat} (hrow : row < lines.length) (column count : Int) :
    ∃ range, linewiseRange ⟨row, column⟩ lines count = .ok range ∧ range.Ordered := by
  obtain ⟨last, stop, hlast, -, -, hrange⟩ :=
    linewiseRange_row (List.getElem?_eq_getElem hrow) column count
  refine ⟨_, hrange, ?_⟩
  simp only [Range.Ordered, Position.le_def]
  omega

end

/-! ### Text objects -/

namespace TextObject

/-- An inner object whose two delimiters stand next to each other. -/
def Hollow (o : TextObject) (line : Text) (column : Int) : Prop :=
  o.around = false ∧ o.kind ≠ .word ∧ o.kind ≠ .bigWord ∧ ∃ i, o.delimitersAt? line column = some (i, i + 1)

variable {o : TextObject} {line : Text} {column row : Int} {found : Found}

private theorem hollow_iff (hword : o.kind ≠ .word) (hbig : o.kind ≠ .bigWord) (hinner : o.around = false)
    {pair : Nat × Nat} (hpair : o.delimitersAt? line column = some pair) :
    o.Hollow line column ↔ pair.2 = pair.1 + 1 := by
  constructor
  · rintro ⟨-, -, -, i, hi⟩
    obtain rfl := Option.some.inj (hpair.symm.trans hi)
    rfl
  · intro hnext
    exact ⟨hinner, hword, hbig, pair.1, hnext ▸ hpair⟩

private theorem find?_ordered_iff (h : o.find? line column row = some found) :
    (found.range.Ordered ↔ ¬o.Hollow line column) ∧
      (o.Hollow line column → found.text = [] ∧
        found.range.stop = found.range.start.withColumn (found.range.start.column - 1)) := by
  -- only an inner object between two delimiters can be empty
  by_cases hkind : o.kind = .word ∨ o.kind = .bigWord
  · have hfull : ¬o.Hollow line column := fun ⟨_, hword, hbig, _⟩ => hkind.elim hword hbig
    refine ⟨iff_of_true ?_ hfull, fun hhollow => absurd hhollow hfull⟩
    obtain ⟨bounds, hbounds, rfl⟩ := Option.map_eq_some_iff.1 h
    refine .inr ⟨rfl, ?_⟩
    rcases hkind with hkind | hkind
    · simp only [bounds?, hkind] at hbounds
      exact (wordBounds?_onLine hbounds).2.2
    · simp only [bounds?, hkind] at hbounds
      exact (wordBounds?_onLine hbounds).2.2
  · obtain ⟨hword, hbig⟩ := not_or.1 hkind
    cases haround : o.around with
    | true =>
      have hfull : ¬o.Hollow line column := fun hhollow => by
        rw [Hollow, haround] at hhollow
        cases hhollow.1
      rw [find?_around_eq hword hbig haround] at h
      obtain ⟨pair, hpair, rfl⟩ := Option.map_eq_some_iff.1 h
      have hless := (delimitersAt?_lt hpair).1
      refine ⟨iff_of_true (.inr ⟨rfl, ?_⟩) hfull, fun hhollow => absurd hhollow hfull⟩
      simp only
      omega
    | false =>
      rw [find?_inner_eq hword hbig haround] at h
      obtain ⟨pair, hpair, rfl⟩ := Option.map_eq_some_iff.1 h
      have hless := (delimitersAt?_lt hpair).1
      rw [hollow_iff hword hbig haround hpair]
      constructor
      · simp only [Range.Ordered, Position.le_def, Int.lt_irrefl, false_or, true_and]
        omega
      · intro hnext
        refine ⟨List.drop_eq_nil_of_le ?_, ?_⟩
        · rw [← hnext]
          exact List.length_take_le _ _
        · simp only [Position.withColumn, hnext]
          congr 1

end TextObject

/-! ### All ranges -/

/-- The range of a motion runs forward, and so does what an operator takes of it. Whole lines from a row of the
buffer run forward. A text object runs forward exactly if it is not an inner one between two delimiters that stand
next to each other. Its text is empty then, and it ends right before it begins. -/
theorem ranges_ordered (keys : Text) {line : Text} {position : Position} (hon : OnLine line position.column)
    {lines : List Text} {row : Nat} (hrow : row < lines.length) (first count : Int) (o : TextObject)
    (column label : Int) :
    (∃ answer, (Motion.reported keys position line).value = .ok answer ∧
      ∀ range ∈ answer, range.Ordered ∧ ∀ part ∈ Motion.operatorRange keys range, part.Ordered) ∧
    (∃ range, linewiseRange ⟨row, first⟩ lines count = .ok range ∧ range.Ordered) ∧
    ∃ answer, (o.reported line column label).value = .ok answer ∧
      ∀ found ∈ answer, (found.range.Ordered ↔ ¬o.Hollow line column) ∧
        (o.Hollow line column → found.text = [] ∧
          found.range.stop = found.range.start.withColumn (found.range.start.column - 1)) := by
  refine ⟨?_, linewiseRange_ordered hrow first count, _, TextObject.value_reported o line column label, ?_⟩
  · obtain ⟨answer, hanswer⟩ := @Motion.reach_total keys line position hon
    refine ⟨answer, (Motion.value_reported keys position line).trans hanswer, ?_⟩
    rintro range rfl
    have hordered := Motion.reach_ordered hanswer
    exact ⟨hordered, fun part hpart => Motion.operatorRange_ordered hordered hpart⟩
  · intro found hfound
    exact TextObject.find?_ordered_iff hfound

/-- The next word lies to the right, three lines are asked for where there is one, and one character stands in the
brackets. -/
theorem ranges_ordered_words :
    let line : Text := ['a', ' ', '(', 'b', ')']
    let o : TextObject := ⟨.paren, false, none, by decide⟩
    OnLine line 0 ∧ 0 < [line].length ∧
      (∃ answer, (Motion.reported ['w'] ⟨0, 0⟩ line).value = .ok (some answer) ∧ answer.Ordered) ∧
      (∃ range, linewiseRange ⟨0, 4⟩ [line] 3 = .ok range ∧ range.Ordered) ∧
      ¬o.Hollow line 4 ∧
      ∃ found, (o.reported line 4 0).value = .ok (some found) ∧ found.range.Ordered := by
  intro line o
  have hon : OnLine line (⟨0, 0⟩ : Position).column := ⟨by decide, by decide⟩
  have hrow : 0 < [line].length := Nat.one_pos
  have hfull : ¬o.Hollow line 4 := by
    rintro ⟨-, -, -, i, hi⟩
    have hpair : o.delimitersAt? line 4 = some (2, 4) := rfl
    cases hpair.symm.trans hi
  obtain ⟨⟨answer, hanswer, hall⟩, hlines, found, hfound, hobject⟩ :=
    ranges_ordered ['w'] hon hrow 4 3 o 4 0
  have hmotion : answer = some ⟨⟨0, 0⟩, ⟨0, 3⟩⟩ := Except.ok.inj (hanswer.symm.trans rfl)
  have hpiece : found = some ⟨⟨⟨0, 3⟩, ⟨0, 3⟩⟩, ['b']⟩ := Except.ok.inj (hfound.symm.trans rfl)
  subst hmotion hpiece
  exact ⟨hon, hrow, ⟨_, hanswer, (hall _ rfl).1⟩, hlines, hfull, _, hfound, (hobject _ rfl).1.2 hfull⟩

/-- Between brackets that stand next to each other an inner object begins behind its end. -/
theorem range_reversed_hollow :
    let o : TextObject := ⟨.paren, false, some ['('], by decide⟩
    ∃ found, (o.reported ['(', ')'] 0 0).value = .ok (some found) ∧
      found.range = ⟨⟨0, 1⟩, ⟨0, 0⟩⟩ ∧ ¬found.range.Ordered :=
  ⟨_, rfl, rfl, by decide⟩

end ModalEditor
