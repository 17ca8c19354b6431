import ModalEditor.Proofs.WordDeletes
/-!
# Sides of the cursor

An operator that keeps text takes the columns between the cursor and where its motion ends. So a motion to the
right takes nothing left of the cursor, and one to the left nothing from the cursor on. Only the motion to the
end of the line turns back: behind the last character it goes to that character.
-/
namespace ModalEditor

namespace Motion

def forward : Motion → Bool
  | .search s => s.forward
  | .wordStart _ | .wordEnd _ | .lineEnd => true
  | .wordBack _ | .lineStart | .firstNonBlank => false

/-- The motions that look to the left. The first character that is not blank may be on either side. -/
def backward : Motion → Bool
  | .search s => !s.forward
  | .wordBack _ | .lineStart => true
  | .wordStart _ | .wordEnd _ | .lineEnd | .firstNonBlank => false

variable {motion : Motion} {keys line : Text} {row column first stop n : Nat} {goal : Int}

private theorem le_of_mem_goals (hforward : motion.forward = true) (hend : motion ≠ .lineEnd) {column : Int}
    (h : goal ∈ motion.goals line column) : column ≤ goal := by
  cases motion with
  | search s =>
    obtain ⟨x, right, till⟩ := s
    obtain rfl : right = true := hforward
    rw [goals, if_pos rfl] at h
    obtain ⟨i, hi, rfl⟩ := List.mem_map.1 h
    have hright : column < i := of_decide_eq_true (List.mem_filter.1 hi).2
    cases till <;> simp <;> omega
  | wordStart big =>
    have hright : column < goal := of_decide_eq_true (List.mem_filter.1 h).2
    omega
  | wordEnd big => exact of_decide_eq_true (List.mem_filter.1 h).2
  | lineEnd => exact absurd rfl hend
  | wordBack big => cases hforward
  | lineStart => cases hforward
  | firstNonBlank => cases hforward

private theorem ge_of_mem_goals (hbackward : motion.backward = true) {column : Int} (hcolumn : 0 ≤ column)
    (h : goal ∈ motion.goals line column) : goal ≤ column := by
  cases motion with
  | search s =>
    obtain ⟨x, right, till⟩ := s
    obtain rfl : right = false := by simpa [backward] using hbackward
    rw [goals, if_neg Bool.false_ne_true] at h
    obtain ⟨i, hi, rfl⟩ := List.mem_map.1 h
    have hleft : i < column := of_decide_eq_true (List.mem_filter.1 hi).2
    cases till <;> simp <;> omega
  | wordBack big =>
    obtain ⟨word, hword, rfl⟩ := List.mem_map.1 h
    obtain ⟨hrun, hleft⟩ := List.mem_filter.1 hword
    have hnonempty := (mem_wordRuns_iff.1 (List.mem_reverse.1 hrun)).nonempty
    have hstop : (word.stop : Int) ≤ column := of_decide_eq_true hleft
    omega
  | lineStart =>
    obtain rfl := List.mem_singleton.1 h
    exact hcolumn
  | wordStart big => cases hbackward
  | wordEnd big => cases hbackward
  | firstNonBlank => cases hbackward
  | lineEnd => cases hbackward

private theorem exclusive_of_backward (h : motion.backward = true) : motion.exclusive = true := by
  cases motion <;> first | exact h | rfl

private theorem exists_goal_of_range? (hmotion : ofKeys? keys = some motion) (hcolumn : column ≤ line.length)
    (hn : 0 < n)
    (h : (Target.motion keys).range? n ⟨row, column⟩ line =
      .ok (some ⟨⟨row, first⟩, ⟨row, (stop : Int) - 1⟩⟩)) :
    ∃ goal : Nat, (goal : Int) ∈ motion.goals line column ∧ first = min column goal ∧ first < stop ∧
      stop = max column goal + if motion.exclusive then 0 else 1 := by
  have hon : OnLine line (⟨row, column⟩ : Position).column :=
    ⟨Int.natCast_nonneg column, Int.ofNat_le.2 hcolumn⟩
  obtain ⟨found, hreach, htrim⟩ := bind_eq_ok_iff.1 h
  obtain ⟨whole, rfl, hpart⟩ := Option.bind_eq_some_iff.1 (Except.ok.inj htrim)
  obtain ⟨goal, hgoal, ⟨hlow, -⟩, rfl⟩ := exists_goal_of_reachTimes hmotion hon hn hreach
  obtain ⟨goal, rfl⟩ := Int.eq_ofNat_of_zero_le hlow
  refine ⟨goal, hgoal, ?_⟩
  rw [operatorRange_between hmotion] at hpart
  split at hpart
  · cases hpart
  · next hsome =>
    injection hpart with hpart
    injection hpart with hstart hlast
    have hfirst : ((min column goal : Nat) : Int) = first := (Position.mk.inj hstart).2
    have hstop := (Position.mk.inj hlast).2
    cases hexclusive : motion.exclusive with
    | true =>
      have hmoved : column ≠ goal := fun hsame => hsome ⟨hexclusive, hsame⟩
      simp only [hexclusive, if_true] at hstop ⊢
      omega
    | false =>
      simp only [hexclusive, Bool.false_eq_true, if_false] at hstop ⊢
      omega

end Motion

/-! ### Commands -/

variable {τ : Type}

section

variable {e after : Engine τ} {c : Command} {op : Operator} {keys line : Text} {motion : Motion}
variable {lines : List Text} {cursor : Option Position} {row column : Nat} {o : Outcome}

private theorem Engine.execute_goal (hcursor : cursor.getD e.session.position = ⟨row, column⟩)
    (hat : lines[row]? = some line) (hcolumn : column ≤ line.length) (hop : c.operator = some op)
    (hkeeps : op.keepsText = true) (htarget : c.target = some (.motion keys))
    (hmotion : Motion.ofKeys? keys = some motion)
    (hrun : (e.execute c lines cursor).value = (after, .ok o)) (hdone : o.noop = false) :
    ∃ goal first stop : Nat, (goal : Int) ∈ motion.goals line column ∧ first = min column goal ∧
      first < stop ∧ first ≤ line.length ∧
      stop = max column goal + (if motion.exclusive then 0 else 1) ∧
      o = c.outcome (op.onPiece lines row line first stop) := by
  have hbusy : o ≠ c.idleOutcome lines (cursor.getD e.session.position) := by
    rintro rfl
    cases hdone
  obtain ⟨edit, -, hedit, rfl, -⟩ := Engine.execute_done hrun hbusy
  rw [hcursor] at hedit
  obtain ⟨target, range, hsame, hrange, hoperate⟩ := Command.edit_target hop
    (op.takesTarget_of_keepsText hkeeps) (Command.linewise_eq_false hmotion htarget) hedit
  obtain rfl := Option.some.inj (hsame.symm.trans htarget)
  rw [lineOf_of_getElem? hat] at hrange
  obtain ⟨first, stop, rfl, -, hinside⟩ := Target.range?_row hcolumn hrange
  obtain ⟨goal, hgoal, hfirst, hsome, hstop⟩ :=
    Motion.exists_goal_of_range? hmotion hcolumn c.times_pos hrange
  rw [Operator.operate_piece hkeeps hat hoperate]
  exact ⟨goal, first, stop, hgoal, hfirst, hsome, hinside, hstop, rfl⟩

private theorem Engine.execute_delete_lineEnd (hcursor : cursor.getD e.session.position = ⟨row, column⟩)
    (hat : lines[row]? = some line) (hcolumn : column ≤ line.length) (hop : c.operator = some .delete)
    (htarget : c.target = some (.motion ['$'])) (hrun : (e.execute c lines cursor).value = (after, .ok o))
    (hdone : o.noop = false) :
    o.deleted = line.drop (min column (line.length - 1)) ∧
      o.cursor = ⟨row, (min column (line.length - 1) : Nat)⟩ ∧
      o.lines = lines.set row (line.take (min column (line.length - 1))) := by
  have hmotion : Motion.ofKeys? ['$'] = some .lineEnd := rfl
  obtain ⟨goal, first, stop, hgoal, hfirst, -, -, hstop, rfl⟩ :=
    execute_goal hcursor hat hcolumn hop rfl htarget hmotion hrun hdone
  have hlast : (goal : Int) = max 0 ((line.length : Int) - 1) := List.mem_singleton.1 hgoal
  rw [if_neg (by decide)] at hstop
  obtain rfl : first = min column (line.length - 1) := by omega
  have hall : line.length ≤ stop := by omega
  rw [Command.outcome, Operator.onPiece, if_neg (by decide), List.take_of_length_le hall,
    List.drop_of_length_le hall, List.append_nil]
  exact ⟨rfl, rfl, rfl⟩

end

namespace Engine

/-- Of the columns that an operator takes for a motion to the left, each lies left of the cursor. Of those that
it takes for a motion to the right, none does, except if the motion to the end of the line begins behind the last
character: then the operator takes this character. -/
theorem execute_sides (e : Engine τ) {lines : List Text} {cursor : Option Position} {row column : Nat}
    {line : Text} (hcursor : cursor.getD e.session.position = ⟨row, column⟩)
    (hat : lines[row]? = some line) (hcolumn : column ≤ line.length) {c : Command} {op : Operator} {keys : Text}
    {motion : Motion} (hop : c.operator = some op) (hkeeps : op.keepsText = true)
    (htarget : c.target = some (.motion keys)) (hmotion : Motion.ofKeys? keys = some motion)
    {after : Engine τ} {o : Outcome} (hrun : (e.execute c lines cursor).value = (after, .ok o))
    (hdone : o.noop = false) :
    ∃ first stop : Nat, first ≤ stop ∧ stop ≤ line.length ∧
      o.deleted = (line.take stop).drop first ∧ o.cursor = ⟨row, first⟩ ∧
      o.lines = (if op = .yank then lines else lines.set row (line.take first ++ line.drop stop)) ∧
      (motion.backward = true → ∀ i, first ≤ i → i < stop → i < column) ∧
      (motion.forward = true →
        ((∀ i, first ≤ i → i < stop → column ≤ i) ↔
          ¬(motion = .lineEnd ∧ column = line.length ∧ line ≠ []))) := by
  obtain ⟨goal, first, stop, hgoal, hfirst, hsome, hinside, hstop, rfl⟩ :=
    execute_goal hcursor hat hcolumn hop hkeeps htarget hmotion hrun hdone
  rw [← Operator.onPiece_min]
  refine ⟨first, min stop line.length, by omega, Nat.min_le_right _ _, rfl, rfl, rfl, ?_, ?_⟩
  · intro hbackward i _ hi
    have hleft := Int.ofNat_le.1 (Motion.ge_of_mem_goals hbackward (Int.natCast_nonneg column) hgoal)
    rw [if_pos (Motion.exclusive_of_backward hbackward)] at hstop
    omega
  · intro hforward
    -- the end of the line is the one goal ahead that may lie behind the cursor
    by_cases hend : motion = .lineEnd
    · subst hend
      have hlast : (goal : Int) = max 0 ((line.length : Int) - 1) := List.mem_singleton.1 hgoal
      rw [if_neg (by decide)] at hstop
      simp only [true_and, ← List.length_pos_iff]
      constructor
      · intro hright hbehind
        have := hright first (Nat.le_refl first) (by omega)
        omega
      · intro hbefore i hi _
        omega
    · have hright := Int.ofNat_le.1 (Motion.le_of_mem_goals hforward hend hgoal)
      simp only [hend, false_and, not_false_eq_true, iff_true]
      intro i hi _
      omega

/-- The two columns in front of the second `x` lie right of the cursor. -/
theorem execute_sides_till :
    let e : Engine Nat := Engine.start {} 3 0 none
    let c : Command :=
      { operator := some .yank, target := some (.motion ['t', 'x']), count := some ⟨2, by decide⟩ }
    let line : Text := ['a', 'x', 'b', 'x']
    ∃ after o, (e.execute c [line] (some ⟨0, 1⟩)).value = (after, .ok o) ∧ o.noop = false ∧
      ∃ first stop : Nat, o.deleted = (line.take stop).drop first ∧ o.deleted = ['x', 'b'] ∧
        ∀ i, first ≤ i → i < stop → 1 ≤ i := by
  intro e c line
  have hrun : (e.execute c [line] (some ⟨0, 1⟩)).value.2 =
      .ok ⟨c, [line], ⟨0, 1⟩, ['x', 'b'], some [unnamed], false⟩ := by decide
  have hmotion : Motion.ofKeys? ['t', 'x'] = some (.search ⟨'x', true, true⟩) := rfl
  have hcursor : (some ⟨0, 1⟩ : Option Position).getD e.session.position = ⟨(0 : Nat), (1 : Nat)⟩ := rfl
  obtain ⟨first, stop, -, -, htaken, -, -, -, hright⟩ :=
    execute_sides e hcursor (rfl : [line][0]? = some line) (by decide) (c := c) rfl rfl rfl hmotion
      (Prod.ext rfl hrun) rfl
  exact ⟨_, _, Prod.ext rfl hrun, rfl, first, stop, htaken, rfl, (hright rfl).2 (by decide)⟩

end Engine

namespace Typist

private theorem engine_execute {t after : Typist τ} {c : Command} {o : Outcome} (h : t.execute c = (after, .ok o)) :
    (t.engine.execute c t.lines t.cursor).value = (after.engine, .ok o) := by
  unfold execute at h
  split at h
  · next heq =>
    cases h
    exact heq
  · cases h

/-- The second of two deletes up to the end of the line takes the last character that the first one left, if
there is one. -/
theorem delete_lineEnd_twice {t mid after : Typist τ} {row column : Nat} {line : Text}
    (hplace : t.place = ⟨row, column⟩) (hat : t.lines[row]? = some line) (hcolumn : column ≤ line.length)
    {c again : Command} (hop : c.operator = some .delete) (htarget : c.target = some (.motion ['$']))
    (hopAgain : again.operator = some .delete) (htargetAgain : again.target = some (.motion ['$']))
    {o o' : Outcome} (hrun : t.execute c = (mid, .ok o)) (hdone : o.noop = false)
    (hrunAgain : mid.execute again = (after, .ok o')) (hdoneAgain : o'.noop = false) :
    ∃ left : Text, left <+: line ∧ o.lines = t.lines.set row left ∧ o.cursor = ⟨row, left.length⟩ ∧
      o'.deleted = left.drop (left.length - 1) ∧ o'.lines = t.lines.set row left.dropLast ∧
      o'.cursor = ⟨row, (left.length - 1 : Nat)⟩ := by
  obtain ⟨-, hcursor, hlines⟩ :=
    Engine.execute_delete_lineEnd hplace hat hcolumn hop htarget (engine_execute hrun) hdone
  obtain ⟨hmidLines, hmidPlace⟩ := execute_ok hrun
  -- the first delete leaves the cursor behind the last character, and the motion turns back from there
  obtain ⟨left, hleft⟩ : ∃ left, left = line.take (min column (line.length - 1)) := ⟨_, rfl⟩
  have hlength : left.length = min column (line.length - 1) := by
    rw [hleft]
    exact List.length_take_of_le (by omega)
  rw [← hleft] at hlines
  rw [← hlength] at hcursor
  have hmidLine : mid.lines[row]? = some left := by
    rw [hmidLines, hlines, List.getElem?_set_self (List.getElem?_eq_some_iff.1 hat).1]
  obtain ⟨htaken, hcursorAgain, hlinesAgain⟩ :=
    Engine.execute_delete_lineEnd (hmidPlace.trans hcursor) hmidLine (Nat.le_refl _) hopAgain htargetAgain
      (engine_execute hrunAgain) hdoneAgain
  rw [Nat.min_eq_right (Nat.sub_le _ _)] at htaken hcursorAgain hlinesAgain
  refine ⟨left, hleft ▸ List.take_prefix _ _, hlines, hcursor, htaken, ?_, hcursorAgain⟩
  rw [hlinesAgain, hmidLines, hlines, List.set_set, List.dropLast_eq_take]

/-- Behind the last character the second delete turns back. -/
theorem delete_lineEnd_turns_back :
    let t : Typist Nat := ⟨Engine.start {} 3 0 none, [['a', 'b']], some ⟨0, 1⟩⟩
    let c : Command := { operator := some .delete, target := some (.motion ['$']) }
    ∃ mid after o o', t.execute c = (mid, .ok o) ∧ mid.execute c = (after, .ok o') ∧
      o.deleted = ['b'] ∧ mid.lines = [['a']] ∧ mid.place = ⟨0, 1⟩ ∧
      o'.noop = false ∧ o'.deleted = ['a'] ∧ after.lines = [[]] ∧ after.place = ⟨0, 0⟩ := by
  intro t c
  have hrun : (t.execute c).2 = .ok ⟨c, [['a']], ⟨0, 1⟩, ['b'], some [unnamed], false⟩ := by decide
  have hagain : ((t.execute c).1.execute c).2 = .ok ⟨c, [[]], ⟨0, 0⟩, ['a'], some [unnamed], false⟩ := by decide
  have hmid := execute_ok (Prod.ext rfl hrun)
  have hafter := execute_ok (Prod.ext rfl hagain)
  exact ⟨_, _, _, _, Prod.ext rfl hrun, Prod.ext rfl hagain, rfl, hmid.1, hmid.2, rfl, rfl, hafter.1, hafter.2⟩

end Typist

end ModalEditor
