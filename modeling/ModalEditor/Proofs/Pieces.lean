import ModalEditor.Proofs.Execute
/-!
# Pieces of a line

An operator that keeps text works on one piece of the cursor's line, whatever motion or text object it is
given. Where the piece lies depends on the target alone: delete and change take it out of the line, and a
yank of the same target copies the same columns.
-/
namespace ModalEditor

variable {τ : Type}

/-- The range that an operator takes of a target, if the target is found. -/
def Target.range? (target : Target) (times : Nat) (p : Position) (line : Text) :
    Except Fault (Option Range) :=
  match target with
  | .motion keys => do return (← Motion.reachTimes keys p line times).bind (Motion.operatorRange keys)
  | .object o => .ok ((o.find? line p.column p.line).map TextObject.Found.range)

section

variable {lines : List Text} {row column : Nat} {line : Text} {style : IndentStyle} {edit : Edit}

theorem Target.range?_onLine {target : Target} {times : Nat} {range : Range}
    (hcolumn : column ≤ line.length)
    (h : target.range? times ⟨row, column⟩ line = .ok (some range)) :
    ∃ first last, OnLine line first ∧ OnLine line last ∧ first ≤ last + 1 ∧
      range = ⟨⟨row, first⟩, ⟨row, last⟩⟩ := by
  cases target with
  | motion keys =>
    obtain ⟨found, hreach, htrim⟩ := bind_eq_ok_iff.1 h
    obtain ⟨whole, rfl, hpart⟩ := Option.bind_eq_some_iff.1 (Except.ok.inj htrim)
    obtain ⟨first, last, rfl, hle, hlast⟩ := Motion.reachTimes_row hcolumn hreach
    obtain ⟨stop, rfl, hstop, hend⟩ := Motion.operatorRange_row (Int.ofNat_le.2 hle) hpart
    refine ⟨first, stop, ?_, ?_, by omega, rfl⟩
    · unfold OnLine
      omega
    · unfold OnLine
      omega
  | object o =>
    obtain ⟨found, hfind, rfl⟩ := Option.map_eq_some_iff.1 (Except.ok.inj h)
    exact TextObject.find?_onLine hfind

theorem Target.range?_row {target : Target} {times : Nat} {range : Range}
    (hcolumn : column ≤ line.length)
    (h : target.range? times ⟨row, column⟩ line = .ok (some range)) :
    ∃ first stop : Nat, range = ⟨⟨row, first⟩, ⟨row, (stop : Int) - 1⟩⟩ ∧ first ≤ stop ∧
      first ≤ line.length := by
  obtain ⟨start, last, ⟨hlow, hhigh⟩, -, hle, rfl⟩ := range?_onLine hcolumn h
  obtain ⟨first, rfl⟩ := Int.eq_ofNat_of_zero_le hlow
  have hnext : (((last + 1).toNat : Nat) : Int) - 1 = last := by omega
  exact ⟨first, (last + 1).toNat, by rw [hnext], by omega, Int.ofNat_le.1 hhigh⟩

theorem Command.value_edit_target {c : Command} {op : Operator} {target : Target}
    (hop : c.operator = some op) (htakes : op.takesTarget = true) (hline : c.linewise = false)
    (htarget : c.target = some target) (registers : RegisterBank) (p : Position) :
    (c.edit registers style p lines).value =
      match target.range? c.times p (lineOf lines p.line) with
      | .error fault => .error fault
      | .ok none => .ok none
      | .ok (some range) => (op.operate range lines 1 style).value := by
  cases target with
  | motion keys =>
    rw [edit_motion hop htakes htarget hline]
    simp only [onMotion, Logged.value_bind, Motion.value_reportedTimes, Target.range?]
    cases Motion.reachTimes keys p (lineOf lines p.line) c.times with
    | error fault => rfl
    | ok found =>
      cases found with
      | none => rfl
      | some whole =>
        simp only [bind, Except.bind, pure, Except.pure, Option.bind_some]
        cases Motion.operatorRange keys whole <;> rfl
  | object o =>
    rw [edit_object hop htakes htarget]
    simp only [onObject, Logged.value_bind, TextObject.value_reported, Target.range?]
    cases o.find? (lineOf lines p.line) p.column p.line <;> rfl

theorem Command.edit_target {c : Command} {op : Operator} {registers : RegisterBank} {p : Position}
    (hop : c.operator = some op) (htakes : op.takesTarget = true) (hline : c.linewise = false)
    (h : (c.edit registers style p lines).value = .ok (some edit)) :
    ∃ target range, c.target = some target ∧
      target.range? c.times p (lineOf lines p.line) = .ok (some range) ∧
      (op.operate range lines 1 style).value = .ok (some edit) := by
  cases htarget : c.target with
  | none =>
    rw [Command.edit, if_pos (by simp [pending, hop, htakes, htarget])] at h
    cases h
  | some target =>
    rw [value_edit_target hop htakes hline htarget] at h
    split at h
    · cases h
    · cases h
    · next range hrange => exact ⟨target, range, rfl, hrange, h⟩

/-- The edit that takes the columns from `first` up to `stop` of a line, or that only copies them. -/
def Operator.onPiece (op : Operator) (lines : List Text) (row : Nat) (line : Text) (first stop : Nat) :
    Edit :=
  ⟨if op = .yank then lines else lines.set row (line.take first ++ line.drop stop),
    (line.take stop).drop first, ⟨row, first⟩⟩

theorem Operator.onPiece_min (op : Operator) (lines : List Text) (row : Nat) (line : Text)
    (first stop : Nat) :
    op.onPiece lines row line first (min stop line.length) = op.onPiece lines row line first stop := by
  simp only [onPiece, ← List.take_eq_take_min, ← List.drop_eq_drop_min]

theorem Operator.operate_piece {op : Operator} (hkeeps : op.keepsText = true)
    (hat : lines[row]? = some line) {first stop : Nat}
    (h : (op.operate ⟨⟨row, first⟩, ⟨row, (stop : Int) - 1⟩⟩ lines 1 style).value = .ok (some edit)) :
    edit = op.onPiece lines row line first stop := by
  have hlt : row < lines.length := (List.getElem?_eq_some_iff.1 hat).1
  have hset (new : Text) : lines.take row ++ [new] ++ lines.drop (row + 1) = lines.set row new := by
    rw [List.set_eq_take_append_cons_drop, if_pos hlt, List.append_assoc, List.singleton_append]
  have hstop : (stop : Int) - 1 + 1 = stop := by omega
  rw [Operator.value_operate] at h
  cases op <;> simp only [keepsText, Bool.false_eq_true] at hkeeps
  all_goals
    obtain ⟨_, -, h⟩ := bind_eq_ok_iff.1 h
    simp only [onRange, deleteRange_row hat, yankRange_row hat, hstop, Slice.before_natCast,
      Slice.after_natCast, Slice.between_natCast, hset] at h
    cases h
    rfl

theorem Operator.takesTarget_of_keepsText {op : Operator} (h : op.keepsText = true) :
    op.takesTarget = true := by
  cases op <;> first | rfl | cases h

/-- Outside whole lines, every operator that keeps text works on the same columns of the cursor's line. -/
theorem Command.edit_piece {c : Command} (hline : c.linewise = false) (hat : lines[row]? = some line)
    (hcolumn : column ≤ line.length) :
    ∃ first stop : Nat, first ≤ stop ∧ stop ≤ line.length ∧
      ∀ (op : Operator) (register : Option Text) (registers : RegisterBank) (style : IndentStyle)
        (edit : Edit), op.keepsText = true →
        (({ c with operator := some op, register } : Command).edit registers style ⟨row, column⟩
          lines).value = .ok (some edit) →
        edit = op.onPiece lines row line first stop := by
  have hrest (op : Operator) (register : Option Text) :
      ({ c with operator := some op, register } : Command).linewise = false := hline
  -- the columns are those of the target, which is looked up before the operator is asked
  by_cases hfound : ∃ target range, c.target = some target ∧
      target.range? c.times ⟨row, column⟩ line = .ok (some range)
  · obtain ⟨target, range, htarget, hrange⟩ := hfound
    obtain ⟨first, stop, rfl, hle, hfirst⟩ := Target.range?_row hcolumn hrange
    refine ⟨first, min stop line.length, Nat.le_min.2 ⟨hle, hfirst⟩, Nat.min_le_right _ _, ?_⟩
    intro op register registers style edit hkeeps h
    obtain ⟨other, found, hother, hfound, hoperate⟩ :=
      edit_target rfl (op.takesTarget_of_keepsText hkeeps) (hrest op register) h
    have hsame : other = target := Option.some.inj (hother.symm.trans htarget)
    rw [hsame, lineOf_of_getElem? hat] at hfound
    cases hfound.symm.trans hrange
    rw [Operator.onPiece_min]
    exact Operator.operate_piece hkeeps hat hoperate
  · refine ⟨0, 0, Nat.le_refl 0, Nat.zero_le _, ?_⟩
    intro op register registers style edit hkeeps h
    obtain ⟨target, range, htarget, hrange, -⟩ :=
      edit_target rfl (op.takesTarget_of_keepsText hkeeps) (hrest op register) h
    rw [lineOf_of_getElem? hat] at hrange
    exact absurd ⟨target, range, htarget, hrange⟩ hfound

end

namespace Engine

/-- An operator on a motion or a text object takes one piece of the cursor's line: the same columns for
delete, change and yank. What was taken is the text of the piece, the cursor goes to its first column,
and nothing outside of it changes. -/
theorem execute_piece {c : Command} {lines : List Text} {row column : Nat} {line : Text}
    (hline : c.linewise = false) (hat : lines[row]? = some line) (hcolumn : column ≤ line.length) :
    ∃ first stop : Nat, first ≤ stop ∧ stop ≤ line.length ∧
      ∀ (e : Engine τ) (op : Operator) (register : Option Text) (cursor : Option Position) (o : Outcome),
        op ∈ [.delete, .change, .yank] → cursor.getD e.session.position = ⟨row, column⟩ →
        (e.execute { c with operator := some op, register } lines cursor).value.2 = .ok o →
        o.noop = false →
        o.deleted = (line.take stop).drop first ∧ o.cursor = ⟨row, first⟩ ∧
          o.lines = if op = .yank then lines
            else lines.set row (line.take first ++ line.drop stop) := by
  obtain ⟨first, stop, hle, hstop, hpiece⟩ := Command.edit_piece hline hat hcolumn
  refine ⟨first, stop, hle, hstop, ?_⟩
  intro e op register cursor o hop hcursor hrun hdone
  have hkeeps : op.keepsText = true := by
    simp only [List.mem_cons, List.not_mem_nil, or_false] at hop
    rcases hop with rfl | rfl | rfl <;> rfl
  have hbusy : o ≠ Command.idleOutcome { c with operator := some op, register } lines
      (cursor.getD e.session.position) := by
    intro hidle
    rw [hidle] at hdone
    cases hdone
  obtain ⟨edit, -, hedit, rfl, -⟩ := execute_done (Prod.ext rfl hrun) hbusy
  rw [hcursor] at hedit
  rw [hpiece op register _ _ edit hkeeps hedit]
  exact ⟨rfl, rfl, rfl⟩

/-- The brackets around `bc` on the second line are cut out of it. -/
theorem execute_piece_brackets :
    let c : Command := { operator := some .delete, target := some (.object ⟨.paren, true, none, by decide⟩) }
    let lines : List Text := [['x'], ['a', '(', 'b', 'c', ')', 'd']]
    let line : Text := ['a', '(', 'b', 'c', ')', 'd']
    ∃ (first stop : Nat) (o : Outcome),
      ((Engine.start {} 3 0 none : Engine Nat).execute c lines (some ⟨1, 3⟩)).value.2 = .ok o ∧
        o.noop = false ∧ o.deleted = (line.take stop).drop first ∧ o.cursor = ⟨(1 : Nat), first⟩ ∧
        o.lines = lines.set 1 (line.take first ++ line.drop stop) := by
  obtain ⟨first, stop, -, -, hpiece⟩ :=
    @execute_piece Nat { target := some (.object ⟨.paren, true, none, by decide⟩) }
      [['x'], ['a', '(', 'b', 'c', ')', 'd']] 1 3 ['a', '(', 'b', 'c', ')', 'd'] rfl rfl (by decide)
  exact ⟨first, stop, ⟨_, [['x'], ['a', 'd']], ⟨1, 1⟩, ['(', 'b', 'c', ')'], some [unnamed], false⟩,
    by rfl, rfl, hpiece (Engine.start {} 3 0 none) .delete none (some ⟨1, 3⟩) _ (by decide) rfl (by rfl)
      rfl⟩

end Engine
end ModalEditor
