import ModalEditor.Proofs.Totality
/-!
# Joining keeps the text

A join makes one row of several and loses nothing of them but blanks: the other characters stand there in their
order, and between those of one row and those of the next there is a blank. The rows above the block and below it
are as they were, and so are all rows if the block would reach over the end of the buffer.
-/
namespace ModalEditor

namespace Text

/-! ### Characters that are not blank -/

def nonBlanks (t : Text) : Text := t.filter (!isBlank ·)

private theorem nonBlanks_append (front back : Text) : nonBlanks (front ++ back) = nonBlanks front ++ nonBlanks back :=
  List.filter_append front back

private theorem nonBlanks_trimStart (t : Text) : nonBlanks (trimStart t) = nonBlanks t := by
  have hlead : nonBlanks (indent t) = [] := by
    rw [nonBlanks, List.filter_eq_nil_iff]
    intro c hc
    simp [List.all_eq_true.1 List.all_takeWhile c hc]
  conv_rhs => rw [← indent_append_trimStart t, nonBlanks_append, hlead, List.nil_append]

private theorem nonBlanks_trim (t : Text) : nonBlanks (trim t) = nonBlanks t := by
  have hend : nonBlanks (trimEnd (trimStart t)) = (nonBlanks (trimStart (trimStart t).reverse)).reverse :=
    List.filter_reverse
  rw [trim, hend, nonBlanks_trimStart, nonBlanks, List.filter_reverse, List.reverse_reverse]
  exact nonBlanks_trimStart t

/-! ### Pieces with spaces between them -/

private theorem nonBlanks_intercalate (ts : List Text) :
    nonBlanks (List.intercalate [' '] ts) = ts.flatMap nonBlanks := by
  induction ts with
  | nil => rfl
  | cons t rest ih =>
    cases rest with
    | nil => rw [List.intercalate_singleton, List.flatMap_singleton]
    | cons u more =>
      have hspace : nonBlanks [' '] = [] := by decide
      rw [List.intercalate_cons_cons, nonBlanks_append, nonBlanks_append, ih, hspace, List.append_nil]
      rfl

private theorem flatMap_nonBlanks_filter (ts : List Text) :
    (ts.filter (· ≠ [])).flatMap nonBlanks = ts.flatMap nonBlanks := by
  induction ts with
  | nil => rfl
  | cons t rest ih =>
    by_cases ht : t = []
    · rw [List.filter_cons_of_neg (by simp [ht]), ih, List.flatMap_cons, ht]
      rfl
    · rw [List.filter_cons_of_pos (by simp [ht]), List.flatMap_cons, List.flatMap_cons, ih]

end Text

/-! ### Blocks of rows -/

def trimmedRows : List Text → List Text
  | [] => []
  | first :: others => Text.trim first :: others.map Text.trimStart

private theorem joinedLine_eq (block : List Text) :
    joinedLine block = List.intercalate [' '] ((trimmedRows block).filter (· ≠ [])) := by
  cases block <;> rfl

private theorem flatMap_nonBlanks_trimStart (rows : List Text) :
    (rows.map Text.trimStart).flatMap Text.nonBlanks = rows.flatMap Text.nonBlanks := by
  rw [List.flatMap_map]
  exact congrArg (List.flatMap · rows) (funext Text.nonBlanks_trimStart)

private theorem flatMap_nonBlanks_trimmedRows (block : List Text) :
    (trimmedRows block).flatMap Text.nonBlanks = block.flatMap Text.nonBlanks := by
  cases block with
  | nil => rfl
  | cons first others =>
    rw [trimmedRows, List.flatMap_cons, List.flatMap_cons, Text.nonBlanks_trim, flatMap_nonBlanks_trimStart]

private theorem nonBlanks_joinedLine (block : List Text) :
    Text.nonBlanks (joinedLine block) = block.flatMap Text.nonBlanks := by
  rw [joinedLine_eq, Text.nonBlanks_intercalate, Text.flatMap_nonBlanks_filter, flatMap_nonBlanks_trimmedRows]

private theorem joinedLine_cut {upper lower : List Text} (hupper : upper.flatMap Text.nonBlanks ≠ [])
    (hlower : lower.flatMap Text.nonBlanks ≠ []) :
    ∃ left right, joinedLine (upper ++ lower) = left ++ ' ' :: right ∧
      Text.nonBlanks left = upper.flatMap Text.nonBlanks ∧
      Text.nonBlanks right = lower.flatMap Text.nonBlanks := by
  -- all rows but the first are trimmed alike, so the pieces of the lower rows do not depend on the cut
  have hpieces : trimmedRows (upper ++ lower) = trimmedRows upper ++ lower.map Text.trimStart := by
    cases upper with
    | nil => exact absurd rfl hupper
    | cons first others => rw [List.cons_append, trimmedRows, trimmedRows, List.map_append, List.cons_append]
  have hfront : ((trimmedRows upper).filter (· ≠ [])).flatMap Text.nonBlanks = upper.flatMap Text.nonBlanks := by
    rw [Text.flatMap_nonBlanks_filter, flatMap_nonBlanks_trimmedRows]
  have hback : ((lower.map Text.trimStart).filter (· ≠ [])).flatMap Text.nonBlanks =
      lower.flatMap Text.nonBlanks := by
    rw [Text.flatMap_nonBlanks_filter, flatMap_nonBlanks_trimStart]
  have hfrontSome : (trimmedRows upper).filter (· ≠ []) ≠ [] := by
    intro hnone
    rw [hnone] at hfront
    exact hupper hfront.symm
  have hbackSome : (lower.map Text.trimStart).filter (· ≠ []) ≠ [] := by
    intro hnone
    rw [hnone] at hback
    exact hlower hback.symm
  refine ⟨List.intercalate [' '] ((trimmedRows upper).filter (· ≠ [])),
    List.intercalate [' '] ((lower.map Text.trimStart).filter (· ≠ [])), ?_, ?_, ?_⟩
  · rw [joinedLine_eq, hpieces, List.filter_append, Text.intercalate_append hfrontSome hbackSome,
      List.append_assoc]
    rfl
  · rw [Text.nonBlanks_intercalate, hfront]
  · rw [Text.nonBlanks_intercalate, hback]

/-! ### The edit -/

section

variable {range : Range} {lines : List Text} {count : Int}

private theorem joinLines_of_room (hlow : 0 ≤ range.start.line)
    (hroom : range.start.line + max count 2 ≤ lines.length) :
    let first := range.start.line.toNat
    let total := (max count 2).toNat
    let joined := joinedLine ((lines.drop first).take total)
    ∃ column : Nat, column ≤ joined.length - 1 ∧
      joinLines range lines count =
        ⟨lines.take first ++ [joined] ++ lines.drop (first + total), [], ⟨range.start.line, column⟩⟩ := by
  intro first total joined
  have hnext : (range.start.line + max count 2).toNat = first + total := by omega
  have hcolumn (head : Text) : min (head.length : Int) (max 0 ((joined.length : Int) - 1)) =
      ((min head.length (joined.length - 1) : Nat) : Int) := by omega
  refine ⟨_, Nat.min_le_right (Text.trim (((lines.drop first).take total).headD [])).length _, ?_⟩
  rw [← hcolumn, ← hnext]
  exact if_neg (by omega)

private theorem joinLines_of_no_room (hroom : ¬(0 ≤ range.start.line ∧
    range.start.line + max count 2 ≤ lines.length)) :
    joinLines range lines count = ⟨lines, [], ⟨max range.start.line 0, 0⟩⟩ :=
  if_pos (by omega)

end

/-- A join of a block that lies in the buffer puts one row in its place. The characters of that row that are not
blank are those of the block, in their order, and wherever the block is cut, a blank stands between the texts of
the two parts. The cursor is on the row. A block that does not lie in the buffer is left alone. Only numbers that
the log cannot hold keep the join from answering. -/
theorem operate_join_keeps (range : Range) (lines : List Text) (count : Int) (style : IndentStyle) :
    ∃ edit : Edit,
      (operateKeys ['J'] range lines count style).value = operateAnswer range count edit ∧
      if 0 ≤ range.start.line ∧ range.start.line + max count 2 ≤ lines.length then
        let first := range.start.line.toNat
        let total := (max count 2).toNat
        let block := (lines.drop first).take total
        ∃ (joined : Text) (column : Nat),
          edit.lines = lines.take first ++ [joined] ++ lines.drop (first + total) ∧
          edit.lines.length = lines.length - total + 1 ∧
          edit.cursor = ⟨range.start.line, column⟩ ∧ column ≤ joined.length - 1 ∧
          Text.nonBlanks joined = block.flatMap Text.nonBlanks ∧
          ∀ upper lower, block = upper ++ lower → upper.flatMap Text.nonBlanks ≠ [] →
            lower.flatMap Text.nonBlanks ≠ [] →
            ∃ left gap right, joined = left ++ gap :: right ∧ Text.isBlank gap = true ∧
              Text.nonBlanks left = upper.flatMap Text.nonBlanks ∧
              Text.nonBlanks right = lower.flatMap Text.nonBlanks
      else edit.lines = lines := by
  have hedit : Operator.join.onRange range lines count style = .ok (some (joinLines range lines count)) := rfl
  refine ⟨_, Operator.value_operate_of_onRange rfl hedit, ?_⟩
  -- with room for the block there is one joined line, and otherwise nothing is done
  split
  · next hroom =>
    intro first total block
    obtain ⟨column, hcolumn, hjoin⟩ := joinLines_of_room hroom.1 hroom.2
    rw [hjoin]
    refine ⟨joinedLine block, column, rfl, ?_, rfl, hcolumn, nonBlanks_joinedLine block, ?_⟩
    · simp only [List.length_append, List.length_take, List.length_drop, List.length_singleton]
      omega
    · intro upper lower hblock hupper hlower
      obtain ⟨left, right, hcut, hleft, hright⟩ := joinedLine_cut hupper hlower
      rw [hblock]
      exact ⟨left, ' ', right, hcut, by decide, hleft, hright⟩
  · next hroom => rw [joinLines_of_no_room hroom]

example : (joinLines ⟨⟨0, 0⟩, ⟨0, 0⟩⟩ [[' ', 'a', ' '], ['\t'], ['b', ' '], ['c']] 3).lines =
    [['a', ' ', 'b', ' '], ['c']] := by decide

/-- A count that is too long for the log stops a join that would leave the lines alone. -/
theorem operate_join_long_count :
    let lines : List Text := [['a']]
    let range : Range := ⟨⟨0, 0⟩, ⟨0, 0⟩⟩
    (lines.length : Int) < range.start.line + max ((10 ^ Text.numeralLimit : Nat) : Int) 2 ∧
    (operateKeys ['J'] range lines (10 ^ Text.numeralLimit : Nat) {}).value = .error .numberTooLong := by
  intro lines range
  constructor
  · show (1 : Int) < 0 + max ((10 ^ Text.numeralLimit : Nat) : Int) 2
    omega
  · show (Operator.join.operate range lines (10 ^ Text.numeralLimit : Nat) {}).value = _
    exact Operator.value_operate_long_count rfl range lines not_loggable_limit {}

end ModalEditor
