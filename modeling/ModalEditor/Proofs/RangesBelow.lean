import ModalEditor.Proofs.Reinsertion
/-!
# Ranges that end below the buffer

A range may end on a row that the buffer does not have. A delete then ends it on the last row, but keeps the
column that was meant for the other row. If the range began on the last row behind that column, it now runs
backward: nothing is taken, and what lies between the two columns stands twice. In every other case the text
that was taken gives the buffer back.
-/
namespace ModalEditor

section

variable {lines : List Text} {range : Range} {row column stop : Nat} {line : Text}

private theorem lastLine_below {last : Nat} (hlast : last + 1 = lines.length)
    (hbelow : (lines.length : Int) ≤ range.stop.line) : lastLine range lines = last := by
  simp only [lastLine]
  omega

private theorem extract_backward (hat : lines[row]? = some line) (hstart : range.start = ⟨row, column⟩)
    (hrow : lastLine range lines = row) (hstop : range.stop.column + 1 = stop) (hback : stop ≤ column) :
    extract range lines = .ok [] := by
  have hnothing : (line.take stop).drop column = [] := by
    apply List.drop_eq_nil_of_le
    exact Nat.le_trans (List.length_take_le ..) hback
  simp only [extract, hstart, hrow, hstop, Slice.entry?_natCast, hat, Fault.unless_some, bind, Except.bind,
    if_true, Slice.between_natCast, hnothing]
  rfl

private theorem deleteRange_backward (hl : SingleLines lines) (hat : lines[row]? = some line)
    (hstart : range.start = ⟨row, column⟩) (hrow : lastLine range lines = row)
    (hstop : range.stop.column + 1 = stop) (hinline : column ≤ line.length) (hback : stop < column) :
    ∃ edit, deleteRange range lines = .ok (some edit) ∧ edit.cursor = range.start ∧
      reinsert edit.lines edit.cursor edit.taken ≠ lines := by
  have hextract := extract_backward hat hstart hrow hstop (Nat.le_of_lt hback)
  refine ⟨_, deleteRange_of_extract hat hat hstart hrow hstop (Nat.le_refl row) hextract, rfl, ?_⟩
  intro hsame
  have hlt : row < lines.length := (List.getElem?_eq_some_iff.1 hat).1
  have hlength : (line.take column).length = column := List.length_take_of_le hinline
  have hseam := @reinsert_seam lines row (row + 1) (Nat.le_of_lt hlt) (line.take column) (line.drop stop) []
  have hbreak : '\n' ∉ line.take column ++ [] ++ line.drop stop := by
    have hline := hl.of_getElem? hat
    simp only [List.append_nil, List.mem_append, not_or]
    exact ⟨fun h => hline (List.mem_of_mem_take h), fun h => hline (List.mem_of_mem_drop h)⟩
  rw [hlength, ← hstart, hsame, Text.lines_of_no_break hbreak] at hseam
  -- the row would have to be as long as before, but the doubled columns make it longer
  have hdoubled : lines[row]? = some (line.take column ++ [] ++ line.drop stop) := by
    rw [hseam]
    exact getElem?_splice (Nat.le_of_lt hlt) rfl
  have hline : line.length = (line.take column ++ [] ++ line.drop stop).length :=
    congrArg List.length (Option.some.inj (hat.symm.trans hdoubled))
  rw [List.append_nil, List.length_append, hlength, List.length_drop] at hline
  omega

/-- A delete of a range that ends below the buffer answers. What it took gives the buffer back unless the
range runs backward on the last row. -/
theorem deleteRange_below_iff (hl : SingleLines lines) (hinside : Inside lines range.start)
    (hbelow : (lines.length : Int) ≤ range.stop.line) (hcolumn : 0 ≤ range.stop.column) :
    ∃ edit, deleteRange range lines = .ok (some edit) ∧ edit.cursor = range.start ∧
      (reinsert edit.lines edit.cursor edit.taken = lines ↔
        ¬(range.start.line + 1 = lines.length ∧ range.stop.column + 1 < range.start.column)) := by
  obtain ⟨row, column, first, hstart, hfirst, hinline⟩ := hinside
  obtain ⟨stop, hstop⟩ : ∃ stop : Nat, range.stop.column + 1 = stop := Int.eq_ofNat_of_zero_le (by omega)
  have hrow : row < lines.length := (List.getElem?_eq_some_iff.1 hfirst).1
  obtain ⟨last, hlast⟩ : ∃ last, last + 1 = lines.length := ⟨lines.length - 1, by omega⟩
  have hend : lines[last]? = some lines[last] := List.getElem?_eq_getElem (by omega)
  have hlastLine : lastLine range lines = last := lastLine_below hlast hbelow
  by_cases hback : row = last ∧ stop < column
  · obtain ⟨rfl, hback⟩ := hback
    obtain ⟨edit, hdelete, hcursor, hlost⟩ :=
      deleteRange_backward hl hfirst hstart hlastLine hstop hinline hback
    refine ⟨edit, hdelete, hcursor, iff_of_false hlost ?_⟩
    rw [hstart, hstop]
    exact not_not_intro ⟨Int.ofNat_inj.2 hlast, Int.ofNat_lt.2 hback⟩
  · obtain ⟨edit, hdelete, hcursor, hrestored, -⟩ :=
      deleteRange_reinserts_rows hl hfirst hend hstart hlastLine hstop hinline (by omega)
    refine ⟨edit, hdelete, hcursor, iff_of_true hrestored ?_⟩
    rw [hstart, hstop]
    rintro ⟨hsame, hless⟩
    simp only at hsame hless
    exact hback (by omega)

end

/-- A delete of a range that ends below the buffer leaves the cursor where the range begins. The text that it
took gives the buffer back there, unless the range begins on the last row and more than one column behind the
one where it ends. What stops the delete is only a number that the log cannot hold. -/
theorem operate_delete_below_iff {lines : List Text} {range : Range} (hl : SingleLines lines)
    (hinside : Inside lines range.start) (hbelow : (lines.length : Int) ≤ range.stop.line)
    (hcolumn : 0 ≤ range.stop.column) (count : Int) (style : IndentStyle) :
    ∃ edit : Edit, edit.cursor = range.start ∧
      (reinsert edit.lines edit.cursor edit.taken = lines ↔
        ¬(range.start.line + 1 = lines.length ∧ range.stop.column + 1 < range.start.column)) ∧
      (operateKeys ['d'] range lines count style).value =
        if ∀ n ∈ operateNumbers range count, Loggable n.natAbs then .ok (some edit)
        else .error .numberTooLong := by
  obtain ⟨edit, hdelete, hcursor, hback⟩ := deleteRange_below_iff hl hinside hbelow hcolumn
  refine ⟨edit, hcursor, hback, ?_⟩
  show (Operator.delete.operate range lines count style).value = _
  rw [Operator.value_operate_loggable rfl, Operator.onRange, hdelete]

/-- A range that begins inside the first of two rows and ends well below the second, in its first column. -/
theorem operate_delete_below_iff_rows :
    let lines : List Text := [['a', 'b'], ['c', 'd']]
    let range : Range := ⟨⟨0, 1⟩, ⟨5, 0⟩⟩
    (SingleLines lines ∧ Inside lines range.start ∧ (lines.length : Int) ≤ range.stop.line ∧
      0 ≤ range.stop.column) ∧
    ∃ edit : Edit, edit.cursor = range.start ∧
      reinsert edit.lines edit.cursor edit.taken = lines ∧
      (operateKeys ['d'] range lines 1 {}).value = .ok (some edit) := by
  intro lines range
  have hl : SingleLines lines := by
    unfold SingleLines
    decide
  have hinside : Inside lines range.start := ⟨0, 1, ['a', 'b'], rfl, rfl, by decide⟩
  obtain ⟨edit, hcursor, hback, hdelete⟩ :=
    operate_delete_below_iff hl hinside (by decide) (by decide) 1 {}
  rw [if_pos (by decide)] at hdelete
  exact ⟨⟨hl, hinside, by decide, by decide⟩, edit, hcursor, hback.2 (by decide), hdelete⟩

/-- At the end of a line of two letters, with a column that was meant for the row below: the second letter is
doubled, and nothing is taken that could tell. -/
theorem operate_delete_below_doubles :
    let lines : List Text := [['a', 'b']]
    let range : Range := ⟨⟨0, 2⟩, ⟨1, 0⟩⟩
    (SingleLines lines ∧ Inside lines range.start ∧ (lines.length : Int) ≤ range.stop.line ∧
      0 ≤ range.stop.column) ∧
    (operateKeys ['d'] range lines 1 {}).value = .ok (some ⟨[['a', 'b', 'b']], [], ⟨0, 2⟩⟩) ∧
    reinsert [['a', 'b', 'b']] ⟨0, 2⟩ [] ≠ lines := by
  intro lines range
  have hl : SingleLines lines := by
    unfold SingleLines
    decide
  refine ⟨⟨hl, ⟨0, 2, ['a', 'b'], rfl, rfl, by decide⟩, by decide, by decide⟩, ?_, by decide⟩
  show (Operator.delete.operate range lines 1 {}).value = _
  rw [Operator.value_operate_loggable rfl, if_pos (by decide)]
  rfl

end ModalEditor
